import FabricHost.Proofs.Session.Admission
import FabricHost.Proofs.Watching.Sending

/-!
# Admission to I/O queues

Whatever happened before, a call hands to an I/O queue at most the command that it is for, and only when the session that
the queue belongs to admits the range. A range that is not admitted is answered with an error, and one that is wrong
whatever the geometry is answered before a single command is handed to any queue.
-/

namespace FabricHost

/-- What a read or a write asks for: a session, a range, and the bytes that the caller has for it. -/
structure IoRequest where
  key : SessionKey
  range : BlockRange
  available : Nat

def HostCall.ioRequest? : HostCall → Option IoRequest
  | read key range buffer => some ⟨key, range, buffer.length⟩
  | write key range data => some ⟨key, range, data.length⟩
  | submitRead key range => some ⟨key, range, range.length⟩
  | submitWrite key range data => some ⟨key, range, data.length⟩
  | _ => none

lemma HostAnswer.error?_isSome {α : Type} (answer : Except HostError α → HostAnswer) {result : Except HostError α}
    (hanswer : ∀ error, (answer (.error error)).error? = some error) (h : ∃ error, result = .error error) :
    (answer result).error?.isSome = true := by
  obtain ⟨error, rfl⟩ := h
  rw [hanswer]
  rfl

/-- The command moves the blocks of a range, and if it writes, it carries exactly the bytes of these blocks. -/
def Command.Moves (range : BlockRange) : Command → Prop
  | read nsid start count => nsid = range.nsid ∧ start = range.start ∧ count = range.count
  | write nsid start count data =>
    nsid = range.nsid ∧ start = range.start ∧ count = range.count ∧ data.length = range.count.toNat * 512
  | _ => False

variable {W C Q : Type} [Fabric W C Q] [Clock W]

namespace Session

/-- An action on a session that hands out at most one kind of command on its I/O queue and learns nothing. -/
structure Sends {α : Type} (command : Command)
    (action : RequestId → Session (Numbered C) (Numbered Q) → Watched W →
      Except HostError α × Session (Numbered C) (Numbered Q) × Watched W) : Prop where
  errands : ∀ request session world,
    Errands (fun _ _ => True) (· = command) (session, world) (action request session world).2
  geometries : ∀ request session world, (action request session world).2.1.geometries = session.geometries
  namespaceCount : ∀ request session world, (action request session world).2.1.namespaceCount = session.namespaceCount

lemma Sends.key {α : Type} {command : Command}
    {action : RequestId → Session (Numbered C) (Numbered Q) → Watched W →
      Except HostError α × Session (Numbered C) (Numbered Q) × Watched W} (h : Sends command action) (request : RequestId)
    (session : Session (Numbered C) (Numbered Q)) (world : Watched W) :
    (action request session world).2.1.key = session.key :=
  (h.errands request session world).key

lemma readPermitted_sends (config : Config) (deadline : Tick) (range : BlockRange) (buffer : Bytes) :
    Sends (.read range.nsid range.start range.count)
      (readPermitted (W := Watched W) (C := Numbered C) (Q := Numbered Q) config deadline range buffer) where
  errands request session world := by
    refine session.readPermitted_errands world config deadline range buffer ?_ trivial
    rfl
  geometries _ session world := (session.executeIo_map _ _ _ _ world).1
  namespaceCount _ session world := (session.executeIo_map _ _ _ _ world).2

lemma writePermitted_sends (config : Config) (deadline : Tick) (range : BlockRange) (data : Bytes) :
    Sends (.write range.nsid range.start range.count (data.take range.length))
      (writePermitted (W := Watched W) (C := Numbered C) (Q := Numbered Q) config deadline range data) where
  errands request session world := by
    refine session.writePermitted_errands world config deadline range data ?_ trivial
    rfl
  geometries _ session world := (session.executeIo_map _ _ _ _ world).1
  namespaceCount _ session world := (session.executeIo_map _ _ _ _ world).2

lemma submitPermitted_sends (command : Command) :
    Sends command (submitPermitted (W := Watched W) (C := Numbered C) (Q := Numbered Q) command) where
  errands request session world := by
    refine session.submitPermitted_errands world ?_ trivial
    rfl
  geometries _ session world := (session.submitIo_map _ _ world).1
  namespaceCount _ session world := (session.submitIo_map _ _ world).2

section

variable {α : Type} {command : Command} {session : Session (Numbered C) (Numbered Q)} (config : Config)
  (last : RequestId) (range : BlockRange) (available : Nat)
  {action : RequestId → Session (Numbered C) (Numbered Q) → Watched W →
    Except HostError α × Session (Numbered C) (Numbered Q) × Watched W} (world : Watched W)

/-- The command is handed out only once the range is admitted, and what is not admitted is an error. -/
lemma permitted_admission (hmapped : session.Mapped) (haction : Sends command action) :
    let result := session.permitted config last range available action world
    (∃ error, result.1 = .error error) ∧ Watched.Sends (fun entry => entry.2.isAdmin = true) world result.2.2.2 ∨
      result.2.2.1.Admits range available ∧ Watched.Sends (result.2.2.1.Hands (· = command)) world result.2.2.2 := by
  have hpermit : Steps (fun _ _ => False) (fun _ => False) (session, world)
      (session.permit config last range available world).2.2 :=
    (session.permit_errands world config last range available).steps
  have hadmin : Watched.Sends (fun entry => entry.2.isAdmin = true) world
      (session.permit config last range available world).2.2.2 :=
    hpermit.sends.2.mono fun entry hentry => hentry.resolve_right fun ⟨_, hnone⟩ => hnone
  have hadmits : (session.permit config last range available world).1 = .ok () →
      (session.permit config last range available world).2.2.1.Admits range available := admits_of_permit hmapped
  intro result
  simp only [result, permitted]
  split
  · rename_i error _ _ _ heq
    rw [heq] at hadmin
    exact .inl ⟨⟨error, rfl⟩, hadmin⟩
  · rename_i last' session' world' heq
    rw [heq] at hadmin hadmits
    obtain ⟨hlike, hsent⟩ := (haction.errands (last' + 1) session' world').steps.sends
    refine .inr ⟨(hadmits rfl).congr (haction.geometries _ _ _) (haction.namespaceCount _ _ _), ?_⟩
    refine (hadmin.mono fun entry hentry => .inl hentry).trans (hsent.mono fun entry hentry => ?_)
    exact hentry.imp_right fun ⟨hnumber, hsends⟩ => ⟨hlike.io.trans hnumber, hsends⟩

variable (action) in
/-- What is wrong with a range whatever the geometry is an error before anything is handed out. -/
lemma permitted_refused (hmapped : session.Mapped)
    (h : range.count = 0 ∨ available < range.count.toNat * 512 ∨ session.checkNamespace range.nsid ≠ .ok ()) :
    ∃ error, session.permitted config last range available action world = (.error error, last, session, world) := by
  have hpermit : ∃ error, session.permit config last range available world = (.error error, last, session, world) :=
    permit_refused hmapped h
  obtain ⟨error, heq⟩ := hpermit
  refine ⟨error, ?_⟩
  unfold permitted
  rw [heq]

end

end Session

/-- What a call that is for a request hands to queue pairs on its way from one host to the next. -/
structure IoRequest.Obeyed (request : IoRequest) (before after : Host (Numbered C) (Numbered Q)) (failed : Prop)
    (new : List (Nat × Command)) : Prop where
  /-- What is not for an admin queue is what the request asks for, on the queue of a session that admits it. -/
  admitted : ∀ number command, (number, command) ∈ new → command.isAdmin = false →
    ∃ session io, after.registry.find? request.key = some session ∧ session.io = some io ∧ io.queue.number = number ∧
      session.Admits request.range request.available ∧ command.Moves request.range
  refused : (∀ session, after.registry.find? request.key = some session →
      ¬ session.Admits request.range request.available) → failed ∧ ∀ entry ∈ new, entry.2.isAdmin = true
  unasked : (request.range.count = 0 ∨ request.available < request.range.count.toNat * 512 ∨
      ∀ session, before.registry.find? request.key = some session →
        request.range.nsid = 0 ∨ session.namespaceCount < request.range.nsid) → failed ∧ new = []

omit [Fabric W C Q] [Clock W] in
lemma IoRequest.Obeyed.imp {request : IoRequest} {before after : Host (Numbered C) (Numbered Q)} {failed failed' : Prop}
    {new : List (Nat × Command)} (h : request.Obeyed before after failed new) (himp : failed → failed') :
    request.Obeyed before after failed' new :=
  ⟨h.admitted, fun hnot => (h.refused hnot).imp_left himp, fun hwrong => (h.unasked hwrong).imp_left himp⟩

omit [Fabric W C Q] [Clock W] in
lemma IoRequest.Obeyed.of_nothing (request : IoRequest) (before after : Host (Numbered C) (Numbered Q)) {failed : Prop}
    (h : failed) : request.Obeyed before after failed [] :=
  ⟨fun _ _ hmem => (List.not_mem_nil hmem).elim, fun _ => ⟨h, fun _ hmem => (List.not_mem_nil hmem).elim⟩,
    fun _ => ⟨h, rfl⟩⟩

namespace Host

variable {host : Host (Numbered C) (Numbered Q)} {α : Type}

lemma onLive_obeyed (hmapped : ∀ session ∈ host.registry.sessions, session.Mapped) (request : IoRequest)
    {command : Command} (hmoves : request.range.count.toNat * 512 ≤ request.available → command.Moves request.range)
    {action : RequestId → Session (Numbered C) (Numbered Q) → Watched W →
      Except HostError α × Session (Numbered C) (Numbered Q) × Watched W} (haction : Session.Sends command action)
    (world : Watched W) :
    let result := host.onLive request.key
      (fun last session => session.permitted host.config last request.range request.available action) world
    ∃ new, result.2.2.sent = world.sent ++ new ∧
      request.Obeyed host result.2.1 (∃ error, result.1 = .error error) new := by
  simp only [onLive]
  cases hfind : host.registry.find? request.key with
  | none => exact ⟨[], (List.append_nil _).symm, .of_nothing request _ _ ⟨_, rfl⟩⟩
  | some session =>
    have hsession : session.Mapped := hmapped session (List.mem_of_find?_eq_some hfind)
    dsimp only
    split
    · have hadmission := session.permitted_admission host.config host.lastRequest request.range request.available world
        hsession haction
      have hrefused := session.permitted_refused host.config host.lastRequest request.range request.available action
        world hsession
      generalize hresult : session.permitted host.config host.lastRequest request.range request.available action world =
        result at hadmission hrefused ⊢
      have hkey : result.2.2.1.key = request.key := by
        rw [← hresult, session.permitted_key _ _ _ _ _ _ haction.key, Registry.key_of_find? hfind]
      have hafter : (host.registry.replace result.2.2.1).find? request.key = some result.2.2.1 := by
        rw [Registry.find?_replace, hfind, Option.map_some, if_pos hkey.symm]
      have hunasked : ∀ new, result.2.2.2.sent = world.sent ++ new → (request.range.count = 0 ∨
          request.available < request.range.count.toNat * 512 ∨ ∀ other, host.registry.find? request.key = some other →
            request.range.nsid = 0 ∨ other.namespaceCount < request.range.nsid) →
          (∃ error, result.1 = .error error) ∧ new = [] := by
        intro new hnew hwrong
        have hcheck : request.range.nsid = 0 ∨ session.namespaceCount < request.range.nsid →
            session.checkNamespace request.range.nsid ≠ .ok () := by
          intro hout
          rw [Session.checkNamespace, if_pos hout]
          rintro ⟨⟩
        obtain ⟨error, heq⟩ := hrefused (hwrong.imp_right (Or.imp_right fun hall => hcheck (hall session hfind)))
        rw [heq] at hnew
        exact ⟨⟨error, congrArg Prod.fst heq⟩, (List.append_right_eq_self.mp hnew.symm)⟩
      rcases hadmission with ⟨hfailed, new, hnew, hadmin⟩ | ⟨hadmits, new, hnew, hhands⟩
      · refine ⟨new, hnew, fun number command hmem hio => ?_, fun _ => ⟨hfailed, hadmin⟩, hunasked new hnew⟩
        exact (Bool.false_ne_true (hio.symm.trans (hadmin _ hmem))).elim
      · refine ⟨new, hnew, fun number command hmem hio => ?_, fun hnot => (hnot _ hafter hadmits).elim, hunasked new hnew⟩
        rcases hhands _ hmem with hadmin | ⟨hnumber, rfl⟩
        · exact (Bool.false_ne_true (hio.symm.trans hadmin)).elim
        · obtain ⟨io, hio, hnumber⟩ := Option.map_eq_some_iff.mp hnumber
          exact ⟨_, io, hafter, hio, hnumber, hadmits, hmoves hadmits.available⟩
    · exact ⟨[], (List.append_nil _).symm, .of_nothing request _ _ ⟨_, rfl⟩⟩

lemma read_moves (range : BlockRange) : (Command.read range.nsid range.start range.count).Moves range := ⟨rfl, rfl, rfl⟩

lemma write_moves (range : BlockRange) {data : Bytes} (h : range.count.toNat * 512 ≤ data.length) :
    (Command.write range.nsid range.start range.count (data.take range.length)).Moves range :=
  ⟨rfl, rfl, rfl, by rw [List.length_take]; exact Nat.min_eq_left h⟩

/-- A call for a request obeys it, and any other call hands out only admin commands. -/
lemma perform_obeyed (hnodup : host.registry.keys.Nodup) (hmapped : ∀ session ∈ host.registry.sessions, session.Mapped)
    (call : HostCall) (world : Watched W) :
    ∃ new, (host.perform call world).2.2.sent = world.sent ++ new ∧
      match call.ioRequest? with
      | none => ∀ entry ∈ new, entry.2.isAdmin = true
      | some request =>
        request.Obeyed host (host.perform call world).2.1 ((host.perform call world).1.error?.isSome = true) new := by
  have hnothing : call.isTraffic = false → ∃ new, (host.perform call world).2.2.sent = world.sent ++ new ∧
      ∀ entry ∈ new, entry.2.isAdmin = true := fun htraffic =>
    ⟨[], by rw [host.sent_perform world htraffic, List.append_nil], fun _ hmem => (List.not_mem_nil hmem).elim⟩
  cases call with
  | read key range buffer =>
    simp only [perform]
    rw [read_eq_permitted]
    obtain ⟨new, hnew, hobeyed⟩ := onLive_obeyed hmapped ⟨key, range, buffer.length⟩ (fun _ => read_moves range)
      (Session.readPermitted_sends host.config (Tick.after (Clock.now world).1 host.config.ioTimeoutMs) range buffer)
      (Clock.now world).2
    exact ⟨new, hnew, hobeyed.imp (HostAnswer.error?_isSome .data fun _ => rfl)⟩
  | write key range data =>
    simp only [perform]
    rw [write_eq_permitted]
    obtain ⟨new, hnew, hobeyed⟩ := onLive_obeyed hmapped ⟨key, range, data.length⟩ (write_moves range)
      (Session.writePermitted_sends host.config (Tick.after (Clock.now world).1 host.config.ioTimeoutMs) range data)
      (Clock.now world).2
    exact ⟨new, hnew, hobeyed.imp (HostAnswer.error?_isSome .done fun _ => rfl)⟩
  | submitRead key range =>
    simp only [perform]
    rw [submitRead_eq_permitted]
    obtain ⟨new, hnew, hobeyed⟩ := onLive_obeyed hmapped ⟨key, range, range.length⟩ (fun _ => read_moves range)
      (Session.submitPermitted_sends _) world
    exact ⟨new, hnew, hobeyed.imp (HostAnswer.error?_isSome (fun result => .submitted (result.map _)) fun _ => rfl)⟩
  | submitWrite key range data =>
    simp only [perform]
    rw [submitWrite_eq_permitted]
    obtain ⟨new, hnew, hobeyed⟩ := onLive_obeyed hmapped ⟨key, range, data.length⟩ (write_moves range)
      (Session.submitPermitted_sends _) world
    exact ⟨new, hnew, hobeyed.imp (HostAnswer.error?_isSome (fun result => .submitted (result.map _)) fun _ => rfl)⟩
  | connect | connectAttempt | disconnect | disconnectAll | reset | reestablish => exact hnothing rfl
  | poll | abandon | identify | tick | tickAt =>
    refine (perform_steps hnodup rfl world).sends ?_
    rintro _ ⟨⟩

end Host

/-- After any run, a read or write that is handed to an I/O queue pair is the one that the call asks for, and the session
that owns the queue pair admits its range; what no session admits is answered with an error and not handed out. An empty
range, too few bytes and the number of no namespace are refused before any command is handed out. Other calls hand out
only admin commands. -/
theorem io_admission {W C Q : Type} [Fabric W C Q] [Clock W] (config : Config) (world : W)
    (calls : List (HostCall × (W → W))) :
    let run := (Host.ofConfig config : Host (Numbered C) (Numbered Q)).run (⟨world, [], []⟩ : Watched W)
      (Host.watchedCalls calls)
    (Host.ofConfig config : Host C Q).run world calls =
        (run.1, (Watched.unwatched W C Q).host run.2.1, run.2.2.world) ∧
      ∀ (call : HostCall) (now : W), ∃ new,
        (run.2.1.perform call { run.2.2 with world := now }).2.2.sent = run.2.2.sent ++ new ∧
          match call.ioRequest? with
          | none => ∀ entry ∈ new, entry.2.isAdmin = true
          | some request =>
            let result := run.2.1.perform call { run.2.2 with world := now }
            request.Obeyed run.2.1 result.2.1 (result.1.error?.isSome = true) new := by
  intro run
  refine ⟨Host.run_watchedCalls config world calls, fun call now => ?_⟩
  have hsound : Host.Sound config run.1 run.2.1 := (Host.Sound.start config).run _ _
  exact Host.perform_obeyed hsound.enrolled.nodup (Host.run_kept Session.mapped_kept config _ _) call _

end FabricHost
