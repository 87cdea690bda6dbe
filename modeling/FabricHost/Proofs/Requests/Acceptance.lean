import FabricHost.Proofs.KeepAlive.Quiet
import FabricHost.Proofs.Session.Asking
import FabricHost.Proofs.Watching.Admission

/-!
# What is accepted of a read or a write

A command that finds no slot is handed out again, as often as it takes, but once a queue pair has accepted it, the call
only waits for it. So of a read or a write at most one command reaches the I/O queue, however the call ends, and at most
one identify goes before it.
-/

namespace FabricHost

/-- A command that was accepted, and the number of the queue pair that has it. -/
def Sight.accepted? : Sight → Option (Nat × Command)
  | handed queue command true => some (queue, command)
  | _ => none

/-- The commands that were accepted since the present call began, in that order. -/
def Seen.accepted {W : Type} (seen : Seen W) : List (Nat × Command) := seen.sights.filterMap Sight.accepted?

variable {W C Q : Type} [Fabric W C Q] [Clock W]

omit [Fabric W C Q] in
@[simp]
lemma Seen.accepted_now (seen : Seen W) : (Clock.now seen).2.accepted = seen.accepted := by
  simp [accepted, Clock.now, Sight.accepted?]

namespace Channel

variable (channel : Channel (Numbered Q)) (seen : Seen W) (request : RequestId) (command : Command)

omit [Clock W] in
/-- A command is accepted, or it is not and the caller is told. -/
lemma submit_accepted :
    let result := channel.submit request command seen
    result.2.1.queue.number = channel.queue.number ∧
      ((∃ error, result.1 = .error error) ∧ result.2.2.accepted = seen.accepted ∨
        result.1 = .ok () ∧ result.2.2.accepted = seen.accepted ++ [(channel.queue.number, command)]) := by
  simp only [submit, QueuePairs.submit, Seen.accepted]
  rcases QueuePairs.submit channel.queue.handle command seen.world with ⟨error | _, handle, world⟩
  · exact ⟨rfl, .inl ⟨⟨error, rfl⟩, by simp [Sight.accepted?, Except.isOk, Except.toBool]⟩⟩
  · exact ⟨rfl, .inr ⟨rfl, by simp [Sight.accepted?, Except.isOk, Except.toBool]⟩⟩

omit [Clock W] in
lemma reap_accepted :
    (channel.reap seen).2.1.queue.number = channel.queue.number ∧ (channel.reap seen).2.2.accepted = seen.accepted := by
  obtain ⟨hnumber, -, hsights⟩ := channel.reap_unseen seen
  exact ⟨hnumber, congrArg (List.filterMap Sight.accepted?) hsights⟩

variable (deadline : Tick) (budget : Nat)

/-- The loop that submits ends when the command is accepted. -/
lemma submitBy_accepted :
    let result := submitBy deadline request command budget channel seen
    (∃ error, result.1 = .error error) ∧ result.2.2.accepted = seen.accepted ∨
      result.1 = .ok () ∧ result.2.2.accepted = seen.accepted ++ [(channel.queue.number, command)] := by
  induction budget generalizing channel seen with
  | zero => exact .inl ⟨⟨_, rfl⟩, rfl⟩
  | succ budget ih =>
    obtain ⟨hnumber, haccepted⟩ := channel.submit_accepted seen request command
    unfold submitBy
    rcases hsubmit : channel.submit request command seen with ⟨(_ | failure) | _, full, after⟩
    all_goals
      rw [hsubmit] at hnumber haccepted
      simp only at hnumber haccepted ⊢
    · have hsame : after.accepted = seen.accepted := by simpa using haccepted
      split
      · exact .inl ⟨⟨_, rfl⟩, by rw [Seen.accepted_now, hsame]⟩
      · obtain ⟨hreapedNumber, hreaped⟩ := full.reap_accepted (Clock.now after).2
        rcases hreap : full.reap (Clock.now after).2 with ⟨failure | _, reaped, last⟩
        all_goals
          rw [hreap, Seen.accepted_now, hsame] at hreaped
          rw [hreap, hnumber] at hreapedNumber
          simp only at hreapedNumber hreaped ⊢
        · exact .inl ⟨⟨_, rfl⟩, hreaped⟩
        · have hagain := ih reaped last
          rwa [hreapedNumber, hreaped] at hagain
    · exact .inl ⟨⟨_, rfl⟩, by simpa using haccepted⟩
    · exact .inr ⟨trivial, by simpa using haccepted⟩

/-- Who waits has nothing accepted. -/
lemma awaitBy_accepted : (awaitBy deadline request budget channel seen).2.2.accepted = seen.accepted := by
  induction budget generalizing channel seen with
  | zero => rfl
  | succ budget ih =>
    obtain ⟨-, hreaped⟩ := channel.reap_accepted seen
    unfold awaitBy
    rcases hreap : channel.reap seen with ⟨failure | _, reaped, last⟩
    all_goals
      rw [hreap] at hreaped
      simp only at hreaped ⊢
    · exact hreaped
    · rcases reaped.take request with ⟨_ | _, taken⟩
      · simp only
        split
        · exact (Seen.accepted_now last).trans hreaped
        · rw [ih, Seen.accepted_now, hreaped]
      · exact hreaped

/-- A command that is waited for is accepted once, or the call fails and it was accepted never. -/
lemma execute_accepted :
    let result := channel.execute budget deadline request command seen
    (∃ error, result.1 = .error error) ∧ result.2.2.accepted = seen.accepted ∨
      result.2.2.accepted = seen.accepted ++ [(channel.queue.number, command)] := by
  have hsubmit := channel.submitBy_accepted seen request command deadline budget
  unfold execute
  rcases heq : submitBy deadline request command budget channel seen with ⟨error | _, submitted, after⟩
  all_goals
    rw [heq] at hsubmit
    simp only at hsubmit ⊢
  · exact .inl ⟨⟨error, rfl⟩, by simpa using hsubmit⟩
  · rw [awaitBy_accepted]
    exact .inr (by simpa using hsubmit)

end Channel

namespace Session

/-- What may be accepted of a read or a write on a session: an identify of the namespace, if its geometry is not remembered,
and then the command, each once or not at all. Only a call that fails can do without its command. -/
def AcceptedOnce (session : Session C (Numbered Q)) (nsid : UInt32) (command : Command) (failed : Prop)
    (new : List (Nat × Command)) : Prop :=
  ∃ asked moved, new = asked ++ moved ∧
    (asked = [] ∨ session.geometries[nsid]? = none ∧ asked = [(session.admin.queue.number, .identifyNamespace nsid)]) ∧
    (failed ∧ moved = [] ∨ ∃ io, session.io = some io ∧ moved = [(io.queue.number, command)])

/-- The I/O queue accepted the command once, or something failed and it accepted nothing. -/
def MovedOnce (session : Session C (Numbered Q)) (command : Command) (failed : Prop) (before after : Seen W) : Prop :=
  failed ∧ after.accepted = before.accepted ∨
    ∃ io, session.io = some io ∧ after.accepted = before.accepted ++ [(io.queue.number, command)]

variable (session : Session C (Numbered Q)) (seen : Seen W) (config : Config)

lemma executeIo_accepted (budget : Nat) (deadline : Tick) (request : RequestId) (command : Command) :
    let result := session.executeIo budget deadline request command seen
    session.MovedOnce command (∃ error, result.1 = .error error) seen result.2.2 := by
  unfold executeIo
  cases hio : session.io with
  | none => exact .inl ⟨⟨_, rfl⟩, rfl⟩
  | some io =>
    rcases io.execute_accepted seen request command deadline budget with ⟨⟨error, hfailed⟩, hsame⟩ | hmoved
    · refine .inl ⟨⟨error, ?_⟩, hsame⟩
      simp only [hfailed]
      rfl
    · exact .inr ⟨io, hio, hmoved⟩

omit [Clock W] in
lemma submitIo_accepted (request : RequestId) (command : Command) :
    let result := session.submitIo request command seen
    session.MovedOnce command (∃ error, result.1 = .error error) seen result.2.2 := by
  unfold submitIo
  cases hio : session.io with
  | none => exact .inl ⟨⟨_, rfl⟩, rfl⟩
  | some io =>
    obtain ⟨hnumber, haccepted⟩ := io.submit_accepted seen request command
    simp only
    rcases hsubmit : io.submit request command seen with ⟨(_ | failure) | _, full, after⟩
    all_goals
      rw [hsubmit] at hnumber haccepted
      simp only at hnumber haccepted ⊢
    · -- a full queue has accepted nothing, so the command that is handed out again is the first that can be
      have hsame : after.accepted = seen.accepted := by simpa using haccepted
      obtain ⟨hreapedNumber, hreaped⟩ := full.reap_accepted after
      rcases hreap : full.reap after with ⟨failure | _, reaped, last⟩
      all_goals
        rw [hreap, hsame] at hreaped
        rw [hreap, hnumber] at hreapedNumber
        simp only at hreapedNumber hreaped ⊢
      · exact .inl ⟨⟨_, rfl⟩, hreaped⟩
      · obtain ⟨-, hagain⟩ := reaped.submit_accepted last request command
        rw [hreapedNumber, hreaped] at hagain
        rcases hlast : reaped.submit request command last with ⟨(_ | failure) | _, _, _⟩
        all_goals
          rw [hlast] at hagain
          simp only at hagain ⊢
        · exact .inl ⟨⟨_, rfl⟩, by simpa using hagain⟩
        · exact .inl ⟨⟨_, rfl⟩, by simpa using hagain⟩
        · exact .inr ⟨io, hio, by simpa using hagain⟩
    · exact .inl ⟨⟨_, rfl⟩, by simpa using haccepted⟩
    · exact .inr ⟨io, hio, by simpa using haccepted⟩

/-- Before a range is permitted an identify may be accepted, if the geometry is not remembered. -/
lemma permit_accepted (last : RequestId) (range : BlockRange) (available : Nat) :
    ∃ asked, (session.permit config last range available seen).2.2.2.accepted = seen.accepted ++ asked ∧
      (asked = [] ∨ session.geometries[range.nsid]? = none ∧
        asked = [(session.admin.queue.number, .identifyNamespace range.nsid)]) := by
  rcases session.permit_cases seen config last range available with ⟨_, heq⟩ | ⟨hunknown, _, _, heq⟩
  · exact ⟨[], by rw [heq, List.append_nil], .inl rfl⟩
  · have hexecuted := session.admin.execute_accepted (Clock.now seen).2 (last + 1) (.identifyNamespace range.nsid)
      (Tick.after (Clock.now seen).1 config.adminTimeoutMs) config.pollBudget
    rw [heq]
    simp only [Seen.accepted_now] at hexecuted ⊢
    rcases hexecuted with ⟨-, hsame⟩ | hasked
    · exact ⟨[], by rw [hsame, List.append_nil], .inl rfl⟩
    · exact ⟨_, hasked, .inr ⟨hunknown, rfl⟩⟩

/-- An action under a new number that hands one command to the I/O queue, which accepts it once, unless the action fails. -/
def MovesOnce {α : Type} (command : Command)
    (action : RequestId → Session C (Numbered Q) → Seen W → Except HostError α × Session C (Numbered Q) × Seen W) : Prop :=
  ∀ request (session : Session C (Numbered Q)) seen,
    session.MovedOnce command (∃ error, (action request session seen).1 = .error error) seen (action request session seen).2.2

omit [Fabric W C Q] [Clock W] in
lemma MovedOnce.imp {session : Session C (Numbered Q)} {command : Command} {failed failed' : Prop} {before after : Seen W}
    (h : session.MovedOnce command failed before after) (hfailed : failed → failed') :
    session.MovedOnce command failed' before after := Or.imp_left (And.imp_left hfailed) h

lemma readPermitted_movesOnce (deadline : Tick) (range : BlockRange) (buffer : Bytes) :
    MovesOnce (W := W) (C := C) (Q := Q) (.read range.nsid range.start range.count)
      (readPermitted config deadline range buffer) := by
  intro request session seen
  refine (session.executeIo_accepted seen config.pollBudget deadline request _).imp ?_
  rintro ⟨error, hfailed⟩
  exact ⟨error, by simp only [readPermitted, hfailed]; rfl⟩

lemma writePermitted_movesOnce (deadline : Tick) (range : BlockRange) (data : Bytes) :
    MovesOnce (W := W) (C := C) (Q := Q) (.write range.nsid range.start range.count (data.take range.length))
      (writePermitted config deadline range data) := by
  intro request session seen
  refine (session.executeIo_accepted seen config.pollBudget deadline request _).imp ?_
  rintro ⟨error, hfailed⟩
  exact ⟨error, by simp only [writePermitted, hfailed]; rfl⟩

omit [Clock W] in
lemma submitPermitted_movesOnce (command : Command) :
    MovesOnce (W := W) (C := C) (Q := Q) command (submitPermitted command) := by
  intro request session seen
  refine (session.submitIo_accepted seen request command).imp ?_
  rintro ⟨error, hfailed⟩
  exact ⟨error, by simp only [submitPermitted, hfailed]; rfl⟩

variable {α : Type} {command : Command}
  {action : RequestId → Session C (Numbered Q) → Seen W → Except HostError α × Session C (Numbered Q) × Seen W}

lemma permitted_accepted (haction : MovesOnce command action) (last : RequestId) (range : BlockRange) (available : Nat) :
    let result := session.permitted config last range available action seen
    ∃ new, result.2.2.2.accepted = seen.accepted ++ new ∧
      session.AcceptedOnce range.nsid command (∃ error, result.1 = .error error) new := by
  obtain ⟨asked, hasked, hunknown⟩ := session.permit_accepted seen config last range available
  have hio := session.permit_io seen config last range available
  unfold permitted
  split
  all_goals
    rename_i heq
    rw [heq] at hasked hio
    simp only at hasked hio ⊢
  · exact ⟨asked, hasked, asked, [], (List.append_nil _).symm, hunknown, .inl ⟨⟨_, rfl⟩, rfl⟩⟩
  · rcases haction _ _ _ with ⟨hfailed, hsame⟩ | ⟨io, hsome, hmoved⟩
    · exact ⟨asked, hsame.trans hasked, asked, [], (List.append_nil _).symm, hunknown, .inl ⟨hfailed, rfl⟩⟩
    · exact ⟨_, hmoved.trans (by rw [hasked, List.append_assoc]), asked, _, rfl, hunknown, .inr ⟨io, hio ▸ hsome, rfl⟩⟩

end Session

/-- What may be accepted of a read or a write that a host is asked for: what may be on the session of that key. -/
def IoRequest.AcceptedOnce (request : IoRequest) (host : Host C (Numbered Q)) (command : Command) (failed : Prop)
    (new : List (Nat × Command)) : Prop :=
  failed ∧ new = [] ∨ ∃ session, host.registry.find? request.key = some session ∧
    session.AcceptedOnce request.range.nsid command failed new

omit [Fabric W C Q] [Clock W] in
lemma IoRequest.AcceptedOnce.imp {request : IoRequest} {host : Host C (Numbered Q)} {command : Command}
    {failed failed' : Prop} {new : List (Nat × Command)} (h : request.AcceptedOnce host command failed new)
    (hfailed : failed → failed') : request.AcceptedOnce host command failed' new := by
  rcases h with ⟨hfirst, hnone⟩ | ⟨session, hfind, asked, moved, hsplit, hasked, hmoved⟩
  · exact .inl ⟨hfailed hfirst, hnone⟩
  · exact .inr ⟨session, hfind, asked, moved, hsplit, hasked, hmoved.imp_left (And.imp_left hfailed)⟩

namespace Host

variable {host : Host C (Numbered Q)}

lemma onLive_accepted {α : Type} {command : Command}
    {action : RequestId → Session C (Numbered Q) → Seen W → Except HostError α × Session C (Numbered Q) × Seen W}
    (haction : Session.MovesOnce command action) (request : IoRequest) (seen : Seen W) :
    let result := host.onLive request.key
      (fun last session => session.permitted host.config last request.range request.available action) seen
    ∃ new, result.2.2.accepted = seen.accepted ++ new ∧
      request.AcceptedOnce host command (∃ error, result.1 = .error error) new := by
  unfold onLive
  cases hfind : host.registry.find? request.key with
  | none => exact ⟨[], (List.append_nil _).symm, .inl ⟨⟨_, rfl⟩, rfl⟩⟩
  | some session =>
    simp only
    split
    · obtain ⟨new, hnew, honce⟩ := session.permitted_accepted seen host.config haction host.lastRequest request.range
        request.available
      exact ⟨new, hnew, .inr ⟨session, hfind, honce⟩⟩
    · exact ⟨[], (List.append_nil _).symm, .inl ⟨⟨_, rfl⟩, rfl⟩⟩

/-- Reads and writes, synchronous or not, have their command accepted once. -/
lemma perform_accepted {call : HostCall} {request : IoRequest} {command : Command}
    (hrequest : call.ioRequest? = some request) (hcommand : call.ioCommand? = some command) (seen : Seen W) :
    let result := host.perform call seen
    ∃ new, result.2.2.accepted = seen.accepted ++ new ∧
      request.AcceptedOnce host command (result.1.error?.isSome = true) new := by
  cases call with
  | read key range buffer =>
    cases hrequest
    cases hcommand
    simp only [perform]
    rw [read_eq_permitted]
    obtain ⟨new, hnew, honce⟩ := onLive_accepted (Session.readPermitted_movesOnce host.config
      (Tick.after (Clock.now seen).1 host.config.ioTimeoutMs) range buffer) ⟨key, range, buffer.length⟩ (Clock.now seen).2
    exact ⟨new, by simpa using hnew, honce.imp (HostAnswer.error?_isSome .data fun _ => rfl)⟩
  | write key range data =>
    cases hrequest
    cases hcommand
    simp only [perform]
    rw [write_eq_permitted]
    obtain ⟨new, hnew, honce⟩ := onLive_accepted (Session.writePermitted_movesOnce host.config
      (Tick.after (Clock.now seen).1 host.config.ioTimeoutMs) range data) ⟨key, range, data.length⟩ (Clock.now seen).2
    exact ⟨new, by simpa using hnew, honce.imp (HostAnswer.error?_isSome .done fun _ => rfl)⟩
  | submitRead key range =>
    cases hrequest
    cases hcommand
    simp only [perform]
    rw [submitRead_eq_permitted]
    obtain ⟨new, hnew, honce⟩ :=
      onLive_accepted (Session.submitPermitted_movesOnce _) ⟨key, range, range.length⟩ seen
    exact ⟨new, hnew, honce.imp (HostAnswer.error?_isSome (fun result => .submitted (result.map _)) fun _ => rfl)⟩
  | submitWrite key range data =>
    cases hrequest
    cases hcommand
    simp only [perform]
    rw [submitWrite_eq_permitted]
    obtain ⟨new, hnew, honce⟩ :=
      onLive_accepted (Session.submitPermitted_movesOnce _) ⟨key, range, data.length⟩ seen
    exact ⟨new, hnew, honce.imp (HostAnswer.error?_isSome (fun result => .submitted (result.map _)) fun _ => rfl)⟩
  | _ => cases hrequest

end Host

/-- After any run, a read or a write, synchronous or not, has at most one identify and then at most one command accepted,
the one that the call is for, by the queue pairs of the session of its key; the identify only if the session did not
remember the geometry of the namespace. A call that does not fail had its command accepted once. -/
theorem no_silent_retry (config : Config) (world : W) (calls : List (HostCall × (W → W))) :
    let story := (Host.ofConfig config : Host C (Numbered Q)).story ({ world } : Seen W) calls
    let host := story.2.1
    (Host.ofConfig config : Host C Q).run world calls =
        story.map (List.map Episode.entry) (Prod.map (Seen.plain W C Q).host Seen.world) ∧
      ∀ (call : HostCall) (request : IoRequest) (command : Command) (now : W), call.ioRequest? = some request →
        call.ioCommand? = some command →
          let next := host.perform call (story.2.2.begin fun _ => now)
          ∃ asked moved, next.2.2.accepted = asked ++ moved ∧ asked.length ≤ 1 ∧ moved.length ≤ 1 ∧
            (∀ entry ∈ asked, ∃ session, host.registry.find? request.key = some session ∧
              session.geometries[request.range.nsid]? = none ∧
              entry = (session.admin.queue.number, .identifyNamespace request.range.nsid)) ∧
            (∀ entry ∈ moved, ∃ session io, host.registry.find? request.key = some session ∧ session.io = some io ∧
              entry = (io.queue.number, command)) ∧
            (next.1.error? = none → moved.length = 1) := by
  intro story host
  refine ⟨Host.run_plain config world calls, fun call request command now hrequest hcommand => ?_⟩
  obtain ⟨new, hnew, honce⟩ := host.perform_accepted hrequest hcommand (story.2.2.begin fun _ => now)
  intro next
  have hanswer : next.1.error? = none → ¬ next.1.error?.isSome = true := fun hnone => by simp [hnone]
  have haccepted : next.2.2.accepted = new := hnew
  rcases honce with ⟨hfailed, rfl⟩ | ⟨session, hfind, asked, moved, rfl, hasked, hmoved⟩
  · exact ⟨[], [], haccepted, Nat.zero_le 1, Nat.zero_le 1, nofun, nofun, fun hnone => (hanswer hnone hfailed).elim⟩
  · refine ⟨asked, moved, haccepted, ?_, ?_, fun entry hentry => ?_, fun entry hentry => ?_, fun hnone => ?_⟩
    · rcases hasked with rfl | ⟨-, rfl⟩
      · exact Nat.zero_le 1
      · exact Nat.le_refl 1
    · rcases hmoved with ⟨-, rfl⟩ | ⟨io, -, rfl⟩
      · exact Nat.zero_le 1
      · exact Nat.le_refl 1
    · rcases hasked with rfl | ⟨hunknown, rfl⟩
      · cases hentry
      · exact ⟨session, hfind, hunknown, List.mem_singleton.mp hentry⟩
    · rcases hmoved with ⟨-, rfl⟩ | ⟨io, hio, rfl⟩
      · cases hentry
      · exact ⟨session, io, hfind, hio, List.mem_singleton.mp hentry⟩
    · obtain ⟨io, -, rfl⟩ := hmoved.resolve_left fun hfailed => hanswer hnone hfailed.1
      rfl

end FabricHost
