import FabricHost.Proofs.Session.Steps
import FabricHost.Rule

/-!
# What a session does not answer

What a session finds wrong itself has a cause: the fabric, the controller, or what it was asked for. Any other error is how
a wait on one of its queues ended, or says that there is no I/O queue to use. So that a session is closed is never said of
one with an I/O queue.
-/

namespace FabricHost

/-- Whether an error blames the fabric, the controller or what was asked for. -/
def HostError.hasCause : HostError → Bool
  | timeout => false
  | sessionClosed => false
  | pollsExhausted => false
  | _ => true

lemma error_ne_of_hasCause {α : Type} {cause error : HostError} (hcause : cause.hasCause = true)
    (herror : error.hasCause = false) : (.error cause : Except HostError α) ≠ .error error := by
  rintro ⟨⟩
  rw [hcause] at herror
  cases herror

/-- One action after another fails where the first or the second does. -/
lemma bind_ne_error {ε α β : Type} {first : Except ε α} {next : α → Except ε β} {error : ε}
    (hfirst : first ≠ .error error) (hnext : ∀ value, next value ≠ .error error) : first >>= next ≠ .error error :=
  fun h => (bind_eq_error_iff.mp h).elim hfirst fun ⟨value, _, hvalue⟩ => hnext value hvalue

lemma map_ne_error {ε α β : Type} {result : Except ε α} {f : α → β} {error : ε} (h : result ≠ .error error) :
    result.map f ≠ .error error := fun heq => h (map_eq_error_iff.mp heq)

namespace Channel

variable {W Q : Type} [QueuePairs W Q] [Clock W] (deadline : Tick) (request : RequestId) (command : Command)

lemma submitBy_ne_closed (budget : Nat) (channel : Channel Q) (world : W) :
    (submitBy deadline request command budget channel world).1 ≠ .error .sessionClosed := by
  induction budget generalizing channel world with
  | zero => simp [submitBy]
  | succ budget ih =>
    unfold submitBy
    split
    · simp
    · simp [HostError.ofFailure]
    · simp only
      split
      · simp
      · split
        · simp [HostError.ofFailure]
        · exact ih _ _

lemma awaitBy_ne_closed (budget : Nat) (channel : Channel Q) (world : W) :
    (awaitBy deadline request budget channel world).1 ≠ .error .sessionClosed := by
  induction budget generalizing channel world with
  | zero => simp [awaitBy, giveUp]
  | succ budget ih =>
    unfold awaitBy
    split
    · simp [giveUp, HostError.ofFailure]
    · split
      · simp
      · simp only
        split
        · simp [giveUp]
        · exact ih _ _

lemma execute_ne_closed (channel : Channel Q) (budget : Nat) (world : W) :
    (channel.execute budget deadline request command world).1 ≠ .error .sessionClosed := by
  have hsubmit := submitBy_ne_closed deadline request command budget channel world
  unfold execute
  split
  · rename_i heq
    rw [heq] at hsubmit
    simpa using hsubmit
  · exact awaitBy_ne_closed deadline request budget _ _

lemma successful_ne_error {error : HostError} (herror : error.hasCause = false) (completion : Completion) :
    successful completion ≠ .error error := by
  unfold successful
  split
  · exact fun h => by cases h
  · exact error_ne_of_hasCause rfl herror

end Channel

namespace Session

variable {W C Q : Type} [Fabric W C Q] [Clock W] {session : Session C Q} {world : W}

section

variable {error : HostError} (herror : error.hasCause = false)
include herror

lemma identifyPage_ne_error {budget : Nat} {deadline : Tick} {request : RequestId} {command : Command}
    (hexecute : (session.admin.execute budget deadline request command world).1 ≠ .error error) :
    (session.identifyPage budget deadline request command world).1 ≠ .error error := by
  refine bind_ne_error hexecute fun completion => ?_
  refine bind_ne_error (Channel.successful_ne_error herror completion) fun completion => ?_
  split
  · exact fun h => by cases h
  · exact error_ne_of_hasCause rfl herror

omit [Fabric W C Q] [Clock W] in
/-- A page that cannot be read is the controller's fault. -/
lemma page_ne_error {α : Type} (info : Except PageError α) :
    (info.mapError fun error => HostError.transportError (.page error)) ≠ .error error := by
  cases info with
  | error => exact error_ne_of_hasCause rfl herror
  | ok => exact fun h => by cases h

lemma identifyController_ne_error {budget : Nat} {deadline : Tick} {request : RequestId}
    (hexecute : (session.admin.execute budget deadline request .identifyController world).1 ≠ .error error) :
    (session.identifyController budget deadline request world).1 ≠ .error error :=
  bind_ne_error (identifyPage_ne_error herror hexecute) fun _ => page_ne_error herror _

lemma identifyNamespace_ne_error {budget : Nat} {deadline : Tick} {request : RequestId} {nsid : UInt32}
    (hexecute : (session.admin.execute budget deadline request (.identifyNamespace nsid) world).1 ≠ .error error) :
    (session.identifyNamespace budget deadline request nsid world).1 ≠ .error error := by
  have hinfo : (do (NamespaceInfo.ofPage nsid (← (session.identifyPage budget deadline request (.identifyNamespace nsid)
      world).1)).mapError fun error => HostError.transportError (.page error)) ≠ .error error :=
    bind_ne_error (identifyPage_ne_error herror hexecute) fun _ => page_ne_error herror _
  unfold identifyNamespace
  simp only
  split
  · rename_i heq
    rw [heq] at hinfo
    simpa using hinfo
  · exact fun h => by cases h

omit [Fabric W C Q] [Clock W] in
lemma checkNamespace_ne_error (session : Session C Q) (nsid : UInt32) : session.checkNamespace nsid ≠ .error error := by
  unfold checkNamespace
  split
  · exact error_ne_of_hasCause rfl herror
  · exact fun h => by cases h

lemma ensureGeometry_ne_error {config : Config} {last : RequestId} {nsid : UInt32}
    (hexecute : (session.admin.execute config.pollBudget (Tick.after (Clock.now world).1 config.adminTimeoutMs) (last + 1)
      (.identifyNamespace nsid) (Clock.now world).2).1 ≠ .error error) :
    (session.ensureGeometry config last nsid world).1 ≠ .error error := by
  have hcheck := checkNamespace_ne_error herror session nsid
  unfold ensureGeometry
  split
  · exact fun h => by cases h
  · split
    · rename_i heq
      rw [heq] at hcheck
      simpa using hcheck
    · exact map_ne_error (identifyNamespace_ne_error herror hexecute)

lemma permit_ne_error {config : Config} {last : RequestId} {range : BlockRange} (available : Nat)
    (hexecute : (session.admin.execute config.pollBudget (Tick.after (Clock.now world).1 config.adminTimeoutMs) (last + 1)
      (.identifyNamespace range.nsid) (Clock.now world).2).1 ≠ .error error) :
    (session.permit config last range available world).1 ≠ .error error := by
  unfold permit
  split
  · exact error_ne_of_hasCause rfl herror
  · split
    · exact error_ne_of_hasCause rfl herror
    · refine bind_ne_error (ensureGeometry_ne_error herror hexecute) fun geometry => ?_
      unfold checkRange
      split
      · exact error_ne_of_hasCause rfl herror
      · split
        · exact error_ne_of_hasCause rfl herror
        · exact fun h => by cases h

lemma executeIo_ne_error {budget : Nat} {deadline : Tick} {request : RequestId} {command : Command}
    (hnone : session.io = none → error ≠ .sessionClosed)
    (hexecute : ∀ io, session.io = some io → (io.execute budget deadline request command world).1 ≠ .error error) :
    (session.executeIo budget deadline request command world).1 ≠ .error error := by
  unfold executeIo
  split
  · rename_i hio
    exact fun h => hnone hio (Except.error.inj h).symm
  · rename_i io hio
    exact bind_ne_error (hexecute io hio) (Channel.successful_ne_error herror)

lemma readPermitted_ne_error {config : Config} {deadline : Tick} {range : BlockRange} {request : RequestId} (buffer : Bytes)
    (hexecute : (session.executeIo config.pollBudget deadline request (.read range.nsid range.start range.count) world).1 ≠
      .error error) :
    (readPermitted config deadline range buffer request session world).1 ≠ .error error := by
  refine bind_ne_error hexecute fun completion => ?_
  refine bind_ne_error ?_ (fun data => by rintro ⟨⟩)
  unfold readData
  split
  · split
    · exact fun h => by cases h
    · exact error_ne_of_hasCause rfl herror
  · exact error_ne_of_hasCause rfl herror

omit [Clock W] in
lemma submitIo_ne_error (hnone : session.io = none → error ≠ .sessionClosed) (request : RequestId) (command : Command) :
    (session.submitIo request command world).1 ≠ .error error := by
  unfold submitIo
  simp only
  split
  · rename_i hio
    exact fun h => hnone hio (Except.error.inj h).symm
  · split
    · split
      · exact error_ne_of_hasCause rfl herror
      · simp only
        split
        · exact fun h => by cases h
        · exact error_ne_of_hasCause rfl herror
        · exact error_ne_of_hasCause rfl herror
    · simp only
      split
      · exact fun h => by cases h
      · exact error_ne_of_hasCause rfl herror
      · exact error_ne_of_hasCause rfl herror

omit [Clock W] in
lemma pollIo_ne_error (request : RequestId) : (session.pollIo request world).1 ≠ .error error := by
  unfold pollIo
  split
  · exact error_ne_of_hasCause rfl herror
  · split
    · exact error_ne_of_hasCause rfl herror
    · split
      · exact error_ne_of_hasCause rfl herror
      · rename_i io' world' _
        have htaken : (io'.take request).1.mapM Channel.successful ≠ .error error := by
          cases (io'.take request).1 with
          | none => exact fun h => by cases h
          | some completion => exact map_ne_error (Channel.successful_ne_error herror completion)
        exact htaken

omit [Fabric W C Q] [Clock W] in
lemma abandonIo_ne_error (request : RequestId) : (session.abandonIo request).1 ≠ .error error := by
  unfold abandonIo
  split
  · exact error_ne_of_hasCause rfl herror
  · split
    · exact fun h => by cases h
    · exact error_ne_of_hasCause rfl herror

end

/-- A range is not permitted, or its command fails. -/
lemma permitted_ne_error {α : Type} {error : HostError} {config : Config} {last : RequestId} {range : BlockRange}
    {available : Nat} {action : RequestId → Session C Q → W → Except HostError α × Session C Q × W}
    (hpermit : (session.permit config last range available world).1 ≠ .error error)
    (haction : let permitted := (session.permit config last range available world).2
      (action (permitted.1 + 1) permitted.2.1 permitted.2.2).1 ≠ .error error) :
    (session.permitted config last range available action world).1 ≠ .error error := by
  unfold permitted
  split
  · rename_i heq
    rw [heq] at hpermit
    simpa using hpermit
  · rename_i heq
    rw [heq] at haction
    exact haction

lemma permitted_ne_closed {α : Type} (config : Config) (last : RequestId) (range : BlockRange) (available : Nat)
    {action : RequestId → Session C Q → W → Except HostError α × Session C Q × W}
    (haction : ∀ request (session : Session C Q) world, session.io.isSome →
      (action request session world).1 ≠ .error .sessionClosed) (hio : session.io.isSome) :
    (session.permitted config last range available action world).1 ≠ .error .sessionClosed := by
  have hsteps : Steps (fun _ _ => True) (fun _ => True) (session, world)
      (session.permit config last range available world).2.2 :=
    (session.permit_errands world config last range available).steps
  refine permitted_ne_error (permit_ne_error rfl available ?_) (haction _ _ _ (hsteps.io_isSome.trans hio))
  exact session.admin.execute_ne_closed _ _ _ _ _

lemma executeIo_ne_closed (hio : session.io.isSome) (budget : Nat) (deadline : Tick) (request : RequestId)
    (command : Command) : (session.executeIo budget deadline request command world).1 ≠ .error .sessionClosed := by
  refine executeIo_ne_error rfl (fun hnone => ?_) fun io _ => io.execute_ne_closed deadline request command budget world
  rw [hnone] at hio
  cases hio

omit [Clock W] in
lemma submitIo_ne_closed (hio : session.io.isSome) (request : RequestId) (command : Command) :
    (session.submitIo request command world).1 ≠ .error .sessionClosed := by
  refine submitIo_ne_error rfl (fun hnone => ?_) request command
  rw [hnone] at hio
  cases hio

end Session

end FabricHost
