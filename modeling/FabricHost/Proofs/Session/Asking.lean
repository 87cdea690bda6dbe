import FabricHost.Proofs.Session.Steps

/-!
# What a session asks for itself

Before a range is permitted the session may have to ask its controller about the namespace. It does so once, on its admin
queue, and only where the geometry is not remembered; the I/O queue is not touched. What follows on the I/O queue does not
touch the admin queue.
-/

namespace FabricHost.Session

variable {W C Q : Type} [Fabric W C Q] [Clock W] (session : Session C Q) (world : W)

/-- Identifying a namespace is one command on the admin queue, after which a geometry may be remembered. -/
lemma identifyNamespace_cases (budget : Nat) (deadline : Tick) (request : RequestId) (nsid : UInt32) :
    let executed := session.admin.execute budget deadline request (.identifyNamespace nsid) world
    ∃ geometries, (session.identifyNamespace budget deadline request nsid world).2 =
      ({ session with admin := executed.2.1, geometries }, executed.2.2) := by
  unfold identifyNamespace
  simp only
  split
  · exact ⟨session.geometries, rfl⟩
  · exact ⟨_, rfl⟩

variable (config : Config) (last : RequestId)

/-- A geometry is remembered, or the controller is asked for it once. -/
lemma ensureGeometry_cases (nsid : UInt32) :
    (∃ answer, session.ensureGeometry config last nsid world = (answer, last, session, world)) ∨
      session.geometries[nsid]? = none ∧
        let executed := session.admin.execute config.pollBudget (Tick.after (Clock.now world).1 config.adminTimeoutMs)
          (last + 1) (.identifyNamespace nsid) (Clock.now world).2
        ∃ answer geometries, session.ensureGeometry config last nsid world =
          (answer, last + 1, { session with admin := executed.2.1, geometries }, executed.2.2) := by
  unfold ensureGeometry
  split
  · exact .inl ⟨_, rfl⟩
  · rename_i hunknown
    split
    · exact .inl ⟨_, rfl⟩
    · obtain ⟨geometries, heq⟩ := session.identifyNamespace_cases (Clock.now world).2 config.pollBudget
        (Tick.after (Clock.now world).1 config.adminTimeoutMs) (last + 1) nsid
      exact .inr ⟨hunknown, _, geometries, by simp only [heq]; rfl⟩

/-- A range is permitted or refused at once, or the controller is asked about its namespace once. -/
lemma permit_cases (range : BlockRange) (available : Nat) :
    (∃ answer, session.permit config last range available world = (answer, last, session, world)) ∨
      session.geometries[range.nsid]? = none ∧
        let executed := session.admin.execute config.pollBudget (Tick.after (Clock.now world).1 config.adminTimeoutMs)
          (last + 1) (.identifyNamespace range.nsid) (Clock.now world).2
        ∃ answer geometries, session.permit config last range available world =
          (answer, last + 1, { session with admin := executed.2.1, geometries }, executed.2.2) := by
  unfold permit
  split
  · exact .inl ⟨_, rfl⟩
  · split
    · exact .inl ⟨_, rfl⟩
    · rcases session.ensureGeometry_cases world config last range.nsid with
        ⟨_, heq⟩ | ⟨hunknown, _, geometries, heq⟩
      · exact .inl ⟨_, by rw [heq]⟩
      · exact .inr ⟨hunknown, _, geometries, by rw [heq]⟩

lemma permit_io (range : BlockRange) (available : Nat) :
    (session.permit config last range available world).2.2.1.io = session.io := by
  rcases session.permit_cases world config last range available with ⟨_, heq⟩ | ⟨-, _, _, heq⟩ <;> rw [heq]

lemma executeIo_io (budget : Nat) (deadline : Tick) (request : RequestId) (command : Command) :
    ∃ io, (session.executeIo budget deadline request command world).2.1 = { session with io } := by
  unfold executeIo
  split
  · exact ⟨session.io, rfl⟩
  · exact ⟨_, rfl⟩

omit [Clock W] in
lemma submitIo_io (request : RequestId) (command : Command) :
    ∃ io, (session.submitIo request command world).2.1 = { session with io } := by
  unfold submitIo
  simp only
  split
  · exact ⟨session.io, rfl⟩
  · split
    · split <;> exact ⟨_, rfl⟩
    · exact ⟨_, rfl⟩

/-- An action on a session that changes nothing of it but its I/O queue. -/
def OnIo {α : Type} (action : RequestId → Session C Q → W → Except HostError α × Session C Q × W) : Prop :=
  ∀ request session world, ∃ io, (action request session world).2.1 = { session with io }

omit [Fabric W C Q] [Clock W] in
lemma OnIo.key {α : Type} {action : RequestId → Session C Q → W → Except HostError α × Session C Q × W} (h : OnIo action)
    (request : RequestId) (session : Session C Q) (world : W) :
    (action request session world).2.1.key = session.key := by
  obtain ⟨io, hio⟩ := h request session world
  rw [hio]

lemma readPermitted_onIo (deadline : Tick) (range : BlockRange) (buffer : Bytes) :
    OnIo (readPermitted (W := W) (C := C) (Q := Q) config deadline range buffer) :=
  fun _ session world => session.executeIo_io world _ _ _ _

lemma writePermitted_onIo (deadline : Tick) (range : BlockRange) (data : Bytes) :
    OnIo (writePermitted (W := W) (C := C) (Q := Q) config deadline range data) :=
  fun _ session world => session.executeIo_io world _ _ _ _

omit [Clock W] in
lemma submitPermitted_onIo (command : Command) : OnIo (submitPermitted (W := W) (C := C) (Q := Q) command) :=
  fun request session world => session.submitIo_io world request command

omit [Clock W] in
lemma pollIo_admin (request : RequestId) : (session.pollIo request world).2.1.admin = session.admin := by
  unfold pollIo
  split
  · rfl
  · split
    · rfl
    · split <;> rfl

omit [Fabric W C Q] [Clock W] in
lemma abandonIo_admin (request : RequestId) : (session.abandonIo request).2.admin = session.admin := by
  unfold abandonIo
  split
  · rfl
  · split <;> rfl

end FabricHost.Session
