import FabricHost.Proofs.Blocks.Attached
import FabricHost.Proofs.Host.Traffic

/-!
# Controllers of a simulated network

Controllers come by handshakes, under ids that count up, and go when they are released. As long as the ids do not start
over, no session loses its attachment to either.
-/

namespace FabricHost

namespace LoopbackQueue

variable (queue : LoopbackQueue) (net : Loopback)

lemma submit_handshakes (command : Command) :
    (queue.submit command net).2.2.stats.handshakes = net.stats.handshakes := by
  unfold submit
  split
  · rfl
  · split
    · rfl
    · split
      · rfl
      · exact (Loopback.count_calm net command).handshakes

lemma executeAll_stats (name : SubsystemName) (controllerId : UInt16) (entries : List PendingCommand) :
    (executeAll name controllerId entries net).2.stats = net.stats := by
  have hexecute : ∀ (net : Loopback) (id : CommandId) (command : Command),
      (net.execute name controllerId id command).2.stats = net.stats := by
    intro net id command
    unfold Loopback.execute
    split <;> rfl
  induction entries generalizing net with
  | nil => rfl
  | cons entry rest ih => exact (ih _).trans (hexecute net entry.id entry.command)

lemma process_handshakes (limit : Nat) :
    (queue.process limit net).2.2.stats.handshakes = net.stats.handshakes := by
  unfold process
  split
  · rfl
  · split
    · rfl
    · exact congrArg LoopbackStats.handshakes (executeAll_stats _ _ _ _)

end LoopbackQueue

namespace Loopback

/-- What happened in between matters to none of the controllers of some ids, and changed no volume. -/
structure Upholds (ids : List UInt16) (before after : Loopback) : Prop where
  volumes : ∀ name, after.volumes? name = before.volumes? name
  attachments : ∀ id ∈ ids, after.attachments[id]? = before.attachments[id]?
  last : before.lastController.toNat ≤ after.lastController.toNat
  handshakes : before.stats.handshakes ≤ after.stats.handshakes
  counted : before.lastController.toNat ≤ before.stats.handshakes → after.lastController.toNat ≤ after.stats.handshakes
  ioStatus : after.behavior.ioStatus = before.behavior.ioStatus

variable {ids : List UInt16} {first second third : Loopback}

lemma Upholds.trans (h : Upholds ids first second) (h' : Upholds ids second third) : Upholds ids first third where
  volumes name := (h'.volumes name).trans (h.volumes name)
  attachments id hid := (h'.attachments id hid).trans (h.attachments id hid)
  last := Nat.le_trans h.last h'.last
  handshakes := Nat.le_trans h.handshakes h'.handshakes
  counted hcounted := h'.counted (h.counted hcounted)
  ioStatus := h'.ioStatus.trans h.ioStatus

lemma Upholds.subset {ids' : List UInt16} (h : Upholds ids first second) (hsubset : ids' ⊆ ids) : Upholds ids' first second :=
  { h with attachments := fun id hid => h.attachments id (hsubset hid) }

lemma Calm.upholds (h : Calm first second) : Upholds ids first second where
  volumes := h.volumes
  attachments id _ := by rw [h.attachments]
  last := Nat.le_of_eq (congrArg UInt16.toNat h.lastController.symm)
  handshakes := Nat.le_of_eq h.handshakes.symm
  counted hcounted := by rwa [h.lastController, h.handshakes]
  ioStatus := h.ioStatus

/-- A handshake brought a controller that is attached to a subsystem. -/
structure Brings (name : SubsystemName) (association : Association LoopbackController LoopbackQueue)
    (before after : Loopback) : Prop where
  volumes : ∀ other, after.volumes? other = before.volumes? other
  id : association.controller.controllerId = before.nextController
  admin : association.admin =
    { controllerId := association.controller.controllerId, generation := none, depth := adminDepth }
  sizes : ∃ sizes, before.sizes? name = some sizes ∧ association.namespaceCount = UInt32.ofNat sizes.length
  attachments : after.attachments = before.attachments.insert association.controller.controllerId { subsystem := name }
  last : after.lastController = association.controller.controllerId
  handshakes : before.stats.handshakes < after.stats.handshakes
  ioStatus : after.behavior.ioStatus = before.behavior.ioStatus

/-- A handshake failed and left no trace but that it was counted. -/
structure Tried (before after : Loopback) : Prop where
  volumes : ∀ name, after.volumes? name = before.volumes? name
  attachments : after.attachments = before.attachments
  last : after.lastController = before.lastController
  handshakes : before.stats.handshakes ≤ after.stats.handshakes
  ioStatus : after.behavior.ioStatus = before.behavior.ioStatus

lemma Tried.trans (h : Tried first second) (h' : Tried second third) : Tried first third where
  volumes name := (h'.volumes name).trans (h.volumes name)
  attachments := h'.attachments.trans h.attachments
  last := h'.last.trans h.last
  handshakes := Nat.le_trans h.handshakes h'.handshakes
  ioStatus := h'.ioStatus.trans h.ioStatus

lemma Tried.upholds (h : Tried first second) : Upholds ids first second where
  volumes := h.volumes
  attachments id _ := by rw [h.attachments]
  last := Nat.le_of_eq (congrArg UInt16.toNat h.last.symm)
  handshakes := h.handshakes
  counted hcounted := by
    rw [h.last]
    exact Nat.le_trans hcounted h.handshakes
  ioStatus := h.ioStatus

lemma Tried.brings {name : SubsystemName} {association : Association LoopbackController LoopbackQueue}
    (h : Tried first second) (h' : Brings name association second third) : Brings name association first third where
  volumes other := (h'.volumes other).trans (h.volumes other)
  id := by rw [h'.id, nextController, nextController, h.last]
  admin := h'.admin
  sizes := by
    have hsame : second.sizes? name = first.sizes? name := by rw [sizes?, sizes?, h.volumes]
    rw [← hsame]
    exact h'.sizes
  attachments := by rw [h'.attachments, h.attachments]
  last := h'.last
  handshakes := Nat.lt_of_le_of_lt h.handshakes h'.handshakes
  ioStatus := h'.ioStatus.trans h.ioStatus

/-- While ids count up, a controller that is new takes no id away. -/
lemma Brings.upholds {name : SubsystemName} {association : Association LoopbackController LoopbackQueue}
    (h : Brings name association first second) (hcounted : first.lastController.toNat ≤ first.stats.handshakes)
    (hfew : second.stats.handshakes < 65536) (hids : ∀ id ∈ ids, id.toNat ≤ first.lastController.toNat) :
    Upholds ids first second ∧ association.controller.controllerId ∉ ids := by
  have hnext : association.controller.controllerId.toNat = first.lastController.toNat + 1 := by
    have hroom := h.handshakes
    have hsum : (first.lastController + 1).toNat = first.lastController.toNat + 1 := by
      rw [UInt16.toNat_add, UInt16.toNat_one, Nat.mod_eq_of_lt (by omega)]
    have hzero : first.lastController + 1 ≠ 0 := by
      intro hzero
      rw [hzero] at hsum
      cases hsum
    rw [h.id, nextController, if_neg hzero, hsum]
  have hnew : ∀ id ∈ ids, association.controller.controllerId ≠ id := by
    rintro id hid rfl
    have := hids _ hid
    omega
  refine ⟨⟨h.volumes, fun id hid => ?_, ?_, Nat.le_of_lt h.handshakes, fun _ => ?_, h.ioStatus⟩, fun hid => hnew _ hid rfl⟩
  · rw [h.attachments, Std.ExtTreeMap.getElem?_insert, if_neg (by simpa using hnew id hid)]
  · rw [h.last, hnext]
    exact Nat.le_succ _
  · rw [h.last, hnext]
    exact Nat.lt_of_le_of_lt hcounted h.handshakes

lemma wait_tried (net : Loopback) (ms : Nat) : Tried net (net.wait ms) := ⟨fun _ => rfl, rfl, rfl, Nat.le_refl _, rfl⟩

/-- A handshake brings a controller, or was only tried. -/
lemma handshake_cases (net : Loopback) (params : HandshakeParams) :
    (∃ failure net', net.handshake params = (.error failure, net') ∧ Tried net net') ∨
      ∃ association net', net.handshake params = (.ok association, net') ∧
        Brings ⟨params.target, params.subsystemNqn⟩ association net net' := by
  have htried : Tried net (net.count fun stats => { stats with handshakes := stats.handshakes + 1 }) :=
    ⟨fun _ => rfl, rfl, rfl, Nat.le_succ _, rfl⟩
  rcases net.handshake_result params with ⟨failure, heq⟩ | ⟨volumes, hvolumes, heq⟩
  · exact .inl ⟨failure, _, heq, htried⟩
  · refine .inr ⟨_, _, heq, fun _ => rfl, rfl, rfl, ⟨volumes.map Volume.blocks, ?_, ?_⟩, rfl, rfl,
      Nat.lt_succ_self _, rfl⟩
    · exact congrArg (Option.map (List.map Volume.blocks)) hvolumes
    · rw [List.length_map]

lemma connect_leaves {net net' : Loopback} {params : HandshakeParams} {timeoutMs : Nat}
    {outcome : HandshakeOutcome LoopbackController LoopbackQueue} (h : connect params timeoutMs net = (outcome, net')) :
    (∀ association, outcome = .connected association → Brings ⟨params.target, params.subsystemNqn⟩ association net net') ∧
      ((∀ association, outcome ≠ .connected association) → Tried net net') := by
  unfold connect at h
  split at h
  · cases h
    exact ⟨fun _ h => (by cases h), fun _ => wait_tried net _⟩
  · rcases (net.wait net.behavior.handshakeDelayMs).handshake_cases params with
      ⟨failure, after, heq, htried⟩ | ⟨association, after, heq, hbrings⟩
    · rw [heq] at h
      cases h
      exact ⟨fun _ h => (by cases h), fun _ => (wait_tried net _).trans htried⟩
    · rw [heq] at h
      cases h
      exact ⟨fun _ h => (by cases h; exact (wait_tried net _).brings hbrings), fun hnone => (hnone _ rfl).elim⟩

lemma release_calm (queue : LoopbackQueue) (net : Loopback) : Calm net (queue.release net) := by
  unfold LoopbackQueue.release
  split
  · exact .refl net
  · exact calm_of_subsystems rfl rfl rfl rfl rfl

lemma releaseController_upholds {controller : LoopbackController} (h : controller.controllerId ∉ ids) (net : Loopback) :
    Upholds ids net (releaseController controller net) := by
  unfold releaseController
  split
  · refine ⟨fun _ => rfl, fun id hid => ?_, Nat.le_refl _, Nat.le_refl _, fun hcounted => hcounted, rfl⟩
    have hne : controller.controllerId ≠ id := by
      rintro rfl
      exact h hid
    simp only [count, Std.ExtTreeMap.getElem?_erase]
    rw [if_neg (by simpa using hne)]
  · exact (Calm.refl net).upholds

lemma releaseController_handshakes (controller : LoopbackController) (net : Loopback) :
    (releaseController controller net).stats.handshakes = net.stats.handshakes := by
  unfold releaseController
  split <;> rfl

/-- A session that is built around a new controller is attached. -/
lemma Brings.attached {plan : ConnectPlan} {association : Association LoopbackController LoopbackQueue}
    (h : Brings ⟨plan.params.target, plan.params.subsystemNqn⟩ association first second) (depth : Nat) (key : SessionKey)
    (timer : KeepAliveTimer) :
    (Host.newSession plan association
      { controllerId := association.controller.controllerId, generation := some 0, depth := max depth 1 } key
      timer).Attached second := by
  have hattachment : second.attachments[association.controller.controllerId]? =
      some { subsystem := ⟨plan.params.target, plan.params.subsystemNqn⟩ } := by
    rw [h.attachments, Std.ExtTreeMap.getElem?_insert_self]
  refine ⟨rfl, ?_, ?_, ⟨_, rfl, ⟨rfl, rfl, ?_, rfl, ⟨_, 0⟩, ?_, rfl⟩, rfl⟩, ?_⟩
  · refine ⟨?_, rfl, ?_, ?_, ⟨_, 0⟩, ?_, rfl⟩
    · simp only [Host.newSession, h.admin]
    · simp only [Host.newSession, h.admin]
      decide
    · simp only [Host.newSession, h.admin]
    · simp only [Host.newSession, h.admin, LoopbackQueue.attachment, hattachment]
  · simp only [Host.newSession, h.admin]
    rfl
  · exact Nat.lt_of_lt_of_le Nat.one_pos (Nat.le_max_right _ _)
  · simp only [LoopbackQueue.attachment, hattachment]
    rfl
  · obtain ⟨sizes, hsizes, hcount⟩ := h.sizes
    refine ⟨sizes, ?_, hcount, fun nsid geometry hfound => ?_⟩
    · have hsame : second.volumes? ⟨plan.params.target, plan.params.subsystemNqn⟩ = first.volumes? _ := h.volumes _
      rw [← hsizes, sizes?, sizes?, ← hsame]
      rfl
    · simp [Host.newSession] at hfound

end Loopback

variable {W : Type} [Fabric W LoopbackController LoopbackQueue] [Clock W] (sim : Simulates W)

namespace Simulates

/-- Of all handshakes that are made, only the last can bring a controller. -/
lemma handshake_brings (plan : ConnectPlan) (pauseMs retries : Nat) (world : W) :
    (∀ error world', Host.handshake plan pauseMs retries world = (.error error, world') →
        Loopback.Tried (sim.net world) (sim.net world')) ∧
      ∀ association world', Host.handshake plan pauseMs retries world = (.ok association, world') →
        Loopback.Brings ⟨plan.params.target, plan.params.subsystemNqn⟩ association (sim.net world) (sim.net world') := by
  have hconnect : ∀ {world outcome world'}, Fabric.connect plan.params plan.connectTimeoutMs.toNat world = (outcome, world') →
      Loopback.connect plan.params plan.connectTimeoutMs.toNat (sim.net world) = (outcome, sim.net world') := by
    intro world outcome world' heq
    rw [sim.connect_eq, heq]
    rfl
  refine Host.handshake_leaves (fun first second => Loopback.Tried (sim.net first) (sim.net second))
    (fun association first second => Loopback.Brings ⟨plan.params.target, plan.params.subsystemNqn⟩ association
      (sim.net first) (sim.net second)) plan pauseMs ?_ ?_ ?_ ?_ ?_ retries world
  · exact fun heq => (Loopback.connect_leaves (hconnect heq)).1 _ rfl
  · exact fun heq => (Loopback.connect_leaves (hconnect heq)).2
  · intro first second htried
    rw [sim.wait_net]
    exact htried.trans (Loopback.wait_tried _ pauseMs)
  · exact Loopback.Tried.trans
  · exact Loopback.Tried.brings

lemma createIoQueue_cases (controller : LoopbackController) (depth : UInt16) (world : W) :
    (∃ failure world', Fabric.createIoQueue controller depth world = (.error failure, controller, world') ∧
        Loopback.Calm (sim.net world) (sim.net world')) ∨
      ∃ attachment world', (sim.net world).attachments[controller.controllerId]? = some attachment ∧
        Fabric.createIoQueue controller depth world = (.ok
          { controllerId := controller.controllerId
            generation := some attachment.generation
            depth := max depth.toNat 1 }, controller, world') ∧
        Loopback.Calm (sim.net world) (sim.net world') := by
  have hcreate := sim.createIoQueue_eq controller depth world
  rcases Loopback.createIoQueue_result controller depth (sim.net world) with
    ⟨failure, heq⟩ | ⟨attachment, hattachment, heq⟩
  · rw [heq] at hcreate
    obtain ⟨world', hresult, hnet⟩ := exists_world hcreate
    exact .inl ⟨failure, world', hresult, hnet ▸ .refl _⟩
  · rw [heq] at hcreate
    obtain ⟨world', hresult, hnet⟩ := exists_world hcreate
    exact .inr ⟨attachment, world', hattachment, hresult, hnet ▸ Loopback.calm_of_subsystems rfl rfl rfl rfl rfl⟩

/-- Traffic counts no handshakes. -/
def labelling : Labelling W LoopbackQueue Nat where
  queue _ := 0
  record world := (sim.net world).stats.handshakes
  submit_queue _ _ _ := rfl
  submit_record queue command world := by
    rw [← queue.submit_handshakes (sim.net world) command, sim.submit_eq]
    rfl
  process_queue _ _ _ := rfl
  process_record queue limit world := by
    rw [← queue.process_handshakes (sim.net world) limit, sim.process_eq]
    rfl
  now_record world := by rw [sim.now_net]

/-- Whatever is outstanding, releasing a session counts no handshake. -/
lemma release_handshakes (session : Session LoopbackController LoopbackQueue) (world : W) :
    (sim.net (session.release world)).stats.handshakes = (sim.net world).stats.handshakes := by
  have hdrain : ∀ (channel : Channel LoopbackQueue) (world : W),
      (sim.net (Channel.drain Channel.drainLimit channel world).2).stats.handshakes = (sim.net world).stats.handshakes :=
    fun channel world => (sim.labelling.drain_quiet Channel.drainLimit channel world).record
  have hio : ∀ (io : Channel LoopbackQueue) (world : W),
      (sim.net (io.release world)).stats.handshakes = (sim.net world).stats.handshakes := by
    intro io world
    rw [Channel.release, sim.release_net, (Loopback.release_calm _ _).handshakes, hdrain]
  have hcontroller : ∀ world : W, (sim.net (Fabric.releaseController session.controller
      (Channel.drain Channel.drainLimit session.admin world).2)).stats.handshakes = (sim.net world).stats.handshakes := by
    intro world
    rw [sim.releaseController_net, Loopback.releaseController_handshakes, hdrain]
  unfold Session.release
  split
  · exact (hcontroller _).trans (hio _ world)
  · exact hcontroller world

/-- A session with nothing outstanding is released without a word. -/
lemma release_upholds {session : Session LoopbackController LoopbackQueue} {net : Loopback} (h : session.Attached net)
    {ids : List UInt16} (hid : session.controller.controllerId ∉ ids) (world : W) :
    Loopback.Upholds ids (sim.net world) (sim.net (session.release world)) := by
  have hdrain : ∀ {channel : Channel LoopbackQueue}, channel.tracker = {} → ∀ world : W,
      Channel.drain Channel.drainLimit channel world = (channel, world) := by
    intro channel htracker world
    have hnone : channel.tracker.outstanding = 0 := by
      rw [htracker]
      rfl
    rw [Channel.drainLimit, Channel.drain, if_pos hnone]
  obtain ⟨io, hio, hready, -⟩ := h.io
  have hrelease : session.release world =
      Fabric.releaseController session.controller (QueuePairs.release io.queue world) := by
    rw [Session.release, hio]
    simp only [Channel.release, hdrain hready.tracker, hdrain h.admin.tracker]
  rw [hrelease, sim.releaseController_net, sim.release_net]
  exact (Loopback.release_calm _ _).upholds.trans (Loopback.releaseController_upholds hid _)

end Simulates

end FabricHost
