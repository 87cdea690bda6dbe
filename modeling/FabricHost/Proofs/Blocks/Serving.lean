import FabricHost.Proofs.Blocks.Connecting
import FabricHost.Proofs.Host.Invariants

/-!
# Calls that a simulated network serves

Sessions that are attached under ids of their own stay so: whatever connects, disconnects, reads or writes through one of
them leaves the others alone. What is read is what was written last, and what was written is stored.
-/

namespace FabricHost

/-- The ids of the controllers of some sessions. -/
def controllerIds (sessions : List (Session LoopbackController LoopbackQueue)) : List UInt16 :=
  sessions.map (·.controller.controllerId)

variable {W : Type} [Fabric W LoopbackController LoopbackQueue] [Clock W] {sim : Simulates W}

/-- Some sessions are attached to a network whose volumes hold what was written last. -/
structure Serves (sim : Simulates W) (writes : List BlockWrite)
    (sessions : List (Session LoopbackController LoopbackQueue)) (world : W) : Prop where
  attached : ∀ session ∈ sessions, session.Attached (sim.net world)
  apart : (controllerIds sessions).Nodup
  numbered : ∀ id ∈ controllerIds sessions, id.toNat ≤ (sim.net world).lastController.toNat
  counted : (sim.net world).lastController.toNat ≤ (sim.net world).stats.handshakes
  ioStatus : (sim.net world).behavior.ioStatus = none
  stores : (sim.net world).Stores writes
  enough : ∀ write ∈ writes, write.range.length ≤ write.data.length

namespace Serves

variable {writes : List BlockWrite} {sessions : List (Session LoopbackController LoopbackQueue)} {world world' : W}

lemma upheld (h : Serves sim writes sessions world)
    (hupholds : Loopback.Upholds (controllerIds sessions) (sim.net world) (sim.net world')) :
    Serves sim writes sessions world' where
  attached session hsession := by
    refine (h.attached session hsession).congr (hupholds.attachments _ (List.mem_map_of_mem hsession)) ?_
    rw [Loopback.sizes?, Loopback.sizes?, hupholds.volumes]
  apart := h.apart
  numbered id hid := Nat.le_trans (h.numbered id hid) hupholds.last
  counted := hupholds.counted h.counted
  ioStatus := hupholds.ioStatus.trans h.ioStatus
  stores := h.stores.congr hupholds.volumes
  enough := h.enough

lemma sublist {sessions' : List (Session LoopbackController LoopbackQueue)} (h : Serves sim writes sessions world)
    (hsublist : sessions'.Sublist sessions) : Serves sim writes sessions' world :=
  { h with
    attached := fun session hsession => h.attached session (hsublist.subset hsession)
    apart := h.apart.sublist (hsublist.map _)
    numbered := fun id hid => h.numbered id ((hsublist.map _).subset hid) }

lemma append {session : Session LoopbackController LoopbackQueue} (h : Serves sim writes sessions world)
    (hattached : session.Attached (sim.net world)) (hnew : session.controller.controllerId ∉ controllerIds sessions)
    (hlast : session.controller.controllerId.toNat ≤ (sim.net world).lastController.toNat) :
    Serves sim writes (sessions ++ [session]) world := by
  have hids : controllerIds (sessions ++ [session]) = controllerIds sessions ++ [session.controller.controllerId] := by
    simp only [controllerIds, List.map_append, List.map_singleton]
  refine ⟨fun other hother => ?_, ?_, fun id hid => ?_, h.counted, h.ioStatus, h.stores, h.enough⟩
  · rcases List.mem_append.mp hother with hmem | hmem
    · exact h.attached other hmem
    · rw [List.mem_singleton.mp hmem]
      exact hattached
  · rw [hids, List.nodup_append_comm]
    exact List.nodup_cons.mpr ⟨hnew, h.apart⟩
  · rw [hids] at hid
    rcases List.mem_append.mp hid with hmem | hmem
    · exact h.numbered id hmem
    · rw [List.mem_singleton.mp hmem]
      exact hlast

/-- A session that has served a command takes its place again. -/
lemma replaced {before behind : List (Session LoopbackController LoopbackQueue)}
    {session session' : Session LoopbackController LoopbackQueue} {writes' : List BlockWrite}
    (h : Serves sim writes (before ++ session :: behind) world) (halike : Loopback.Alike (sim.net world) (sim.net world'))
    (hattached : session'.Attached (sim.net world')) (hcontroller : session'.controller = session.controller)
    (hstores : (sim.net world').Stores writes') (henough : ∀ write ∈ writes', write.range.length ≤ write.data.length) :
    Serves sim writes' (before ++ session' :: behind) world' := by
  have hids : controllerIds (before ++ session' :: behind) = controllerIds (before ++ session :: behind) := by
    simp only [controllerIds, List.map_append, List.map_cons, hcontroller]
  refine ⟨fun other hother => ?_, hids ▸ h.apart, fun id hid => ?_, ?_, halike.ioStatus.trans h.ioStatus, hstores, henough⟩
  · rcases List.mem_append.mp hother with hmem | hmem
    · exact (h.attached other (by simp [hmem])).alike halike
    · rcases List.mem_cons.mp hmem with rfl | hmem
      · exact hattached
      · exact (h.attached other (by simp [hmem])).alike halike
  · rw [hids] at hid
    rw [halike.lastController]
    exact h.numbered id hid
  · rw [halike.lastController, halike.handshakes]
    exact h.counted

end Serves

namespace Host

variable (sim) (writes : List BlockWrite) (host : Host LoopbackController LoopbackQueue) (world : W)

variable {sim host world} in
/-- A new controller gets a session, or is released; the sessions that were there do not notice. -/
lemma register_serves (hroom : host.registry.isFull = false) {plan : ConnectPlan}
    {association : Association LoopbackController LoopbackQueue} {world' : W}
    (hbrings : Loopback.Brings ⟨plan.params.target, plan.params.subsystemNqn⟩ association (sim.net world) (sim.net world')) :
    (sim.net (host.register plan association world').2.2).stats.handshakes = (sim.net world').stats.handshakes ∧
      (Serves sim writes host.registry.sessions world → (sim.net world').stats.handshakes < 65536 →
        Serves sim writes (host.register plan association world').2.1.registry.sessions
          (host.register plan association world').2.2) := by
  have hreleased : ∀ {before after : Loopback}, Loopback.Calm (sim.net world') before →
      after = Loopback.releaseController association.controller before →
      after.stats.handshakes = (sim.net world').stats.handshakes ∧ (Serves sim writes host.registry.sessions world →
        (sim.net world').stats.handshakes < 65536 →
          Loopback.Upholds (controllerIds host.registry.sessions) (sim.net world) after) := by
    rintro before after hcalm rfl
    refine ⟨(Loopback.releaseController_handshakes _ _).trans hcalm.handshakes, fun h hfew => ?_⟩
    obtain ⟨hupholds, hnew⟩ := hbrings.upholds h.counted hfew h.numbered
    exact (hupholds.trans hcalm.upholds).trans (Loopback.releaseController_upholds hnew before)
  rcases sim.createIoQueue_cases association.controller host.config.ioQueueDepth world' with
    ⟨failure, world'', hcreate, hcalm⟩ | ⟨attachment, world'', hattachment, hcreate, hcalm⟩
  · rcases register_cases hroom plan association world' with ⟨_, _, _, heq, hresult⟩ | ⟨_, _, _, heq, -⟩
    · cases hcreate.symm.trans heq
      rw [hresult]
      obtain ⟨hsame, hupholds⟩ := hreleased hcalm (sim.releaseController_net _ _)
      exact ⟨hsame, fun h hfew => h.upheld (hupholds h hfew)⟩
    · cases hcreate.symm.trans heq
  · rcases register_cases hroom plan association world' with
      ⟨_, _, _, heq, -⟩ | ⟨_, _, _, heq, ⟨-, hresult⟩ | ⟨key, timer, -, -, hresult⟩⟩
    all_goals cases hcreate.symm.trans heq
    · rw [hresult]
      have hqueue := sim.release_net
        { controllerId := association.controller.controllerId
          generation := some attachment.generation
          depth := max host.config.ioQueueDepth.toNat 1 } world''
      obtain ⟨hsame, hupholds⟩ := hreleased (hcalm.trans (hqueue ▸ Loopback.release_calm _ _))
        (sim.releaseController_net _ _)
      exact ⟨hsame, fun h hfew => h.upheld (hupholds h hfew)⟩
    · have hafter : Loopback.Calm (sim.net world') (sim.net (Clock.now world'').2) := by
        rw [sim.now_net]
        exact hcalm
      have hgeneration : attachment.generation = 0 := by
        rw [hbrings.attachments, Std.ExtTreeMap.getElem?_insert_self] at hattachment
        cases hattachment
        rfl
      rw [hresult]
      refine ⟨hafter.handshakes, fun h hfew => ?_⟩
      obtain ⟨hupholds, hnew⟩ := hbrings.upholds h.counted hfew h.numbered
      have hserves := h.upheld (hupholds.trans hafter.upholds)
      have hopened := (hbrings.attached host.config.ioQueueDepth.toNat key timer).alike hafter.toAlike
      refine hserves.append ?_ hnew ?_
      · rw [hgeneration]
        exact hopened
      · rw [hafter.lastController, hbrings.last]
        exact Nat.le_refl _

/-- A connect makes handshakes. -/
lemma connect_serves (command : ConnectCommand) (defaults : HostDefaults) :
    (sim.net world).stats.handshakes ≤ (sim.net (host.connect command defaults world).2.2).stats.handshakes ∧
      (Serves sim writes host.registry.sessions world →
        (sim.net (host.connect command defaults world).2.2).stats.handshakes < 65536 →
        Serves sim writes (host.connect command defaults world).2.1.registry.sessions
          (host.connect command defaults world).2.2) := by
  rcases host.connect_cases command defaults world with ⟨error, -, heq⟩ | ⟨plan, hroom, hcase⟩
  · rw [heq]
    exact ⟨Nat.le_refl _, fun h _ => h⟩
  · obtain ⟨hfails, hbrings⟩ := sim.handshake_brings plan host.config.connectRetryDelayMs plan.retryCount.toNat world
    rcases hcase with ⟨error, world', hfail, heq⟩ | ⟨association, world', hdone, heq⟩
    · have htried := hfails error world' hfail
      rw [heq]
      exact ⟨htried.handshakes, fun h _ => h.upheld htried.upholds⟩
    · have hregister := register_serves writes hroom (hbrings association world' hdone)
      rw [heq, hregister.1]
      exact ⟨Nat.le_of_lt (hbrings association world' hdone).handshakes, hregister.2⟩

lemma connectAttempt_serves (attempt : Attempt) (defaults : HostDefaults) :
    (sim.net world).stats.handshakes ≤ (sim.net (host.connectAttempt attempt defaults world).2.2).stats.handshakes ∧
      (Serves sim writes host.registry.sessions world →
        (sim.net (host.connectAttempt attempt defaults world).2.2).stats.handshakes < 65536 →
        Serves sim writes (host.connectAttempt attempt defaults world).2.1.registry.sessions
          (host.connectAttempt attempt defaults world).2.2) := by
  obtain ⟨world', hworld, hcase⟩ := host.connectAttempt_cases attempt defaults world
  have hnet : sim.net world' = sim.net world := by
    rcases hworld with rfl | ⟨name, rfl⟩
    · rfl
    · exact sim.resolve_net name world
  have hresolved : Serves sim writes host.registry.sessions world → Serves sim writes host.registry.sessions world' :=
    fun h => h.upheld (hnet ▸ (Loopback.Calm.refl _).upholds)
  rcases hcase with ⟨_, -, heq⟩ | ⟨command, heq⟩
  · rw [heq, hnet]
    exact ⟨Nat.le_refl _, fun h _ => hresolved h⟩
  · obtain ⟨hle, hserves⟩ : (sim.net world').stats.handshakes ≤ _ ∧ _ :=
      connect_serves sim writes host world' command defaults
    rw [heq, ← hnet]
    exact ⟨hle, fun h => hserves (hresolved h)⟩

lemma disconnect_serves (hnodup : host.registry.keys.Nodup) (key : SessionKey) :
    (sim.net (host.disconnect key world).2.2).stats.handshakes = (sim.net world).stats.handshakes ∧
      (Serves sim writes host.registry.sessions world →
        Serves sim writes (host.disconnect key world).2.1.registry.sessions (host.disconnect key world).2.2) := by
  rcases host.disconnect_cases hnodup key world with ⟨-, heq⟩ | ⟨before, session, behind, hsplit, -, -, heq⟩
  · rw [heq]
    exact ⟨rfl, fun h => h⟩
  · rw [heq]
    refine ⟨sim.release_handshakes session world, fun h => ?_⟩
    rw [hsplit] at h
    have hother : session.controller.controllerId ∉ controllerIds (before ++ behind) := by
      have hapart := h.apart
      simp only [controllerIds, List.map_append, List.map_cons] at hapart ⊢
      exact (List.nodup_middle.mp hapart).notMem
    have hrest := h.sublist ((List.sublist_cons_self session behind).append_left before)
    exact hrest.upheld (sim.release_upholds (h.attached session (by simp)) hother world)

lemma disconnectAll_serves :
    (sim.net (host.disconnectAll world).2.2).stats.handshakes = (sim.net world).stats.handshakes ∧
      (Serves sim writes host.registry.sessions world →
        Serves sim writes (host.disconnectAll world).2.1.registry.sessions (host.disconnectAll world).2.2) := by
  have hhandshakes : ∀ sessions : List (Session LoopbackController LoopbackQueue),
      (sim.net (sessions.foldr Session.release world)).stats.handshakes = (sim.net world).stats.handshakes := by
    intro sessions
    induction sessions with
    | nil => rfl
    | cons session rest ih => exact (sim.release_handshakes session _).trans ih
  have hupholds : ∀ sessions : List (Session LoopbackController LoopbackQueue),
      (∀ session ∈ sessions, session.Attached (sim.net world)) →
      Loopback.Upholds [] (sim.net world) (sim.net (sessions.foldr Session.release world)) := by
    intro sessions hattached
    induction sessions with
    | nil => exact (Loopback.Calm.refl _).upholds
    | cons session rest ih =>
      refine (ih fun other hother => hattached other (List.mem_cons_of_mem _ hother)).trans ?_
      exact sim.release_upholds (hattached session List.mem_cons_self) List.not_mem_nil _
  refine ⟨hhandshakes host.registry.sessions, fun h => ?_⟩
  have hnone := h.sublist (List.nil_sublist host.registry.sessions)
  exact hnone.upheld (hupholds host.registry.sessions h.attached)

end Host

end FabricHost
