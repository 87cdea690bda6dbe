import FabricHost.Loopback.Network
import FabricHost.Proofs.Host.Views
import FabricHost.Proofs.Loopback.Pending

/-!
# Simulated queue pairs that keep commands apart

All queue pairs of a simulated network keep the ids of their pending commands apart, so the network can be had with
queue pairs that carry a proof of it. A network may stand beside a clock of any kind, which it does not know of.
-/

namespace FabricHost

/-- A world that stands beside a clock. -/
structure Clocked (W K : Type) where
  world : W
  clock : K

namespace Clocked

variable {W C Q K α β : Type}

/-- The world beside the clock has changed. -/
def withWorld (clocked : Clocked W K) (result : α × β × W) : α × β × Clocked W K :=
  (result.1, result.2.1, { clocked with world := result.2.2 })

instance [Clock K] : Clock (Clocked W K) where
  now clocked := let (tick, clock) := Clock.now clocked.clock; (tick, { clocked with clock })

instance [QueuePairs W Q] : QueuePairs (Clocked W K) Q where
  submit queue command clocked := clocked.withWorld (QueuePairs.submit queue command clocked.world)
  process queue limit clocked := clocked.withWorld (QueuePairs.process queue limit clocked.world)
  outstanding queue clocked := QueuePairs.outstanding queue clocked.world
  release queue clocked := { clocked with world := QueuePairs.release queue clocked.world }

instance [Fabric W C Q] : Fabric (Clocked W K) C Q where
  name clocked := Fabric.name clocked.world
  supports kind clocked := Fabric.supports kind clocked.world
  resolve host clocked :=
    let (answer, world) := Fabric.resolve host clocked.world
    (answer, { clocked with world })
  connect params timeoutMs clocked :=
    let (outcome, world) := Fabric.connect params timeoutMs clocked.world
    (outcome, { clocked with world })
  wait ms clocked := { clocked with world := Fabric.wait ms clocked.world }
  createIoQueue controller depth clocked := clocked.withWorld (Fabric.createIoQueue controller depth clocked.world)
  resetController controller clocked := clocked.withWorld (Fabric.resetController controller clocked.world)
  releaseController controller clocked := { clocked with world := Fabric.releaseController controller clocked.world }

end Clocked

/-- A simulated queue pair together with what keeps its commands apart. -/
abbrev ApartQueue := { queue : LoopbackQueue // queue.Apart }

/-- A simulated network whose queue pairs keep commands apart. -/
structure ApartLoopback where
  net : Loopback

namespace Loopback

lemma connect_apart {net net' : Loopback} {params : HandshakeParams} {timeoutMs : Nat}
    {association : Association LoopbackController LoopbackQueue}
    (h : connect params timeoutMs net = (.connected association, net')) : association.admin.Apart := by
  unfold connect at h
  split at h
  · cases h
  · split at h
    · rename_i hshake
      cases h
      exact handshake_apart hshake
    · cases h

end Loopback

namespace ApartLoopback

instance : QueuePairs ApartLoopback ApartQueue where
  submit queue command world :=
    let result := queue.1.submit command world.net
    (result.1, ⟨result.2.1, queue.2.submit command world.net⟩, ⟨result.2.2⟩)
  process queue limit world :=
    let result := queue.1.process limit world.net
    (result.1, ⟨result.2.1, queue.2.process limit world.net⟩, ⟨result.2.2⟩)
  outstanding queue _ := queue.1.pending.length
  release queue world := ⟨queue.1.release world.net⟩

instance : Fabric ApartLoopback LoopbackController ApartQueue where
  name world := Fabric.name world.net
  supports kind world := Fabric.supports kind world.net
  resolve host world := (Loopback.resolve host world.net).map id mk
  connect params timeoutMs world :=
    match h : Loopback.connect params timeoutMs world.net with
    | (.connected association, net) =>
      (.connected { association with admin := ⟨association.admin, Loopback.connect_apart h⟩ }, ⟨net⟩)
    | (.failed failure, net) => (.failed failure, ⟨net⟩)
    | (.timedOut, net) => (.timedOut, ⟨net⟩)
  wait ms world := ⟨world.net.wait ms⟩
  createIoQueue controller depth world :=
    match h : Loopback.createIoQueue controller depth world.net with
    | (.error failure, controller, net) => (.error failure, controller, ⟨net⟩)
    | (.ok queue, controller, net) => (.ok ⟨queue, Loopback.createIoQueue_apart h⟩, controller, ⟨net⟩)
  resetController controller world := (Loopback.resetController controller world.net).map id (Prod.map id mk)
  releaseController controller world := ⟨Loopback.releaseController controller world.net⟩

/-- Handshakes are those of the network. -/
lemma connect_net (params : HandshakeParams) (timeoutMs : Nat) (world : ApartLoopback) :
    (Fabric.connect params timeoutMs world).map (HandshakeOutcome.map id Subtype.val) net =
      Loopback.connect params timeoutMs world.net := by
  simp only [Fabric.connect]
  split <;> rename_i heq <;> exact heq.symm

lemma createIoQueue_net (controller : LoopbackController) (depth : UInt16) (world : ApartLoopback) :
    (Fabric.createIoQueue controller depth world).map (Except.map Subtype.val) (Prod.map id net) =
      Loopback.createIoQueue controller depth world.net := by
  simp only [Fabric.createIoQueue]
  split <;> rename_i heq <;> exact heq.symm

end ApartLoopback

namespace Clocked

variable {K : Type}

/-- Another world beside the same clock. -/
def beside {W W' : Type} (clocked : Clocked W K) (world : W') : Clocked W' K := ⟨world, clocked.clock⟩

/-- The network, with queue pairs that keep commands apart. -/
def apart (clocked : Clocked Loopback K) : Clocked ApartLoopback K := clocked.beside ⟨clocked.world⟩

/-- A network, without what keeps the commands of its queue pairs apart. -/
def plain (K : Type) [Clock K] : View (Clocked ApartLoopback K) LoopbackController ApartQueue
    (Clocked Loopback K) LoopbackController LoopbackQueue where
  world clocked := clocked.beside clocked.world.net
  controller := id
  queue := Subtype.val
  now_eq _ := rfl
  submit_eq _ _ _ := rfl
  process_eq _ _ _ := rfl
  release_eq _ _ := rfl
  name_eq _ := rfl
  supports_eq _ _ := rfl
  resolve_eq _ _ := rfl
  connect_eq params timeoutMs clocked :=
    congrArg (Prod.map id clocked.beside) (clocked.world.connect_net params timeoutMs).symm
  wait_eq _ _ := rfl
  createIoQueue_eq controller depth clocked :=
    congrArg (Prod.map id (Prod.map id clocked.beside)) (clocked.world.createIoQueue_net controller depth).symm
  resetController_eq _ _ := rfl
  releaseController_eq _ _ := rfl

end Clocked

namespace Host

variable {K : Type} [Clock K]

/-- Calls of a host over queue pairs that keep commands apart, between which the network changes as it does. -/
def apartCalls (calls : List (HostCall × (Clocked Loopback K → Clocked Loopback K))) :
    List (HostCall × (Clocked ApartLoopback K → Clocked ApartLoopback K)) :=
  calls.map fun call => (call.1, fun clocked => (call.2 ((Clocked.plain K).world clocked)).apart)

/-- All queue pairs of a run keep commands apart. -/
lemma run_apartCalls (config : Config) (world : Clocked Loopback K)
    (calls : List (HostCall × (Clocked Loopback K → Clocked Loopback K))) :
    (Host.ofConfig config : Host LoopbackController LoopbackQueue).run world calls =
      ((Host.ofConfig config : Host LoopbackController ApartQueue).run world.apart (apartCalls calls)).map id
        (Prod.map (Clocked.plain K).host (Clocked.plain K).world) := by
  refine (Clocked.plain K).host_run (Host.ofConfig config) world.apart ?_
  rw [apartCalls, List.forall₂_map_left_iff, List.forall₂_same]
  exact fun call _ => ⟨rfl, fun _ => rfl⟩

end Host

end FabricHost
