import FabricHost.Proofs.Host.Views
import FabricHost.Proofs.Session.Traffic

/-!
# Traced fabrics

Every fabric can be traced: its world then also keeps the handles it gave out and took back, in order. A handle is known
by the place in the trace where it was given out, which no other handle has. Apart from the trace, a traced fabric is the
fabric it is made from.
-/

namespace FabricHost

/-- What happens to handles. -/
inductive HandleEvent where
  /-- A handshake gave a controller. -/
  | connected
  /-- A controller gave an I/O queue pair. -/
  | created (controller : Nat)
  | queueReleased (queue : Nat)
  | controllerReleased (controller : Nat)
deriving DecidableEq, Repr

/-- A handle and the place in the trace where it was given out. -/
structure Numbered (α : Type) where
  number : Nat
  handle : α

/-- A world with a trace. -/
structure Traced (W : Type) where
  world : W
  events : List HandleEvent := []

namespace Traced

variable {W C Q : Type}

/-- A change of the world, which the trace does not see. -/
def drift (change : W → W) (traced : Traced W) : Traced W := { traced with world := change traced.world }

instance [Clock W] : Clock (Traced W) where
  now traced :=
    let (tick, world) := Clock.now traced.world
    (tick, { traced with world })

instance [QueuePairs W Q] : QueuePairs (Traced W) (Numbered Q) where
  submit queue command traced :=
    let (answer, handle, world) := QueuePairs.submit queue.handle command traced.world
    (answer, { queue with handle }, { traced with world })
  process queue limit traced :=
    let (answer, handle, world) := QueuePairs.process queue.handle limit traced.world
    (answer, { queue with handle }, { traced with world })
  outstanding queue traced := QueuePairs.outstanding queue.handle traced.world
  release queue traced :=
    ⟨QueuePairs.release queue.handle traced.world, traced.events ++ [.queueReleased queue.number]⟩

variable [Fabric W C Q]

/-- A controller and its admin queue pair, which ends with it, get the same number. -/
instance : Fabric (Traced W) (Numbered C) (Numbered Q) where
  name traced := Fabric.name traced.world
  supports kind traced := Fabric.supports kind traced.world
  resolve host traced :=
    let (answer, world) := Fabric.resolve host traced.world
    (answer, { traced with world })
  connect params timeoutMs traced :=
    match Fabric.connect params timeoutMs traced.world with
    | (.connected association, world) =>
      (.connected (association.map (Numbered.mk traced.events.length) (Numbered.mk traced.events.length)),
        ⟨world, traced.events ++ [.connected]⟩)
    | (.failed failure, world) => (.failed failure, { traced with world })
    | (.timedOut, world) => (.timedOut, { traced with world })
  wait ms traced := { traced with world := Fabric.wait ms traced.world }
  createIoQueue controller depth traced :=
    match Fabric.createIoQueue controller.handle depth traced.world with
    | (.error failure, handle, world) => (.error failure, { controller with handle }, { traced with world })
    | (.ok queue, handle, world) =>
      (.ok ⟨traced.events.length, queue⟩, { controller with handle },
        ⟨world, traced.events ++ [.created controller.number]⟩)
  resetController controller traced :=
    let (answer, handle, world) := Fabric.resetController controller.handle traced.world
    (answer, { controller with handle }, { traced with world })
  releaseController controller traced :=
    ⟨Fabric.releaseController controller.handle traced.world,
      traced.events ++ [.controllerReleased controller.number]⟩

/-- Traffic neither gives out handles nor takes them back. -/
def labelling (W Q : Type) [QueuePairs W Q] [Clock W] : Labelling (Traced W) (Numbered Q) (List HandleEvent) where
  queue := Numbered.number
  record := Traced.events
  submit_queue _ _ _ := rfl
  submit_record _ _ _ := rfl
  process_queue _ _ _ := rfl
  process_record _ _ _ := rfl
  now_record _ := rfl

/-- The fabric that is traced. -/
def untraced (W C Q : Type) [Fabric W C Q] [Clock W] : View (Traced W) (Numbered C) (Numbered Q) W C Q where
  world := Traced.world
  controller := Numbered.handle
  queue := Numbered.handle
  now_eq _ := rfl
  submit_eq _ _ _ := rfl
  process_eq _ _ _ := rfl
  release_eq _ _ := rfl
  name_eq _ := rfl
  supports_eq _ _ := rfl
  resolve_eq _ _ := rfl
  connect_eq params timeoutMs traced := by
    simp only [Fabric.connect]
    rcases Fabric.connect params timeoutMs traced.world with ⟨_ | _ | _, world⟩ <;> rfl
  wait_eq _ _ := rfl
  createIoQueue_eq controller depth traced := by
    simp only [Fabric.createIoQueue]
    rcases Fabric.createIoQueue controller.handle depth traced.world with ⟨_ | _, handle, world⟩ <;> rfl
  resetController_eq _ _ := rfl
  releaseController_eq _ _ := rfl

/-- A handshake gives out the next controller, or nothing. -/
lemma connect_events {params : HandshakeParams} {timeoutMs : Nat} {traced traced' : Traced W}
    {outcome : HandshakeOutcome (Numbered C) (Numbered Q)}
    (h : Fabric.connect params timeoutMs traced = (outcome, traced')) :
    (∀ association, outcome = .connected association →
        association.controller.number = traced.events.length ∧ traced'.events = traced.events ++ [.connected]) ∧
      ((∀ association, outcome ≠ .connected association) → traced'.events = traced.events) := by
  simp only [Fabric.connect] at h
  rcases heq : Fabric.connect params timeoutMs traced.world with ⟨_ | _ | _, world⟩
  all_goals
    rw [heq] at h
    cases h
  · exact ⟨fun _ h => (by cases h; exact ⟨rfl, rfl⟩), fun hnone => (hnone _ rfl).elim⟩
  · exact ⟨fun _ h => (by cases h), fun _ => rfl⟩
  · exact ⟨fun _ h => (by cases h), fun _ => rfl⟩

/-- A controller gives out the next queue pair, or nothing. -/
lemma createIoQueue_events (controller : Numbered C) (depth : UInt16) (traced : Traced W) :
    match Fabric.createIoQueue controller depth traced with
    | (.error _, controller', traced') =>
      controller'.number = controller.number ∧ traced'.events = traced.events
    | (.ok queue, controller', traced') => controller'.number = controller.number ∧
      queue.number = traced.events.length ∧ traced'.events = traced.events ++ [.created controller.number] := by
  simp only [Fabric.createIoQueue]
  rcases Fabric.createIoQueue controller.handle depth traced.world with ⟨_ | _, handle, world⟩
  · exact ⟨rfl, rfl⟩
  · exact ⟨rfl, rfl, rfl⟩

/-- A reset neither gives out handles nor takes them back. -/
lemma resetController_events (controller : Numbered C) (traced : Traced W) :
    (Fabric.resetController controller traced).2.1.number = controller.number ∧
      (Fabric.resetController controller traced).2.2.events = traced.events := ⟨rfl, rfl⟩

end Traced

end FabricHost
