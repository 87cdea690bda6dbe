import FabricHost.Proofs.Host.Views
import FabricHost.Proofs.Ownership.Tracing

/-!
# Watched fabrics

A watched fabric keeps what its controllers did, and every command that it was handed with the queue pair it was for,
accepted or not. As in a traced fabric, controllers and I/O queue pairs are known by the place where they appear, and an
admin queue pair by that of its controller. Apart from what it keeps, a watched fabric is the fabric it is made from.
-/

namespace FabricHost

/-- What controllers do. -/
inductive ControllerEvent where
  /-- A handshake gave a controller. -/
  | connected
  /-- A controller gave an I/O queue pair. -/
  | created (controller : Nat)
  | wasReset (controller : Nat)
deriving DecidableEq, Repr

/-- A world that is watched. -/
structure Watched (W : Type) where
  world : W
  events : List ControllerEvent := []
  /-- The commands that were handed to queue pairs, each with the number of its queue pair. -/
  sent : List (Nat × Command) := []

namespace Watched

variable {W C Q : Type}

/-- A change of the world, which nobody watches. -/
def drift (change : W → W) (watched : Watched W) : Watched W := { watched with world := change watched.world }

instance [Clock W] : Clock (Watched W) where
  now watched :=
    let (tick, world) := Clock.now watched.world
    (tick, { watched with world })

instance [QueuePairs W Q] : QueuePairs (Watched W) (Numbered Q) where
  submit queue command watched :=
    let (answer, handle, world) := QueuePairs.submit queue.handle command watched.world
    (answer, { queue with handle }, { watched with world, sent := watched.sent ++ [(queue.number, command)] })
  process queue limit watched :=
    let (answer, handle, world) := QueuePairs.process queue.handle limit watched.world
    (answer, { queue with handle }, { watched with world })
  outstanding queue watched := QueuePairs.outstanding queue.handle watched.world
  release queue watched := { watched with world := QueuePairs.release queue.handle watched.world }

variable [Fabric W C Q]

instance : Fabric (Watched W) (Numbered C) (Numbered Q) where
  name watched := Fabric.name watched.world
  supports kind watched := Fabric.supports kind watched.world
  resolve host watched :=
    let (answer, world) := Fabric.resolve host watched.world
    (answer, { watched with world })
  connect params timeoutMs watched :=
    match Fabric.connect params timeoutMs watched.world with
    | (.connected association, world) =>
      (.connected (association.map (Numbered.mk watched.events.length) (Numbered.mk watched.events.length)),
        { watched with world, events := watched.events ++ [.connected] })
    | (.failed failure, world) => (.failed failure, { watched with world })
    | (.timedOut, world) => (.timedOut, { watched with world })
  wait ms watched := { watched with world := Fabric.wait ms watched.world }
  createIoQueue controller depth watched :=
    match Fabric.createIoQueue controller.handle depth watched.world with
    | (.error failure, handle, world) => (.error failure, { controller with handle }, { watched with world })
    | (.ok queue, handle, world) =>
      (.ok ⟨watched.events.length, queue⟩, { controller with handle },
        { watched with world, events := watched.events ++ [.created controller.number] })
  resetController controller watched :=
    match Fabric.resetController controller.handle watched.world with
    | (.error failure, handle, world) => (.error failure, { controller with handle }, { watched with world })
    | (.ok (), handle, world) =>
      (.ok (), { controller with handle }, { watched with world, events := watched.events ++ [.wasReset controller.number] })
  releaseController controller watched :=
    { watched with world := Fabric.releaseController controller.handle watched.world }

/-- Traffic is not what controllers do. -/
def labelling (W Q : Type) [QueuePairs W Q] [Clock W] : Labelling (Watched W) (Numbered Q) (List ControllerEvent) where
  queue := Numbered.number
  record := Watched.events
  submit_queue _ _ _ := rfl
  submit_record _ _ _ := rfl
  process_queue _ _ _ := rfl
  process_record _ _ _ := rfl
  now_record _ := rfl

/-- The fabric that is watched. -/
def unwatched (W C Q : Type) [Fabric W C Q] [Clock W] : View (Watched W) (Numbered C) (Numbered Q) W C Q where
  world := Watched.world
  controller := Numbered.handle
  queue := Numbered.handle
  now_eq _ := rfl
  submit_eq _ _ _ := rfl
  process_eq _ _ _ := rfl
  release_eq _ _ := rfl
  name_eq _ := rfl
  supports_eq _ _ := rfl
  resolve_eq _ _ := rfl
  connect_eq params timeoutMs watched := by
    simp only [Fabric.connect]
    rcases Fabric.connect params timeoutMs watched.world with ⟨_ | _ | _, world⟩ <;> rfl
  wait_eq _ _ := rfl
  createIoQueue_eq controller depth watched := by
    simp only [Fabric.createIoQueue]
    rcases Fabric.createIoQueue controller.handle depth watched.world with ⟨_ | _, handle, world⟩ <;> rfl
  resetController_eq controller watched := by
    simp only [Fabric.resetController]
    rcases Fabric.resetController controller.handle watched.world with ⟨_ | _, handle, world⟩ <;> rfl
  releaseController_eq _ _ := rfl

end Watched

namespace Host

variable {W C Q : Type} [Fabric W C Q] [Clock W]

/-- Calls of a watched host, between which only the world changes. -/
def watchedCalls (calls : List (HostCall × (W → W))) : List (HostCall × (Watched W → Watched W)) :=
  calls.map fun call => (call.1, Watched.drift call.2)

/-- Watching a run does not change it. -/
lemma run_watchedCalls (config : Config) (world : W) (calls : List (HostCall × (W → W))) :
    (Host.ofConfig config : Host C Q).run world calls =
      ((Host.ofConfig config : Host (Numbered C) (Numbered Q)).run (⟨world, [], []⟩ : Watched W) (watchedCalls calls)).map id
        (Prod.map (Watched.unwatched W C Q).host Watched.world) := by
  refine (Watched.unwatched W C Q).host_run (Host.ofConfig config) ⟨world, [], []⟩ ?_
  rw [watchedCalls, List.forall₂_map_left_iff, List.forall₂_same]
  exact fun call _ => ⟨rfl, fun _ => rfl⟩

end Host

end FabricHost
