import FabricHost.Proofs.Host.Views
import FabricHost.Proofs.Ownership.Tracing

/-!
# Fabrics that are seen

What a host does to its fabric can be seen call by call: when it read the clock and what that said, which handshakes gave
a controller, and which commands were handed to which queue pair and accepted or not. Queue pairs are known by numbers
that are given out once. Apart from what is seen, the fabric is the one it is made from.
-/

namespace FabricHost

/-- What is seen of a fabric. -/
inductive Sight where
  | time (now : Tick)
  /-- A handshake gave a controller, whose admin queue pair has that number. -/
  | connected (admin : Nat)
  | handed (queue : Nat) (command : Command) (accepted : Bool)
deriving DecidableEq

/-- A world with what was seen in it since the present call began. -/
structure Seen (W : Type) where
  world : W
  /-- How many queue pairs were numbered so far. -/
  queues : Nat := 0
  sights : List Sight := []

namespace Seen

variable {W C Q : Type}

/-- A call begins after a change of the world. -/
def begin (change : W → W) (seen : Seen W) : Seen W := { seen with world := change seen.world, sights := [] }

instance [Clock W] : Clock (Seen W) where
  now seen :=
    let (tick, world) := Clock.now seen.world
    (tick, { seen with world, sights := seen.sights ++ [.time tick] })

instance [QueuePairs W Q] : QueuePairs (Seen W) (Numbered Q) where
  submit queue command seen :=
    let (answer, handle, world) := QueuePairs.submit queue.handle command seen.world
    (answer, { queue with handle },
      { seen with world, sights := seen.sights ++ [.handed queue.number command answer.isOk] })
  process queue limit seen :=
    let (answer, handle, world) := QueuePairs.process queue.handle limit seen.world
    (answer, { queue with handle }, { seen with world })
  outstanding queue seen := QueuePairs.outstanding queue.handle seen.world
  release queue seen := { seen with world := QueuePairs.release queue.handle seen.world }

variable [Fabric W C Q]

instance : Fabric (Seen W) C (Numbered Q) where
  name seen := Fabric.name seen.world
  supports kind seen := Fabric.supports kind seen.world
  resolve host seen :=
    let (answer, world) := Fabric.resolve host seen.world
    (answer, { seen with world })
  connect params timeoutMs seen :=
    match Fabric.connect params timeoutMs seen.world with
    | (.connected association, world) =>
      (.connected (association.map id (Numbered.mk seen.queues)),
        { world, queues := seen.queues + 1, sights := seen.sights ++ [.connected seen.queues] })
    | (.failed failure, world) => (.failed failure, { seen with world })
    | (.timedOut, world) => (.timedOut, { seen with world })
  wait ms seen := { seen with world := Fabric.wait ms seen.world }
  createIoQueue controller depth seen :=
    match Fabric.createIoQueue controller depth seen.world with
    | (.error failure, controller, world) => (.error failure, controller, { seen with world })
    | (.ok queue, controller, world) =>
      (.ok ⟨seen.queues, queue⟩, controller, { seen with world, queues := seen.queues + 1 })
  resetController controller seen :=
    let (answer, controller, world) := Fabric.resetController controller seen.world
    (answer, controller, { seen with world })
  releaseController controller seen := { seen with world := Fabric.releaseController controller seen.world }

/-- The fabric without what is seen of it. -/
def plain (W C Q : Type) [Fabric W C Q] [Clock W] : View (Seen W) C (Numbered Q) W C Q where
  world := Seen.world
  controller := id
  queue := Numbered.handle
  now_eq _ := rfl
  submit_eq _ _ _ := rfl
  process_eq _ _ _ := rfl
  release_eq _ _ := rfl
  name_eq _ := rfl
  supports_eq _ _ := rfl
  resolve_eq _ _ := rfl
  connect_eq params timeoutMs seen := by
    simp only [Fabric.connect]
    rcases Fabric.connect params timeoutMs seen.world with ⟨_ | _ | _, world⟩ <;> rfl
  wait_eq _ _ := rfl
  createIoQueue_eq controller depth seen := by
    simp only [Fabric.createIoQueue, id_eq]
    rcases Fabric.createIoQueue controller depth seen.world with ⟨_ | _, controller, world⟩ <;> rfl
  resetController_eq _ _ := rfl
  releaseController_eq _ _ := rfl

end Seen

/-- The tick that a call passes over the sessions at: the one it is given, or the time that it reads. -/
def HostCall.tick? {W : Type} [Clock W] (call : HostCall) (world : W) : Option Tick :=
  match call with
  | .tick => some (Clock.now world).1
  | .tickAt now => some now
  | _ => none

/-- A call with its answer and what was seen meanwhile. -/
structure Episode where
  call : HostCall
  answer : HostAnswer
  /-- The tick of a pass over the sessions. -/
  tick : Option Tick
  sights : List Sight

namespace Episode

def entry (episode : Episode) : HostCall × HostAnswer := (episode.call, episode.answer)

end Episode

namespace Host

variable {W C Q : Type} [Fabric W C Q] [Clock W]

/-- A run, call by call. -/
def story (host : Host C (Numbered Q)) (seen : Seen W) :
    List (HostCall × (W → W)) → List Episode × Host C (Numbered Q) × Seen W
  | [] => ([], host, seen)
  | (call, drift) :: rest =>
    let begun := seen.begin drift
    let (answer, host, seen) := host.perform call begun
    let (later, host, last) := host.story seen rest
    (⟨call, answer, call.tick? begun, seen.sights⟩ :: later, host, last)

/-- What every call keeps up, a story keeps up. -/
lemma story_induction (Holds : List Episode → Host C (Numbered Q) → Seen W → Prop)
    (hcall : ∀ episodes host seen call drift, Holds episodes host seen →
      let result := host.perform call (seen.begin drift)
      Holds (episodes ++ [⟨call, result.1, call.tick? (seen.begin drift), result.2.2.sights⟩]) result.2.1 result.2.2)
    (calls : List (HostCall × (W → W))) {episodes : List Episode} {host : Host C (Numbered Q)} {seen : Seen W}
    (h : Holds episodes host seen) :
    Holds (episodes ++ (host.story seen calls).1) (host.story seen calls).2.1 (host.story seen calls).2.2 := by
  induction calls generalizing episodes host seen with
  | nil =>
    rw [story, List.append_nil]
    exact h
  | cons call rest ih =>
    have hrest := ih (hcall episodes host seen call.1 call.2 h)
    rwa [List.append_assoc] at hrest

lemma run_eq_story (host : Host C (Numbered Q)) (seen : Seen W) (calls : List (HostCall × (W → W))) :
    host.run seen (calls.map fun call => (call.1, Seen.begin call.2)) =
      (host.story seen calls).map (List.map Episode.entry) id := by
  induction calls generalizing host seen with
  | nil => rfl
  | cons call rest ih =>
    simp only [List.map_cons, run, ih]
    rfl

/-- Being seen does not change a run. -/
lemma run_plain (config : Config) (world : W) (calls : List (HostCall × (W → W))) :
    (Host.ofConfig config : Host C Q).run world calls =
      ((Host.ofConfig config : Host C (Numbered Q)).story ({ world } : Seen W) calls).map (List.map Episode.entry)
        (Prod.map (Seen.plain W C Q).host Seen.world) := by
  have hview : (Host.ofConfig config : Host C Q).run world calls =
      ((Host.ofConfig config : Host C (Numbered Q)).run ({ world } : Seen W)
        (calls.map fun call => (call.1, Seen.begin call.2))).map id (Prod.map (Seen.plain W C Q).host Seen.world) := by
    refine (Seen.plain W C Q).host_run (Host.ofConfig config) { world } ?_
    rw [List.forall₂_map_left_iff, List.forall₂_same]
    exact fun call _ => ⟨rfl, fun _ => rfl⟩
  rw [hview, run_eq_story]
  rfl

end Host

end FabricHost
