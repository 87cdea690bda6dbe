import FabricHost.Proofs.Loopback.Apart
import FabricHost.Proofs.Queue.Batches
import FabricHost.Proofs.Requests.Lifecycle

/-!
# The order of reports cannot be seen

A simulated network may turn around what its polls report. Whether it does is asked nowhere but in the report itself,
and the commands of a report have different ids, so a tracker makes the same of it in either order. A host therefore
answers every call as if all polls reported in the order of submission.
-/

namespace FabricHost

lemma Tracker.effect_turned (turned : Bool) {batch : List Completion} (hnodup : (batch.map Completion.id).Nodup) :
    effect (if turned then batch.reverse else batch) = effect batch := by
  cases turned with
  | false => rfl
  | true =>
    have habsorb := fun tracker => absorb_perm (List.reverse_perm batch).symm hnodup tracker
    rw [if_pos rfl, effect, effect, List.length_reverse, funext habsorb]

namespace Loopback

/-- The network as it is when polls report in the order of submission. -/
def inOrder (net : Loopback) : Loopback :=
  net.configure fun behavior => { behavior with reverseCompletions := false }

variable (net : Loopback)

lemma execute_inOrder (subsystem : SubsystemName) (controllerId : UInt16) (commandId : CommandId) (command : Command) :
    net.inOrder.execute subsystem controllerId commandId command =
      (net.execute subsystem controllerId commandId command).map id inOrder := by
  have hexecuteOn : ∀ volumes, executeOn net.inOrder.behavior controllerId volumes commandId command =
      executeOn net.behavior controllerId volumes commandId command := by
    intro volumes
    cases command <;> rfl
  have hvolumes : net.inOrder.volumes? subsystem = net.volumes? subsystem := rfl
  unfold execute
  rw [hvolumes]
  split
  · rfl
  · simp only [hexecuteOn]
    rfl

lemma handshake_inOrder (params : HandshakeParams) :
    net.inOrder.handshake params = (net.handshake params).map id inOrder := by
  have hcount : ∀ change, net.inOrder.count change = (net.count change).inOrder := fun _ => rfl
  unfold handshake
  simp only [hcount]
  generalize net.count (fun stats => { stats with handshakes := stats.handshakes + 1 }) = net
  have hrejects : net.inOrder.behavior.rejectConnect = net.behavior.rejectConnect := rfl
  have hlistens : net.inOrder.listensAt params.target = net.listensAt params.target := rfl
  have hvolumes : ∀ name, net.inOrder.volumes? name = net.volumes? name := fun _ => rfl
  rw [hrejects, hlistens, hvolumes]
  split
  · rfl
  · split
    · rfl
    · split <;> rfl

lemma connect_inOrder (params : HandshakeParams) (timeoutMs : Nat) :
    connect params timeoutMs net.inOrder = (connect params timeoutMs net).map id inOrder := by
  have hdelay : net.inOrder.behavior.handshakeDelayMs = net.behavior.handshakeDelayMs := rfl
  have hwait : ∀ ms, net.inOrder.wait ms = (net.wait ms).inOrder := fun _ => rfl
  unfold connect
  rw [hdelay, hwait, hwait, handshake_inOrder]
  split
  · rfl
  · rcases (net.wait net.behavior.handshakeDelayMs).handshake params with ⟨_ | _, _⟩ <;> rfl

lemma createIoQueue_inOrder (controller : LoopbackController) (depth : UInt16) :
    createIoQueue controller depth net.inOrder = (createIoQueue controller depth net).map id (Prod.map id inOrder) := by
  have hattachments : net.inOrder.attachments = net.attachments := rfl
  have hfails : net.inOrder.behavior.failIoQueue = net.behavior.failIoQueue := rfl
  unfold createIoQueue
  rw [hattachments, hfails]
  split
  · rfl
  · split <;> rfl

lemma resetController_inOrder (controller : LoopbackController) :
    resetController controller net.inOrder = (resetController controller net).map id (Prod.map id inOrder) := by
  have hfails : net.inOrder.behavior.failReset = net.behavior.failReset := rfl
  unfold resetController
  rw [hfails]
  split <;> rfl

lemma releaseController_inOrder (controller : LoopbackController) :
    releaseController controller net.inOrder = (releaseController controller net).inOrder := by
  have hattachments : net.inOrder.attachments = net.attachments := rfl
  unfold releaseController
  rw [hattachments]
  split <;> rfl

lemma resolve_inOrder (host : String) : resolve host net.inOrder = (resolve host net).map id inOrder := by
  unfold resolve
  split <;> rfl

end Loopback

namespace LoopbackQueue

variable (queue : LoopbackQueue) (net : Loopback)

lemma submit_inOrder (command : Command) :
    queue.submit command net.inOrder = (queue.submit command net).map id (Prod.map id Loopback.inOrder) := by
  have hattachment : queue.attachment net.inOrder = queue.attachment net := rfl
  unfold submit
  rw [hattachment]
  split
  · rfl
  · split
    · rfl
    · split <;> rfl

lemma executeAll_inOrder (subsystem : SubsystemName) (controllerId : UInt16) (entries : List PendingCommand) :
    executeAll subsystem controllerId entries net.inOrder =
      (executeAll subsystem controllerId entries net).map id Loopback.inOrder := by
  induction entries generalizing net with
  | nil => rfl
  | cons entry rest ih =>
    simp only [executeAll, Loopback.execute_inOrder, Prod.map_snd, Prod.map_fst, ih]
    rfl

lemma Apart.nodup_reported {queue : LoopbackQueue} (h : queue.Apart) (room : Option Nat) (subsystem : SubsystemName)
    (net : Loopback) :
    ((executeAll subsystem queue.controllerId (due room queue.pending).1 net).1.map Completion.id).Nodup := by
  rw [executeAll_ids]
  exact ((due_perm room queue.pending).nodup_iff.mpr h.nodup).of_append_left

/-- What polls report has the same effect in order. -/
lemma process_inOrder {queue : LoopbackQueue} (h : queue.Apart) (limit : Nat) (net : Loopback) :
    (queue.process limit net.inOrder).map (Except.map Tracker.effect) id =
      (queue.process limit net).map (Except.map Tracker.effect) (Prod.map id Loopback.inOrder) := by
  have hattachment : queue.attachment net.inOrder = queue.attachment net := rfl
  have hstalled : queue.stalled net.inOrder.behavior = queue.stalled net.behavior := rfl
  unfold process
  rw [hattachment, hstalled]
  generalize (if limit = 0 then none else some limit) = room
  split
  · rfl
  · rename_i attachment _
    split
    · rfl
    · have hnodup := h.nodup_reported room attachment.subsystem net
      simp only [executeAll_inOrder, Prod.map_apply, Prod.map_fst, Except.map, id_eq]
      rw [Tracker.effect_turned _ hnodup, Tracker.effect_turned _ hnodup]
      rfl

lemma release_inOrder : queue.release net.inOrder = (queue.release net).inOrder := by
  unfold release
  split <;> rfl

end LoopbackQueue

namespace Clocked

variable {K : Type}

/-- The world with a network that reports in the order of submission. -/
def inOrder (clocked : Clocked Loopback K) : Clocked Loopback K := { clocked with world := clocked.world.inOrder }

/-- The same world but for the order in which polls report. -/
def UpToOrder (first second : Clocked Loopback K) : Prop := first.inOrder = second.inOrder

/-- The same call, before which the world changes in the same way but for the order in which polls report. -/
def AgreeUpToOrder (call call' : HostCall × (Clocked Loopback K → Clocked Loopback K)) : Prop :=
  call.1 = call'.1 ∧ ∀ first second, first.UpToOrder second → (call.2 first).UpToOrder (call'.2 second)

lemma AgreeUpToOrder.right {call call' : HostCall × (Clocked Loopback K → Clocked Loopback K)}
    (h : AgreeUpToOrder call call') : AgreeUpToOrder call' call' :=
  ⟨rfl, fun first second hsame => (h.2 first first rfl).symm.trans (h.2 first second hsame)⟩

/-- The same network, as it is when polls report in the order of submission. -/
def ordered (K : Type) [Clock K] : Blur (Clocked ApartLoopback K) LoopbackController ApartQueue
    (Clocked Loopback K) LoopbackController LoopbackQueue where
  world clocked := clocked.beside clocked.world.net.inOrder
  controller := id
  queue := Subtype.val
  now_eq _ := rfl
  submit_eq queue command clocked :=
    congrArg (Prod.map id (Prod.map id clocked.beside)) (queue.1.submit_inOrder clocked.world.net command)
  process_eq queue limit clocked :=
    congrArg (Prod.map id (Prod.map id clocked.beside)) (LoopbackQueue.process_inOrder queue.2 limit clocked.world.net)
  release_eq queue clocked := congrArg clocked.beside (queue.1.release_inOrder clocked.world.net)
  name_eq _ := rfl
  supports_eq _ _ := rfl
  resolve_eq host clocked := congrArg (Prod.map id clocked.beside) (clocked.world.net.resolve_inOrder host)
  connect_eq params timeoutMs clocked := by
    have hnet := clocked.world.net.connect_inOrder params timeoutMs
    rw [← clocked.world.connect_net params timeoutMs] at hnet
    exact congrArg (Prod.map id clocked.beside) hnet
  wait_eq _ _ := rfl
  createIoQueue_eq controller depth clocked := by
    have hnet := clocked.world.net.createIoQueue_inOrder controller depth
    rw [← clocked.world.createIoQueue_net controller depth] at hnet
    exact congrArg (Prod.map id (Prod.map id clocked.beside)) hnet
  resetController_eq controller clocked :=
    congrArg (Prod.map id (Prod.map id clocked.beside)) (clocked.world.net.resetController_inOrder controller)
  releaseController_eq controller clocked :=
    congrArg clocked.beside (clocked.world.net.releaseController_inOrder controller)

end Clocked

namespace Host

variable {K : Type} [Clock K]

/-- A run is the same when polls report in the order of submission, but for that order. -/
lemma run_inOrder (config : Config) (world : Clocked Loopback K)
    {calls calls' : List (HostCall × (Clocked Loopback K → Clocked Loopback K))}
    (h : List.Forall₂ Clocked.AgreeUpToOrder calls calls') :
    (Host.ofConfig config : Host LoopbackController LoopbackQueue).run world.inOrder
        (calls'.map fun call => (call.1, Clocked.inOrder ∘ call.2)) =
      ((Host.ofConfig config : Host LoopbackController LoopbackQueue).run world calls).map id
        (Prod.map id Clocked.inOrder) := by
  rw [run_apartCalls config world calls]
  refine (Clocked.ordered K).host_run (Host.ofConfig config) world.apart ?_
  rw [apartCalls, List.forall₂_map_left_iff, List.forall₂_map_right_iff]
  refine h.imp fun call call' hagree => ⟨hagree.1, fun apart => ?_⟩
  let world := (Clocked.plain K).world apart
  exact (hagree.2 world world.inOrder rfl).symm

end Host

/-- Completions of different commands may come in any order, and spread over any number of reaps: as long as the tracker
still expects them, however it came about, it ends up the same. So whether a simulated network turns its reports around or
not, at the start or from some call on, and whatever else happens to it between calls, a host gives the same answers to all
calls, and is the same host in the end. -/
theorem reports_in_any_order :
    (∀ {tracker : Tracker} {batch : List Completion} {reaps : List (List Completion)},
      reaps ≠ [] → reaps.flatten.Perm batch → (batch.map Completion.id).Nodup →
        (∀ completion ∈ batch, tracker.Expects completion.id) →
          reaps.foldl Tracker.absorb tracker = tracker.absorb batch) ∧
      ∀ {K : Type} [Clock K] (config : Config) (first second : Clocked Loopback K)
        (calls calls' : List (HostCall × (Clocked Loopback K → Clocked Loopback K))),
        first.UpToOrder second → List.Forall₂ Clocked.AgreeUpToOrder calls calls' →
          let start : Host LoopbackController LoopbackQueue := Host.ofConfig config
          let run := start.run first calls
          let run' := start.run second calls'
          run.1 = run'.1 ∧ run.2.1 = run'.2.1 ∧ run.2.2.UpToOrder run'.2.2 := by
  refine ⟨Tracker.foldl_absorb, ?_⟩
  intro K _ config first second calls calls' hsame hcalls start run run'
  have hcalls' : List.Forall₂ Clocked.AgreeUpToOrder calls' calls' := by
    induction hcalls with
    | nil => exact .nil
    | cons hagree _ ih => exact .cons hagree.right ih
  have hfirst := Host.run_inOrder config first hcalls
  have hsecond := Host.run_inOrder config second hcalls'
  rw [hsame, hsecond] at hfirst
  obtain ⟨hanswers, hrest⟩ := Prod.mk.inj hfirst
  obtain ⟨hhost, hworld⟩ := Prod.mk.inj hrest
  exact ⟨hanswers.symm, hhost.symm, hworld.symm⟩

/-- Commands 1, 2 and 3 are waited for, and nobody waits for command 4. -/
def Tracker.busy : Tracker := (((({} : Tracker).submitted 1 1).submitted 2 2).submitted 3 3).detached 4

namespace Clocked

def turn (turned : Bool) (clocked : Clocked Loopback ManualClock) : Clocked Loopback ManualClock :=
  { clocked with world := clocked.world.configure fun behavior => { behavior with reverseCompletions := turned } }

/-- A block is written and read again, and both commands are submitted before either is polled for. After the namespace
is known, the network turns its reports around, or does not. -/
def overlapping (turned : Bool) : List (HostCall × (Clocked Loopback ManualClock → Clocked Loopback ManualClock)) :=
  [(Simulation.connectSingle, id), (.identify Simulation.singleKey 1, id),
    (.submitWrite Simulation.singleKey ⟨1, 2, 1⟩ (List.replicate 512 7), turn turned),
    (.submitRead Simulation.singleKey ⟨1, 2, 1⟩, id), (.poll ⟨Simulation.singleKey, 2, .write⟩, id),
    (.poll ⟨Simulation.singleKey, 3, .read⟩, id)]

def single : Clocked Loopback ManualClock where
  world := Simulation.single.net
  clock := {}

def overlappingAnswers (turned : Bool) : List (HostCall × HostAnswer) :=
  ((Host.ofConfig {} : Host LoopbackController LoopbackQueue).run single (overlapping turned)).1

end Clocked

set_option maxRecDepth 10000 in
/-- The last completion comes first, and the read completes ahead of the write. -/
theorem reports_overtaking :
    [[Loopback.answer 3 .success], [Loopback.answer 4 .success, Loopback.answer 2 .success],
        [Loopback.answer 1 .success]].foldl Tracker.absorb Tracker.busy =
      Tracker.busy.absorb [Loopback.answer 1 .success, Loopback.answer 2 .success, Loopback.answer 3 .success,
        Loopback.answer 4 .success] ∧
    Clocked.overlappingAnswers true = Clocked.overlappingAnswers false ∧
    ((Clocked.overlappingAnswers true).map Prod.snd).drop 2 = [
      .submitted (.ok ⟨Simulation.singleKey, 2, .write⟩), .submitted (.ok ⟨Simulation.singleKey, 3, .read⟩),
      .polled (.ok (some ⟨2, none⟩)), .polled (.ok (some ⟨3, some (List.replicate 512 7)⟩))] := by
  have hagree : List.Forall₂ Clocked.AgreeUpToOrder (Clocked.overlapping true) (Clocked.overlapping false) := by
    have hkept : ∀ call, Clocked.AgreeUpToOrder (K := ManualClock) (call, id) (call, id) :=
      fun call => ⟨rfl, fun _ _ hsame => hsame⟩
    have hturned : ∀ call, Clocked.AgreeUpToOrder (call, Clocked.turn true) (call, Clocked.turn false) :=
      fun call => ⟨rfl, fun _ _ hsame => hsame⟩
    exact .cons (hkept _) <| .cons (hkept _) <| .cons (hturned _) <| .cons (hkept _) <| .cons (hkept _) <|
      .cons (hkept _) .nil
  have hsame : Clocked.single.UpToOrder Clocked.single := rfl
  refine ⟨reports_in_any_order.1 (by decide) (by decide) (by decide) (by decide +kernel), ?_, ?_⟩
  · rw [Clocked.overlappingAnswers, Clocked.overlappingAnswers]
    exact (reports_in_any_order.2 {} Clocked.single Clocked.single (Clocked.overlapping true) (Clocked.overlapping false)
      hsame hagree).1
  · decide +kernel

end FabricHost
