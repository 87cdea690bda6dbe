import FabricHost.Proofs.Loopback.Pending
import FabricHost.Proofs.Loopback.Worlds
import FabricHost.Queue.Await

/-!
# One command on an idle channel

On a channel with nothing outstanding a command is accepted at once. Polls bring it nearer to its completion one by one,
so a wait that is not cut short by its deadline ends with the completion of that very command, and the channel is idle
again.
-/

namespace FabricHost

/-- The wait for a command was given up. -/
def HostError.isTimeout : HostError → Bool
  | timeout => true
  | pollsExhausted => true
  | _ => false

namespace Tracker

variable (request : RequestId) (id : CommandId)

/-- A tracker of one request. -/
def waiting : Tracker := { inflight := [⟨request, id⟩] }

lemma waiting_take : ((waiting request id).absorb []).take request = (none, waiting request id) := by
  simp [waiting, absorb, released, releaseFront, take]

lemma waiting_arrived {completion : Completion} (h : completion.id = id) :
    ((waiting request id).absorb [completion]).take request = (some completion, {}) := by
  subst h
  have harrive : (waiting request completion.id).arrive completion =
      { waiting request completion.id with arrived := (∅ : Std.ExtTreeMap CommandId Completion).insert completion.id completion } := by
    simp [arrive, waiting]
  rw [absorb, List.foldl_cons, List.foldl_nil, harrive]
  simp [released, waiting, releaseFront, take, Std.ExtTreeMap.size_insert]

end Tracker

namespace LoopbackQueue

variable {queue : LoopbackQueue} {net net' : Loopback}

lemma attachment_congr (h : net'.attachments[queue.controllerId]? = net.attachments[queue.controllerId]?) :
    queue.attachment net' = queue.attachment net := by
  rw [attachment, attachment, h]

end LoopbackQueue

namespace Channel

/-- Nothing is outstanding, and the queue pair works for a controller that is attached to the subsystem. -/
structure Ready (net : Loopback) (name : SubsystemName) (controllerId : UInt16) (channel : Channel LoopbackQueue) :
    Prop where
  pending : channel.queue.pending = []
  tracker : channel.tracker = {}
  depth : 0 < channel.queue.depth
  controller : channel.queue.controllerId = controllerId
  attached : ∃ attachment, channel.queue.attachment net = .ok attachment ∧ attachment.subsystem = name

variable {net net' : Loopback} {name : SubsystemName} {controllerId : UInt16} {channel : Channel LoopbackQueue}

lemma Ready.congr (h : channel.Ready net name controllerId)
    (hattachments : net'.attachments[controllerId]? = net.attachments[controllerId]?) :
    channel.Ready net' name controllerId := by
  have hattached := h.attached
  rw [← LoopbackQueue.attachment_congr (h.controller.symm ▸ hattachments)] at hattached
  exact ⟨h.pending, h.tracker, h.depth, h.controller, hattached⟩

/-- The channel while one command is under way on it. -/
def carrying (channel : Channel LoopbackQueue) (request : RequestId) (id : CommandId) (command : Command)
    (pollsLeft : Nat) : Channel LoopbackQueue where
  queue := { channel.queue with nextId := id + 1, pending := [{ id, command, pollsLeft }] }
  tracker := .waiting request id

/-- The channel when its command has completed. -/
def done (channel : Channel LoopbackQueue) (id : CommandId) : Channel LoopbackQueue where
  queue := { channel.queue with nextId := id + 1 }

lemma Ready.done (h : channel.Ready net name controllerId) (id : CommandId) : (channel.done id).Ready net name controllerId :=
  ⟨h.pending, rfl, h.depth, h.controller, h.attached⟩

variable (request : RequestId) (id : CommandId) (command : Command)

section

variable (h : channel.Ready net name controllerId)
include h

lemma Ready.process_stalled (polls : Nat) (hstalled : channel.queue.stalled net.behavior = true) :
    (channel.carrying request id command polls).queue.process 0 net =
      (.ok [], (channel.carrying request id command polls).queue, net) := by
  obtain ⟨attachment, hattached, -⟩ := h.attached
  have hsame : (channel.carrying request id command polls).queue.attachment net = .ok attachment := hattached
  have hwaiting : (channel.carrying request id command polls).queue.stalled net.behavior = true := hstalled
  simp only [LoopbackQueue.process, hsame, hwaiting, if_true]

variable (hrunning : channel.queue.stalled net.behavior = false)
include hrunning

lemma Ready.process_early (polls : Nat) : (channel.carrying request id command (polls + 1)).queue.process 0 net =
    (.ok [], (channel.carrying request id command polls).queue, net) := by
  obtain ⟨attachment, hattached, -⟩ := h.attached
  have hsame : (channel.carrying request id command (polls + 1)).queue.attachment net = .ok attachment := hattached
  have hrunning : (channel.carrying request id command (polls + 1)).queue.stalled net.behavior = false := hrunning
  simp only [LoopbackQueue.process, hsame, hrunning]
  simp [carrying, LoopbackQueue.due, LoopbackQueue.executeAll]

lemma Ready.process_due : (channel.carrying request id command 0).queue.process 0 net =
    (.ok [(net.execute name controllerId id command).1], (channel.done id).queue,
      (net.execute name controllerId id command).2) := by
  obtain ⟨attachment, hattached, rfl⟩ := h.attached
  obtain rfl := h.controller
  have hsame : (channel.carrying request id command 0).queue.attachment net = .ok attachment := hattached
  have hrunning : (channel.carrying request id command 0).queue.stalled net.behavior = false := hrunning
  have hdone : (channel.done id).queue = { channel.queue with nextId := id + 1, pending := [] } := by
    rw [← h.pending]
    rfl
  simp only [LoopbackQueue.process, hsame, hrunning, hdone]
  simp [carrying, LoopbackQueue.due, LoopbackQueue.executeAll]

end

variable {W : Type} [Fabric W LoopbackController LoopbackQueue] [Clock W] (sim : Simulates W) {world : W}

/-- The command goes under way. -/
lemma Ready.submit (h : channel.Ready (sim.net world) name controllerId) (hadmin : command.isAdmin = channel.queue.isAdmin) :
    ∃ id world', channel.submit request command world =
        (.ok (), channel.carrying request id command (sim.net world).behavior.completionDelayPolls, world') ∧
      sim.net world' = (sim.net world).count (LoopbackQueue.countCommand command) := by
  obtain ⟨attachment, hattached, -⟩ := h.attached
  have haccepted : channel.queue.submit command (sim.net world) = (.ok channel.queue.freeId,
      { channel.queue with
        nextId := channel.queue.freeId + 1
        pending := [{ id := channel.queue.freeId, command, pollsLeft := (sim.net world).behavior.completionDelayPolls }] },
      (sim.net world).count (LoopbackQueue.countCommand command)) := by
    simp only [LoopbackQueue.submit, hattached, hadmin, ne_eq, not_true_eq_false, if_false, h.pending, List.length_nil,
      List.nil_append]
    rw [if_neg (Nat.not_le.mpr h.depth)]
  obtain ⟨world', hsubmit, hnet⟩ := sim.submit haccepted
  refine ⟨channel.queue.freeId, world', ?_, hnet⟩
  rw [Channel.submit, hsubmit, h.tracker]
  rfl

/-- A poll brings nothing, or the answer to the command. -/
lemma Ready.reap (h : channel.Ready (sim.net world) name controllerId) (polls : Nat) :
    ∃ world',
      (∃ polls', (channel.carrying request id command polls).reap world =
          (.ok 0, ⟨(channel.carrying request id command polls').queue, (Tracker.waiting request id).absorb []⟩, world') ∧
        sim.net world' = sim.net world) ∨
      (channel.carrying request id command polls).reap world =
          (.ok 1, ⟨(channel.done id).queue, (Tracker.waiting request id).absorb
            [((sim.net world).execute name controllerId id command).1]⟩, world') ∧
        sim.net world' = ((sim.net world).execute name controllerId id command).2 := by
  have hearly : ∀ polls', (channel.carrying request id command polls).queue.process 0 (sim.net world) =
      (.ok [], (channel.carrying request id command polls').queue, sim.net world) →
      ∃ world', (channel.carrying request id command polls).reap world =
          (.ok 0, ⟨(channel.carrying request id command polls').queue, (Tracker.waiting request id).absorb []⟩, world') ∧
        sim.net world' = sim.net world := by
    intro polls' hprocess
    obtain ⟨world', hpoll, hnet⟩ := sim.process hprocess
    refine ⟨world', ?_, hnet⟩
    rw [Channel.reap, hpoll]
    rfl
  by_cases hstalled : channel.queue.stalled (sim.net world).behavior = true
  · obtain ⟨world', hreap⟩ := hearly polls (h.process_stalled request id command polls hstalled)
    exact ⟨world', .inl ⟨polls, hreap⟩⟩
  · have hrunning := eq_false_of_ne_true hstalled
    cases polls with
    | succ polls =>
      obtain ⟨world', hreap⟩ := hearly polls (h.process_early request id command hrunning polls)
      exact ⟨world', .inl ⟨polls, hreap⟩⟩
    | zero =>
      obtain ⟨world', hpoll, hnet⟩ := sim.process (h.process_due request id command hrunning)
      refine ⟨world', .inr ⟨?_, hnet⟩⟩
      rw [Channel.reap, hpoll]
      rfl

/-- A wait is given up, or ends with the answer to the command. -/
lemma Ready.awaitBy (h : channel.Ready (sim.net world) name controllerId) (deadline : Tick) (budget polls : Nat) :
    (∃ error, error.isTimeout = true ∧
        (Channel.awaitBy deadline request budget (channel.carrying request id command polls) world).1 = .error error) ∨
      ∃ world', Channel.awaitBy deadline request budget (channel.carrying request id command polls) world =
          (.ok ((sim.net world).execute name controllerId id command).1, channel.done id, world') ∧
        sim.net world' = ((sim.net world).execute name controllerId id command).2 := by
  induction budget generalizing polls world with
  | zero => exact .inl ⟨.pollsExhausted, rfl, rfl⟩
  | succ budget ih =>
    unfold Channel.awaitBy
    obtain ⟨world', ⟨polls', hreap, hnet⟩ | ⟨hreap, hnet⟩⟩ := h.reap request id command sim polls
    · rw [hreap]
      simp only [take, Tracker.waiting_take]
      split
      · exact .inl ⟨.timeout, rfl, rfl⟩
      · have hnow : sim.net (Clock.now world').2 = sim.net world := (sim.now_net world').trans hnet
        have hready : channel.Ready (sim.net (Clock.now world').2) name controllerId := hnow.symm ▸ h
        have hrest := ih hready polls'
        rw [hnow] at hrest
        exact hrest
    · rw [hreap]
      simp only [take, Tracker.waiting_arrived request id (Loopback.execute_id _ _ _ _ _)]
      exact .inr ⟨world', rfl, hnet⟩

/-- A command on an idle channel is given up, or counted, executed and answered. -/
lemma Ready.execute (h : channel.Ready (sim.net world) name controllerId) (hadmin : command.isAdmin = channel.queue.isAdmin)
    (deadline : Tick) (budget : Nat) :
    (∃ error, error.isTimeout = true ∧ (channel.execute budget deadline request command world).1 = .error error) ∨
      ∃ id world', channel.execute budget deadline request command world =
          (.ok (((sim.net world).count (LoopbackQueue.countCommand command)).execute name controllerId id command).1,
            channel.done id, world') ∧
        sim.net world' = (((sim.net world).count (LoopbackQueue.countCommand command)).execute name controllerId id command).2 := by
  cases budget with
  | zero => exact .inl ⟨.pollsExhausted, rfl, rfl⟩
  | succ budget =>
    obtain ⟨id, world', hsubmit, hnet⟩ := h.submit request command sim hadmin
    have hready : channel.Ready (sim.net world') name controllerId := h.congr (by rw [hnet]; rfl)
    have hawait := hready.awaitBy request id command sim deadline (budget + 1) (sim.net world).behavior.completionDelayPolls
    unfold Channel.execute submitBy
    rw [hsubmit, ← hnet]
    rcases hawait with hgiven | hanswered
    · exact .inl hgiven
    · exact .inr ⟨id, hanswered⟩

end Channel

end FabricHost
