import FabricHost.Loopback.Network
import FabricHost.Proofs.Queue.Delivery
import Mathlib.Data.List.Perm.Subperm

/-!
# Simulated queue pairs report once

The commands that are pending on a simulated queue pair are those in flight, in the same order and under ids that tell
them apart. So whatever happens to the network between two calls, the queue pair reports about each command at most
once, and gives a new command an id that no command in flight has. The network makes queue pairs with nothing pending on
them and with fewer slots than there are ids.
-/

namespace FabricHost

/-- What was submitted: the command, and the id that it got. -/
def PendingCommand.sent (entry : PendingCommand) : CommandId × Command := (entry.id, entry.command)

namespace LoopbackQueue

/-- Where the search for a free id ends: behind ids that are all taken, and at one that is not if it stops early. -/
lemma freeIdFrom_reaches (taken : List CommandId) (tries : Nat) (id : CommandId) :
    ∃ steps ≤ tries, freeIdFrom taken tries id = id + UInt16.ofNat steps ∧
      (∀ j < steps, id + UInt16.ofNat j ∈ taken) ∧ (steps < tries → freeIdFrom taken tries id ∉ taken) := by
  induction tries generalizing id with
  | zero => exact ⟨0, Nat.le_refl 0, by simp [freeIdFrom], by simp, by simp⟩
  | succ tries ih =>
    unfold freeIdFrom
    by_cases hid : id ∈ taken
    · rw [if_pos hid]
      obtain ⟨steps, hle, hreach, hall, hfree⟩ := ih (id + 1)
      refine ⟨steps + 1, Nat.succ_le_succ hle, ?_, ?_, fun hlt => hfree (by omega)⟩
      · rw [hreach, UInt16.ofNat_add, UInt16.add_assoc, UInt16.add_comm 1]
        rfl
      · intro j hj
        cases j with
        | zero => simpa using hid
        | succ j =>
          have hprev := hall j (by omega)
          rw [UInt16.add_assoc, UInt16.add_comm 1] at hprev
          rw [UInt16.ofNat_add]
          exact hprev
    · rw [if_neg hid]
      exact ⟨0, Nat.zero_le _, by simp, by simp, fun _ => hid⟩

/-- Fewer than all ids are taken, so the search finds one that is not. -/
lemma freeIdFrom_notMem {taken : List CommandId} {tries : Nat} (id : CommandId) (htaken : taken.length ≤ tries)
    (htries : tries < 65536) : freeIdFrom taken tries id ∉ taken := by
  obtain ⟨steps, hle, hreach, hall, hfree⟩ := freeIdFrom_reaches taken tries id
  rcases Nat.lt_or_ge steps tries with hlt | hge
  · exact hfree hlt
  · intro hmem
    rw [hreach] at hmem
    -- otherwise all the ids that were tried are taken, which are too many
    have hnodup : ((List.range (steps + 1)).map fun j => id + UInt16.ofNat j).Nodup := by
      refine List.Nodup.map_on ?_ List.nodup_range
      intro i hi j hj heq
      rw [List.mem_range] at hi hj
      have hij := (UInt16.add_right_inj id).mp heq
      have hnat := congrArg UInt16.toNat hij
      rw [UInt16.toNat_ofNat', UInt16.toNat_ofNat', Nat.mod_eq_of_lt (by omega), Nat.mod_eq_of_lt (by omega)] at hnat
      exact hnat
    have hsubset : ((List.range (steps + 1)).map fun j => id + UInt16.ofNat j) ⊆ taken := by
      intro other hother
      obtain ⟨j, hj, rfl⟩ := List.mem_map.mp hother
      rw [List.mem_range] at hj
      rcases Nat.lt_or_ge j steps with hlt | hge'
      · exact hall j hlt
      · have hlast : j = steps := by omega
        exact hlast ▸ hmem
    have hlength := (List.subperm_of_subset hnodup hsubset).length_le
    simp only [List.length_map, List.length_range] at hlength
    omega

lemma freeIdFrom_of_notMem {taken : List CommandId} {id : CommandId} (tries : Nat) (hid : id ∉ taken) :
    freeIdFrom taken tries id = id := by
  cases tries with
  | zero => rfl
  | succ tries => rw [freeIdFrom, if_neg hid]

end LoopbackQueue

lemma Loopback.execute_id (net : Loopback) (subsystem : SubsystemName) (controllerId : UInt16) (id : CommandId)
    (command : Command) : (net.execute subsystem controllerId id command).1.id = id := by
  have honVolumes : ∀ (behavior : LoopbackBehavior) (volumes : List Volume),
      (executeOn behavior controllerId volumes id command).1.id = id := by
    intro behavior volumes
    unfold executeOn
    split
    · rfl
    · rfl
    · split <;> rfl
    · split
      · rfl
      · rfl
      · split <;> rfl
    · split
      · rfl
      · rfl
      · split <;> rfl
  unfold execute
  split
  · rfl
  · exact honVolumes net.behavior _

namespace LoopbackQueue

lemma executeAll_ids (subsystem : SubsystemName) (controllerId : UInt16) (entries : List PendingCommand)
    (net : Loopback) :
    (executeAll subsystem controllerId entries net).1.map Completion.id = entries.map PendingCommand.id := by
  induction entries generalizing net with
  | nil => rfl
  | cons entry rest ih =>
    simp only [executeAll, List.map_cons, Loopback.execute_id, ih]

/-- A poll splits the pending commands. -/
lemma due_perm_sent (room : Option Nat) (pending : List PendingCommand) :
    ((due room pending).1.map PendingCommand.sent ++ (due room pending).2.map PendingCommand.sent).Perm
      (pending.map PendingCommand.sent) := by
  induction pending generalizing room with
  | nil => exact .nil
  | cons entry rest ih =>
    unfold due
    split
    · exact (ih _).cons _
    · exact List.perm_middle.trans ((ih room).cons _)

lemma due_perm (room : Option Nat) (pending : List PendingCommand) :
    ((due room pending).1.map PendingCommand.id ++ (due room pending).2.map PendingCommand.id).Perm
      (pending.map PendingCommand.id) := by
  have hids := (due_perm_sent room pending).map Prod.fst
  rwa [List.map_append, List.map_map, List.map_map, List.map_map] at hids

lemma due_sublist (room : Option Nat) (pending : List PendingCommand) :
    ((due room pending).2.map PendingCommand.id).Sublist (pending.map PendingCommand.id) := by
  induction pending generalizing room with
  | nil => exact .slnil
  | cons entry rest ih =>
    unfold due
    split
    · exact (ih _).cons _
    · exact (ih room).cons_cons _

/-- A queue pair refuses a command and stays as it is, or accepts it under the free id. -/
lemma submit_accepts (queue : LoopbackQueue) (command : Command) (net : Loopback) :
    (∃ error, queue.submit command net = (.error error, queue, net)) ∨
      queue.pending.length < queue.depth ∧ queue.submit command net = (.ok queue.freeId,
        { queue with
          nextId := queue.freeId + 1
          pending := queue.pending ++ [⟨queue.freeId, command, net.behavior.completionDelayPolls⟩] },
        net.count (countCommand command)) := by
  unfold submit
  split
  · exact .inl ⟨_, rfl⟩
  · split
    · exact .inl ⟨_, rfl⟩
    · split
      · exact .inl ⟨_, rfl⟩
      · rename_i hroom
        exact .inr ⟨Nat.lt_of_not_le hroom, rfl⟩

lemma submit_cases (queue : LoopbackQueue) (command : Command) (net : Loopback) :
    (∃ error, queue.submit command net = (.error error, queue, net)) ∨
      queue.pending.length < queue.depth ∧ ∃ pollsLeft net', queue.submit command net = (.ok queue.freeId,
        { queue with
          nextId := queue.freeId + 1
          pending := queue.pending ++ [⟨queue.freeId, command, pollsLeft⟩] }, net') :=
  (queue.submit_accepts command net).imp_right fun ⟨hroom, heq⟩ => ⟨hroom, _, _, heq⟩

/-- The commands that a poll executes: none if it fails or the queue pair is stalled. -/
def batch (queue : LoopbackQueue) (limit : Nat) (net : Loopback) : List PendingCommand :=
  match queue.attachment net with
  | .error _ => []
  | .ok _ =>
    if queue.stalled net.behavior then [] else (due (if limit = 0 then none else some limit) queue.pending).1

/-- A poll fails, stalls, or executes its batch and reports about it, in order or turned around. -/
lemma process_batch (queue : LoopbackQueue) (limit : Nat) (net : Loopback) :
    (∃ failure, queue.process limit net = (.error failure, queue, net) ∧ queue.batch limit net = []) ∨
      ∃ attachment, queue.attachment net = .ok attachment ∧
        (queue.stalled net.behavior = true ∧ queue.process limit net = (.ok [], queue, net) ∧ queue.batch limit net = [] ∨
          queue.stalled net.behavior = false ∧ ∃ completions,
            let split := due (if limit = 0 then none else some limit) queue.pending
            let executed := executeAll attachment.subsystem queue.controllerId split.1 net
            queue.process limit net = (.ok completions, { queue with pending := split.2 }, executed.2) ∧
              queue.batch limit net = split.1 ∧ (completions = executed.1 ∨ completions = executed.1.reverse)) := by
  cases hattachment : queue.attachment net with
  | error failure => exact .inl ⟨failure, by simp only [process, hattachment], by simp only [batch, hattachment]⟩
  | ok attachment =>
    refine .inr ⟨attachment, rfl, ?_⟩
    simp only [process, batch, hattachment]
    cases queue.stalled net.behavior with
    | true => exact .inl ⟨rfl, rfl, rfl⟩
    | false =>
      refine .inr ⟨rfl, _, rfl, rfl, ?_⟩
      split
      · exact .inr rfl
      · exact .inl rfl

/-- A poll fails and changes nothing, or divides the pending commands into those it reports about and those that stay. -/
lemma process_cases (queue : LoopbackQueue) (limit : Nat) (net : Loopback) :
    (∃ failure, queue.process limit net = (.error failure, queue, net)) ∨
      ∃ completions pending net', queue.process limit net = (.ok completions, { queue with pending }, net') ∧
        (completions.map Completion.id ++ pending.map PendingCommand.id).Perm (queue.pending.map PendingCommand.id) ∧
        (pending.map PendingCommand.id).Sublist (queue.pending.map PendingCommand.id) := by
  rcases queue.process_batch limit net with
    ⟨failure, heq, -⟩ | ⟨attachment, -, ⟨-, heq, -⟩ | ⟨-, completions, heq, -, hcompletions⟩⟩
  · exact .inl ⟨failure, heq⟩
  · exact .inr ⟨[], queue.pending, net, heq, .refl _, .refl _⟩
  · refine .inr ⟨completions, _, _, heq, ?_, due_sublist _ _⟩
    have hids := executeAll_ids attachment.subsystem queue.controllerId
      (due (if limit = 0 then none else some limit) queue.pending).1 net
    refine List.Perm.trans (List.Perm.append_right _ ?_) (due_perm (if limit = 0 then none else some limit) _)
    rw [← hids]
    rcases hcompletions with rfl | rfl
    · exact .refl _
    · exact (List.reverse_perm _).map _

/-- The pending commands have different ids, and there is one left for another command. -/
structure Apart (queue : LoopbackQueue) : Prop where
  nodup : (queue.pending.map PendingCommand.id).Nodup
  length_le : queue.pending.length ≤ queue.depth
  depth_lt : queue.depth < 65536

namespace Apart

variable {queue : LoopbackQueue} (h : queue.Apart)
include h

lemma freeId_notMem : queue.freeId ∉ queue.pending.map PendingCommand.id := by
  unfold freeId
  apply freeIdFrom_notMem
  · exact Nat.le_of_eq (List.length_map _)
  · exact Nat.lt_of_le_of_lt h.length_le h.depth_lt

lemma accepted (command : Command) (pollsLeft : Nat) (hroom : queue.pending.length < queue.depth) : Apart
    { queue with
      nextId := queue.freeId + 1
      pending := queue.pending ++ [⟨queue.freeId, command, pollsLeft⟩] } where
  nodup := by
    rw [List.map_append, List.nodup_append_comm]
    exact List.nodup_cons.mpr ⟨h.freeId_notMem, h.nodup⟩
  length_le := by
    rw [List.length_append, List.length_singleton]
    exact hroom
  depth_lt := h.depth_lt

lemma staying {pending : List PendingCommand}
    (hsublist : (pending.map PendingCommand.id).Sublist (queue.pending.map PendingCommand.id)) :
    Apart { queue with pending } where
  nodup := h.nodup.sublist hsublist
  length_le := by
    have hlength := hsublist.length_le
    rw [List.length_map, List.length_map] at hlength
    exact Nat.le_trans hlength h.length_le
  depth_lt := h.depth_lt

lemma submit (command : Command) (net : Loopback) : (queue.submit command net).2.1.Apart := by
  rcases queue.submit_cases command net with ⟨error, heq⟩ | ⟨hroom, pollsLeft, net', heq⟩
  · rw [heq]
    exact h
  · rw [heq]
    exact h.accepted command pollsLeft hroom

lemma process (limit : Nat) (net : Loopback) : (queue.process limit net).2.1.Apart := by
  rcases queue.process_cases limit net with ⟨failure, heq⟩ | ⟨completions, pending, net', heq, -, hsublist⟩
  · rw [heq]
    exact h
  · rw [heq]
    exact h.staying hsublist

end Apart

lemma apart_of_empty {queue : LoopbackQueue} (hpending : queue.pending = []) (hdepth : queue.depth < 65536) :
    queue.Apart where
  nodup := by simp [hpending]
  length_le := by simp [hpending]
  depth_lt := hdepth

end LoopbackQueue

namespace Loopback

/-- A handshake is counted, and fails or brings the next controller for a subsystem that is there. -/
lemma handshake_result (net : Loopback) (params : HandshakeParams) :
    let name : SubsystemName := ⟨params.target, params.subsystemNqn⟩
    let controllerId := net.nextController
    let counted := net.count fun stats => { stats with handshakes := stats.handshakes + 1 }
    let known := { counted with
      lastController := controllerId
      attachments := net.attachments.insert controllerId { subsystem := name } }
    (∃ failure, net.handshake params = (.error failure, counted)) ∨
      ∃ volumes, net.volumes? name = some volumes ∧ net.handshake params =
        (.ok {
          controller := { controllerId }
          admin := { controllerId, generation := none, depth := adminDepth }
          controllerId
          namespaceCount := UInt32.ofNat volumes.length },
        known.count fun stats => { stats with liveControllers := stats.liveControllers + 1 }) := by
  unfold handshake
  dsimp only
  split
  · exact .inl ⟨_, rfl⟩
  · split
    · exact .inl ⟨_, rfl⟩
    · split
      · exact .inl ⟨_, rfl⟩
      · rename_i volumes hvolumes
        exact .inr ⟨volumes, hvolumes, rfl⟩

/-- An I/O queue pair is of the generation that its controller is in. -/
lemma createIoQueue_result (controller : LoopbackController) (depth : UInt16) (net : Loopback) :
    (∃ failure, createIoQueue controller depth net = (.error failure, controller, net)) ∨
      ∃ attachment, net.attachments[controller.controllerId]? = some attachment ∧ createIoQueue controller depth net =
        (.ok {
          controllerId := controller.controllerId
          generation := some attachment.generation
          depth := max depth.toNat 1 },
        controller, net.count fun stats => { stats with liveIoQueues := stats.liveIoQueues + 1 }) := by
  unfold createIoQueue
  split
  · exact .inl ⟨_, rfl⟩
  · split
    · exact .inl ⟨_, rfl⟩
    · rename_i attachment hattachment
      exact .inr ⟨attachment, hattachment, rfl⟩

variable {net net' : Loopback}

lemma handshake_apart {params : HandshakeParams} {association : Association LoopbackController LoopbackQueue}
    (h : net.handshake params = (.ok association, net')) : association.admin.Apart := by
  rcases net.handshake_result params with ⟨_, heq⟩ | ⟨_, -, heq⟩
  · rw [heq] at h
    cases h
  · rw [heq] at h
    cases h
    exact LoopbackQueue.apart_of_empty rfl (by simp only [adminDepth]; omega)

/-- A depth is asked for as a number of 16 bits, so there are more ids than a queue pair has room for commands. -/
lemma createIoQueue_apart {controller controller' : LoopbackController} {depth : UInt16} {queue : LoopbackQueue}
    (h : createIoQueue controller depth net = (.ok queue, controller', net')) : queue.Apart := by
  have hdepth := depth.toNat_lt
  rcases createIoQueue_result controller depth net with ⟨_, heq⟩ | ⟨_, -, heq⟩
  · rw [heq] at h
    cases h
  · rw [heq] at h
    cases h
    exact LoopbackQueue.apart_of_empty rfl (by simp only; omega)

end Loopback

namespace History

/-- Several reports take the commands of their ids out of flight. -/
lemma inFlight_foldl_report (completions : List Completion) (history : History) :
    (completions.foldl History.report history).inFlight =
      history.inFlight.filter fun command => command.id ∉ completions.map Completion.id := by
  induction completions generalizing history with
  | nil => simp
  | cons completion rest ih =>
    rw [List.foldl_cons, ih, inFlight_report, List.filter_filter]
    apply List.filter_congr
    intro command _
    simp [Bool.and_comm]

/-- Reports about different commands in flight are one for each. -/
lemma reports_of_nodup {completions : List Completion} {history : History}
    (hnodup : (completions.map Completion.id).Nodup)
    (hflight : ∀ completion ∈ completions, ∃ command ∈ history.inFlight, command.id = completion.id) :
    history.Reports completions := by
  induction completions generalizing history with
  | nil => trivial
  | cons completion rest ih =>
    rw [List.map_cons, List.nodup_cons] at hnodup
    refine ⟨.inl (hflight completion List.mem_cons_self), ih hnodup.2 ?_⟩
    intro other hother
    obtain ⟨command, hcommand, hid⟩ := hflight other (List.mem_cons_of_mem _ hother)
    refine ⟨command, mem_inFlight_report.mpr ⟨hcommand, fun heq => hnodup.1 ?_⟩, hid⟩
    rw [← heq, hid]
    exact List.mem_map_of_mem hother

end History

/-- The pending commands are those in flight, and there is an id left for another one. -/
structure InStep (queue : LoopbackQueue) (history : History) : Prop where
  ids : queue.pending.map PendingCommand.id = history.inFlight.map Sent.id
  nodup : (queue.pending.map PendingCommand.id).Nodup
  length_le : queue.pending.length ≤ queue.depth
  depth_lt : queue.depth < 65536

namespace InStep

section

variable {queue : LoopbackQueue} {history : History} (h : InStep queue history)
include h

lemma apart : queue.Apart := ⟨h.nodup, h.length_le, h.depth_lt⟩

/-- What stays pending after a poll is what is still in flight after its reports. -/
lemma staying_ids {completions : List Completion} {pending : List PendingCommand}
    (hperm : (completions.map Completion.id ++ pending.map PendingCommand.id).Perm
      (queue.pending.map PendingCommand.id))
    (hsublist : (pending.map PendingCommand.id).Sublist (queue.pending.map PendingCommand.id)) :
    pending.map PendingCommand.id = (completions.foldl History.report history).inFlight.map Sent.id := by
  have hnodup := hperm.nodup_iff.mpr h.nodup
  have hapart : (pending.map PendingCommand.id).filter (· ∉ completions.map Completion.id) =
      pending.map PendingCommand.id := by
    rw [List.filter_eq_self]
    intro id hid
    rw [decide_eq_true_iff]
    exact fun hreported => (List.nodup_append'.mp hnodup).2.2 hreported hid
  have hreported : (completions.map Completion.id).filter (· ∉ completions.map Completion.id) = [] := by
    rw [List.filter_eq_nil_iff]
    intro id hid
    simpa using hid
  have hall := hperm.filter (· ∉ completions.map Completion.id)
  rw [List.filter_append, hreported, hapart, List.nil_append] at hall
  have hfront := hsublist.filter (· ∉ completions.map Completion.id)
  rw [hapart] at hfront
  rw [hfront.eq_of_length hall.length_eq, h.ids, History.inFlight_foldl_report, List.filter_map]
  rfl

lemma reports {completions : List Completion} {pending : List PendingCommand}
    (hperm : (completions.map Completion.id ++ pending.map PendingCommand.id).Perm
      (queue.pending.map PendingCommand.id)) : history.Reports completions := by
  refine History.reports_of_nodup (List.nodup_append'.mp (hperm.nodup_iff.mpr h.nodup)).1 ?_
  intro completion hcompletion
  have hmem : completion.id ∈ queue.pending.map PendingCommand.id :=
    hperm.mem_iff.mp (List.mem_append_left _ (List.mem_map_of_mem hcompletion))
  rw [h.ids] at hmem
  exact List.mem_map.mp hmem

lemma accepted {command : Command} {request : Option RequestId} {pollsLeft : Nat}
    (hroom : queue.pending.length < queue.depth) : InStep
      { queue with
        nextId := queue.freeId + 1
        pending := queue.pending ++ [⟨queue.freeId, command, pollsLeft⟩] }
      (history.accept queue.freeId request) where
  ids := by
    rw [History.inFlight_accept, List.map_append, List.map_append, h.ids]
    rfl
  nodup := (h.apart.accepted command pollsLeft hroom).nodup
  length_le := (h.apart.accepted command pollsLeft hroom).length_le
  depth_lt := h.depth_lt

lemma reaped {completions : List Completion} {pending : List PendingCommand} {released : List RequestId}
    (hperm : (completions.map Completion.id ++ pending.map PendingCommand.id).Perm
      (queue.pending.map PendingCommand.id))
    (hsublist : (pending.map PendingCommand.id).Sublist (queue.pending.map PendingCommand.id)) :
    InStep { queue with pending } ((completions.foldl History.report history).release released) where
  ids := h.staying_ids hperm hsublist
  nodup := (h.apart.staying hsublist).nodup
  length_le := (h.apart.staying hsublist).length_le
  depth_lt := h.depth_lt

end

variable {state : Recorded LoopbackQueue} (h : InStep state.channel.queue state.history)
include h

lemma after (call : ChannelCall) (net : Loopback) :
    InStep (state.after call net).channel.queue (state.after call net).history := by
  cases call with
  | submit request command =>
    rcases state.channel.queue.submit_cases command net with ⟨error, heq⟩ | ⟨hroom, pollsLeft, net', heq⟩
    · simp only [Recorded.after, Channel.submit, QueuePairs.submit, heq]
      exact h
    · simp only [Recorded.after, Channel.submit, QueuePairs.submit, heq]
      exact h.accepted hroom
  | submitDetached command =>
    rcases state.channel.queue.submit_cases command net with ⟨error, heq⟩ | ⟨hroom, pollsLeft, net', heq⟩
    · simp only [Recorded.after, Channel.submitDetached, QueuePairs.submit, heq]
      exact h
    · simp only [Recorded.after, Channel.submitDetached, QueuePairs.submit, heq]
      exact h.accepted hroom
  | reap =>
    rcases state.channel.queue.process_cases 0 net with ⟨failure, heq⟩ | ⟨completions, pending, net', heq, hperm, hsub⟩
    · simp only [Recorded.after, Channel.reap, QueuePairs.process, heq]
      exact h
    · simp only [Recorded.after, Channel.reap, QueuePairs.process, heq]
      exact h.reaped hperm hsub
  | take request =>
    simp only [Recorded.after]
    split <;> exact ⟨h.ids, h.nodup, h.length_le, h.depth_lt⟩
  | abandon request =>
    simp only [Recorded.after]
    split <;> exact ⟨h.ids, h.nodup, h.length_le, h.depth_lt⟩

lemma reportsOnce (net : Loopback) : state.ReportsOnce net := by
  unfold Recorded.ReportsOnce
  rcases state.channel.queue.process_cases 0 net with ⟨failure, heq⟩ | ⟨completions, pending, net', heq, hperm, -⟩
  · simp only [QueuePairs.process, heq]
  · simp only [QueuePairs.process, heq]
    exact h.reports hperm

/-- No command in flight has the id that a new one is accepted under. -/
lemma acceptsUnder (command : Command) (net : Loopback) :
    state.AcceptsUnder (· ∉ state.history.inFlight.map Sent.id) command net := by
  unfold Recorded.AcceptsUnder
  rcases state.channel.queue.submit_cases command net with ⟨error, heq⟩ | ⟨-, pollsLeft, net', heq⟩
  · simp only [QueuePairs.submit, heq]
  · simp only [QueuePairs.submit, heq]
    rw [← h.ids]
    exact h.apart.freeId_notMem

end InStep

end FabricHost
