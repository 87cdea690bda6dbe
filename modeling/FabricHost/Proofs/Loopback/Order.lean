import FabricHost.Proofs.Loopback.Pending

/-!
# The order of execution on simulated queue pairs

A command that a simulated queue pair accepts is executed by one poll or is pending still. While every command stays in
flight for the same number of polls, the polls that are left rise along the queue, whatever number of completions each
poll is limited to and however often the queue pair stalls. So polls execute from the front, and commands are executed in
the order of their submission.
-/

namespace FabricHost

lemma Loopback.execute_behavior (net : Loopback) (subsystem : SubsystemName) (controllerId : UInt16) (id : CommandId)
    (command : Command) : (net.execute subsystem controllerId id command).2.behavior = net.behavior := by
  unfold execute
  split <;> rfl

namespace LoopbackQueue

lemma executeAll_behavior (subsystem : SubsystemName) (controllerId : UInt16) (entries : List PendingCommand)
    (net : Loopback) : (executeAll subsystem controllerId entries net).2.behavior = net.behavior := by
  induction entries generalizing net with
  | nil => rfl
  | cons entry rest ih => exact (ih _).trans (net.execute_behavior subsystem controllerId entry.id entry.command)

lemma length_reported {subsystem : SubsystemName} {controllerId : UInt16} {entries : List PendingCommand} {net : Loopback}
    {completions : List Completion} (h : completions = (executeAll subsystem controllerId entries net).1 ∨
      completions = (executeAll subsystem controllerId entries net).1.reverse) : completions.length = entries.length := by
  have hlength := congrArg List.length (executeAll_ids subsystem controllerId entries net)
  rw [List.length_map, List.length_map] at hlength
  rcases h with rfl | rfl
  · exact hlength
  · rw [List.length_reverse, hlength]

/-- A pending command, one poll nearer. -/
def nearer (entry : PendingCommand) : PendingCommand := { entry with pollsLeft := entry.pollsLeft - 1 }

lemma sent_nearer (entries : List PendingCommand) :
    (entries.map nearer).map PendingCommand.sent = entries.map PendingCommand.sent := by
  rw [List.map_map]
  rfl

lemma due_length_le (room : Nat) (pending : List PendingCommand) : (due (some room) pending).1.length ≤ room := by
  induction pending generalizing room with
  | nil => exact Nat.zero_le room
  | cons entry rest ih =>
    unfold due
    split
    · rename_i hnow
      have hroom : room ≠ 0 := fun heq => hnow.2 (congrArg some heq)
      have hrest := ih (room - 1)
      simp only [Option.map_some, List.length_cons]
      omega
    · exact ih room

/-- Where nothing is due or there is no room, everything stays. -/
lemma due_eq_nothing {room : Option Nat} {pending : List PendingCommand}
    (h : ∀ entry ∈ pending, ¬ (entry.pollsLeft = 0 ∧ room ≠ some 0)) : due room pending = ([], pending.map nearer) := by
  induction pending with
  | nil => rfl
  | cons entry rest ih =>
    rw [due, if_neg (h entry List.mem_cons_self), ih fun other hother => h other (List.mem_cons_of_mem _ hother)]
    rfl

/-- From a queue along which the polls that are left rise, a poll takes the front. -/
lemma due_front (room : Option Nat) {pending : List PendingCommand}
    (h : pending.Pairwise fun entry later => entry.pollsLeft ≤ later.pollsLeft) :
    ∃ waiting, pending = (due room pending).1 ++ waiting ∧ (due room pending).2 = waiting.map nearer := by
  induction pending generalizing room with
  | nil => exact ⟨[], rfl, rfl⟩
  | cons entry rest ih =>
    obtain ⟨hentry, hrest⟩ := List.pairwise_cons.mp h
    by_cases hnow : entry.pollsLeft = 0 ∧ room ≠ some 0
    · obtain ⟨waiting, hsplit, hstaying⟩ := ih (room.map (· - 1)) hrest
      rw [due, if_pos hnow]
      exact ⟨waiting, congrArg (entry :: ·) hsplit, hstaying⟩
    · refine ⟨entry :: rest, ?_⟩
      rw [due_eq_nothing]
      · exact ⟨rfl, rfl⟩
      · rintro other hother ⟨hzero, hroom⟩
        refine hnow ⟨?_, hroom⟩
        rcases List.mem_cons.mp hother with rfl | hother
        · exact hzero
        · exact Nat.le_zero.mp (hzero ▸ hentry other hother)

end LoopbackQueue

/-- What is done with a queue pair. -/
inductive QueueCall where
  | submit (command : Command)
  | process (limit : Nat)

/-- A queue pair in its network, with what became of the commands that it was handed. -/
structure Serviced where
  queue : LoopbackQueue
  net : Loopback
  /-- The commands that were accepted, with the ids that they got, in the order of submission. -/
  accepted : List (CommandId × Command) := []
  /-- The commands that were executed, in this order. -/
  executed : List (CommandId × Command) := []
  reported : List Completion := []

namespace Serviced

def after (state : Serviced) : QueueCall → Serviced
  | .submit command =>
    let (answer, queue, net) := state.queue.submit command state.net
    { state with queue, net, accepted := state.accepted ++ answer.toOption.toList.map fun id => (id, command) }
  | .process limit =>
    let executed := state.executed ++ (state.queue.batch limit state.net).map PendingCommand.sent
    let (answer, queue, net) := state.queue.process limit state.net
    { state with queue, net, executed, reported := state.reported ++ answer.toOption.getD [] }

/-- Makes calls one after the other. Each comes with what happens to the network before it. -/
def run (state : Serviced) : List (QueueCall × (Loopback → Loopback)) → Serviced
  | [] => state
  | (call, drift) :: rest => ({ state with net := drift state.net }.after call).run rest

/-- What every call keeps up, a run keeps up. -/
lemma run_induction (Holds : Serviced → Prop) (hcall : ∀ state call, Holds state → Holds (state.after call))
    {calls : List (QueueCall × (Loopback → Loopback))}
    (hdrift : ∀ call ∈ calls, ∀ state, Holds state → Holds { state with net := call.2 state.net }) {state : Serviced}
    (h : Holds state) : Holds (state.run calls) := by
  induction calls generalizing state with
  | nil => exact h
  | cons call rest ih =>
    refine ih (fun other hother => hdrift other (List.mem_cons_of_mem _ hother)) (hcall _ call.1 ?_)
    exact hdrift call List.mem_cons_self state h

/-- A submit is refused and changes nothing, or the command is pending from then on. -/
lemma after_submit (state : Serviced) (command : Command) :
    state.after (.submit command) = state ∨
      state.after (.submit command) = { state with
        queue := { state.queue with
          nextId := state.queue.freeId + 1
          pending := state.queue.pending ++ [⟨state.queue.freeId, command, state.net.behavior.completionDelayPolls⟩] }
        net := state.net.count (LoopbackQueue.countCommand command)
        accepted := state.accepted ++ [(state.queue.freeId, command)] } := by
  rcases state.queue.submit_accepts command state.net with ⟨error, heq⟩ | ⟨-, heq⟩
  · left
    simp only [after, heq]
    exact congrArg (fun accepted => { state with accepted }) (List.append_nil _)
  · right
    simp only [after, heq]
    rfl

/-- A poll fails or stalls and changes nothing, or it executes and reports what is due. -/
lemma after_process (state : Serviced) (limit : Nat) :
    state.after (.process limit) = state ∨ ∃ subsystem completions,
      let split := LoopbackQueue.due (if limit = 0 then none else some limit) state.queue.pending
      let done := LoopbackQueue.executeAll subsystem state.queue.controllerId split.1 state.net
      (completions = done.1 ∨ completions = done.1.reverse) ∧ state.after (.process limit) = { state with
        queue := { state.queue with pending := split.2 }
        net := done.2
        executed := state.executed ++ split.1.map PendingCommand.sent
        reported := state.reported ++ completions } := by
  have hnothing : { state with executed := state.executed ++ [], reported := state.reported ++ [] } = state := by
    rw [List.append_nil, List.append_nil]
  rcases state.queue.process_batch limit state.net with
    ⟨failure, heq, hbatch⟩ | ⟨attachment, -, ⟨-, heq, hbatch⟩ | ⟨-, completions, heq, hbatch, hcompletions⟩⟩
  · left
    simp only [after, heq, hbatch]
    exact hnothing
  · left
    simp only [after, heq, hbatch]
    exact hnothing
  · right
    refine ⟨attachment.subsystem, completions, hcompletions, ?_⟩
    simp only [after, heq, hbatch]
    rfl

/-- Every command that was accepted was executed and reported once, or is pending. -/
structure Conserved (depth : Nat) (state : Serviced) : Prop where
  depth : state.queue.depth = depth
  apart : state.queue.Apart
  sent : state.accepted.Perm (state.executed ++ state.queue.pending.map PendingCommand.sent)
  reported : (state.reported.map Completion.id).Perm (state.executed.map Prod.fst)

lemma Conserved.after {depth : Nat} {state : Serviced} (h : Conserved depth state) (call : QueueCall) :
    Conserved depth (state.after call) := by
  cases call with
  | submit command =>
    have hapart : (state.after (.submit command)).queue.Apart := h.apart.submit command state.net
    rcases state.after_submit command with heq | heq
    all_goals rw [heq] at hapart ⊢
    · exact h
    · refine ⟨h.depth, hapart, ?_, h.reported⟩
      rw [List.map_append, ← List.append_assoc]
      exact h.sent.append_right _
  | process limit =>
    have hapart : (state.after (.process limit)).queue.Apart := h.apart.process limit state.net
    rcases state.after_process limit with heq | ⟨subsystem, completions, hcompletions, heq⟩
    all_goals rw [heq] at hapart ⊢
    · exact h
    · refine ⟨h.depth, hapart, ?_, ?_⟩
      · rw [List.append_assoc]
        exact h.sent.trans ((LoopbackQueue.due_perm_sent _ _).symm.append_left _)
      · have hids := LoopbackQueue.executeAll_ids subsystem state.queue.controllerId
          (LoopbackQueue.due (if limit = 0 then none else some limit) state.queue.pending).1 state.net
        rw [List.map_append, List.map_append, List.map_map]
        refine h.reported.append (List.Perm.trans ?_ (.of_eq hids))
        rcases hcompletions with rfl | rfl
        · exact .refl _
        · exact (List.reverse_perm _).map _

/-- The polls that are left rise along the queue, and what was accepted was executed in order up to what is pending. -/
structure InOrder (polls : Nat) (state : Serviced) : Prop where
  delay : state.net.behavior.completionDelayPolls = polls
  rising : state.queue.pending.Pairwise fun entry later => entry.pollsLeft ≤ later.pollsLeft
  bounded : ∀ entry ∈ state.queue.pending, entry.pollsLeft ≤ polls
  sent : state.accepted = state.executed ++ state.queue.pending.map PendingCommand.sent

/-- A new command waits at least as long as any other, as the delay never changed. -/
lemma InOrder.submit {polls : Nat} {state : Serviced} (h : InOrder polls state) (command : Command) :
    InOrder polls (state.after (.submit command)) := by
  rcases state.after_submit command with heq | heq
  · rw [heq]
    exact h
  · rw [heq, h.delay]
    refine ⟨h.delay, ?_, fun entry hentry => ?_, ?_⟩
    · refine List.pairwise_append.mpr ⟨h.rising, List.pairwise_singleton _ _, fun entry hentry last hlast => ?_⟩
      rw [List.mem_singleton.mp hlast]
      exact h.bounded entry hentry
    · rcases List.mem_append.mp hentry with hold | hnew
      · exact h.bounded entry hold
      · exact Nat.le_of_eq (congrArg PendingCommand.pollsLeft (List.mem_singleton.mp hnew))
    · rw [List.map_append, ← List.append_assoc, ← h.sent]
      rfl

/-- What is due is the front of the queue, so it is what was accepted first. -/
lemma InOrder.process {polls : Nat} {state : Serviced} (h : InOrder polls state) (limit : Nat) :
    InOrder polls (state.after (.process limit)) := by
  rcases state.after_process limit with heq | ⟨subsystem, completions, -, heq⟩
  · rw [heq]
    exact h
  · obtain ⟨waiting, hfront, hstaying⟩ :=
      LoopbackQueue.due_front (if limit = 0 then none else some limit) h.rising
    have hrising : waiting.Pairwise fun entry later => entry.pollsLeft ≤ later.pollsLeft := by
      have hall := h.rising
      rw [hfront] at hall
      exact (List.pairwise_append.mp hall).2.1
    have hbounded : ∀ entry ∈ waiting, entry.pollsLeft ≤ polls := fun entry hentry => by
      refine h.bounded entry ?_
      rw [hfront]
      exact List.mem_append_right _ hentry
    rw [heq]
    refine ⟨(LoopbackQueue.executeAll_behavior subsystem _ _ _).symm ▸ h.delay, ?_, fun entry hentry => ?_, ?_⟩
    · simp only [hstaying]
      exact List.pairwise_map.mpr (hrising.imp fun hle => Nat.sub_le_sub_right hle 1)
    · simp only [hstaying] at hentry
      obtain ⟨other, hother, rfl⟩ := List.mem_map.mp hentry
      exact Nat.le_trans (Nat.sub_le _ _) (hbounded other hother)
    · simp only [hstaying, LoopbackQueue.sent_nearer]
      rw [List.append_assoc, ← List.map_append, ← hfront]
      exact h.sent

lemma InOrder.after {polls : Nat} {state : Serviced} (h : InOrder polls state) (call : QueueCall) :
    InOrder polls (state.after call) := by
  cases call with
  | submit command => exact h.submit command
  | process limit => exact h.process limit

end Serviced

/-- On a queue pair with any history, in a network whose behaviour changes in any way between the calls, every command that
was accepted was executed and reported once, under its own id, or is pending. -/
theorem commands_complete_once (controllerId : UInt16) (generation : Option Nat) (depth : UInt16) (net : Loopback)
    (calls : List (QueueCall × (Loopback → Loopback))) :
    let state := ({ queue := .idle controllerId generation depth, net } : Serviced).run calls
    state.accepted.Perm (state.executed ++ state.queue.pending.map PendingCommand.sent) ∧
      (state.reported.map Completion.id).Perm (state.executed.map Prod.fst) ∧
      state.queue.pending.length ≤ depth.toNat ∧ (state.queue.pending.map PendingCommand.id).Nodup ∧
      (∀ (command : Command) (now : Loopback), (state.queue.submit command now).1.isOk = false →
        (state.queue.submit command now).2 = (state.queue, now)) ∧
      (∀ (limit : Nat) (now : Loopback),
        ((state.queue.process limit now).1.isOk = false ∨ state.queue.stalled now.behavior = true →
          (state.queue.process limit now).2 = (state.queue, now)) ∧
        ∀ completions, (state.queue.process limit now).1 = .ok completions →
          (0 < limit → completions.length ≤ limit) ∧
          ∃ attachment, state.queue.attachment now = .ok attachment ∧
            let executed :=
              LoopbackQueue.executeAll attachment.subsystem state.queue.controllerId (state.queue.batch limit now) now
            (completions = executed.1 ∨ completions = executed.1.reverse) ∧
              (state.queue.process limit now).2.2 = executed.2) ∧
      ((∀ call ∈ calls, ∀ now, (call.2 now).behavior.completionDelayPolls = now.behavior.completionDelayPolls) →
        state.accepted = state.executed ++ state.queue.pending.map PendingCommand.sent) := by
  intro state
  have hstart : Serviced.Conserved depth.toNat { queue := .idle controllerId generation depth, net } :=
    ⟨rfl, ⟨List.nodup_nil, Nat.zero_le _, depth.toNat_lt⟩, .nil, .nil⟩
  have h : Serviced.Conserved depth.toNat state :=
    Serviced.run_induction _ (fun _ call h => h.after call) (fun _ _ _ h => ⟨h.depth, h.apart, h.sent, h.reported⟩) hstart
  refine ⟨h.sent, h.reported, h.depth ▸ h.apart.length_le, h.apart.nodup, fun command now hfailed => ?_,
    fun limit now => ⟨fun hidle => ?_, fun completions hcompletions => ?_⟩, fun hkept => ?_⟩
  · rcases state.queue.submit_accepts command now with ⟨error, heq⟩ | ⟨-, heq⟩
    · rw [heq]
    · rw [heq] at hfailed
      cases hfailed
  · rcases state.queue.process_batch limit now with ⟨_, heq, -⟩ | ⟨_, -, ⟨-, heq, -⟩ | ⟨hrunning, _, heq, -, -⟩⟩
    · rw [heq]
    · rw [heq]
    · rw [heq, hrunning] at hidle
      exact hidle.elim nofun nofun
  · rcases state.queue.process_batch limit now with
      ⟨_, heq, -⟩ | ⟨attachment, hattachment, ⟨-, heq, hbatch⟩ | ⟨-, reported, heq, hbatch, hreported⟩⟩
    · rw [heq] at hcompletions
      cases hcompletions
    · rw [heq] at hcompletions ⊢
      rw [hbatch]
      cases hcompletions
      exact ⟨fun _ => Nat.zero_le limit, attachment, hattachment, .inl rfl, rfl⟩
    · rw [heq] at hcompletions ⊢
      rw [hbatch]
      cases hcompletions
      refine ⟨fun hlimit => ?_, attachment, hattachment, hreported, rfl⟩
      rw [LoopbackQueue.length_reported hreported, if_neg (Nat.ne_of_gt hlimit)]
      exact LoopbackQueue.due_length_le limit state.queue.pending
  · have hdrift : ∀ call ∈ calls, ∀ (state : Serviced), state.InOrder net.behavior.completionDelayPolls →
        ({ state with net := call.2 state.net } : Serviced).InOrder net.behavior.completionDelayPolls :=
      fun call hcall state h => ⟨(hkept call hcall state.net).trans h.delay, h.rising, h.bounded, h.sent⟩
    have horder : state.InOrder net.behavior.completionDelayPolls :=
      Serviced.run_induction _ (fun _ call h => h.after call) hdrift ⟨rfl, .nil, nofun, rfl⟩
    exact horder.sent

end FabricHost
