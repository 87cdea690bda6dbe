import FabricHost.Proofs.Loopback.Pending
import Mathlib.Data.List.Perm.Basic

/-!
# Counting outstanding commands

A queue pair counts the commands that it accepted and did not report about. A tracker counts what it waits for, what it
holds back and what it will drop; a completion that is held back is off the queue pair, and is yet counted twice. So the
two counts agree exactly while nothing is held back.
-/

namespace FabricHost

/-- Queue pairs that count the commands submitted and not yet reaped. The count is the queue pair's own: the world around
it does not change it. -/
class CountsOutstanding (W Q : Type) [QueuePairs W Q] : Prop where
  own (queue : Q) (world world' : W) : QueuePairs.outstanding queue world = QueuePairs.outstanding queue world'
  accepted {queue queue' : Q} {command : Command} {world world' : W} {id : CommandId} :
    QueuePairs.submit queue command world = (.ok id, queue', world') →
      QueuePairs.outstanding queue' world' = QueuePairs.outstanding queue world + 1
  refused {queue queue' : Q} {command : Command} {world world' : W} {error : SubmitError} :
    QueuePairs.submit queue command world = (.error error, queue', world') →
      QueuePairs.outstanding queue' world' = QueuePairs.outstanding queue world
  reaped {queue queue' : Q} {limit : Nat} {world world' : W} {completions : List Completion} :
    QueuePairs.process queue limit world = (.ok completions, queue', world') →
      QueuePairs.outstanding queue' world' + completions.length = QueuePairs.outstanding queue world
  failed {queue queue' : Q} {limit : Nat} {world world' : W} {failure : TransportFailure} :
    QueuePairs.process queue limit world = (.error failure, queue', world') →
      QueuePairs.outstanding queue' world' = QueuePairs.outstanding queue world

instance : CountsOutstanding Loopback LoopbackQueue where
  own _ _ _ := rfl
  accepted := by
    intro queue queue' command net net' id h
    change queue.submit command net = _ at h
    rcases queue.submit_cases command net with ⟨error, heq⟩ | ⟨-, pollsLeft, net'', heq⟩
    · rw [heq] at h
      cases h
    · rw [heq] at h
      cases h
      exact List.length_append
  refused := by
    intro queue queue' command net net' error h
    change queue.submit command net = _ at h
    rcases queue.submit_cases command net with ⟨error, heq⟩ | ⟨-, pollsLeft, net'', heq⟩
    · rw [heq] at h
      cases h
      rfl
    · rw [heq] at h
      cases h
  reaped := by
    intro queue queue' limit net net' completions h
    change queue.process limit net = _ at h
    rcases queue.process_cases limit net with ⟨failure, heq⟩ | ⟨completions, pending, net'', heq, hperm, -⟩
    · rw [heq] at h
      cases h
    · rw [heq] at h
      cases h
      have hlength := hperm.length_eq
      rw [List.length_append, List.length_map, List.length_map, List.length_map, Nat.add_comm] at hlength
      exact hlength
  failed := by
    intro queue queue' limit net net' failure h
    change queue.process limit net = _ at h
    rcases queue.process_cases limit net with ⟨failure, heq⟩ | ⟨completions, pending, net'', heq, -, -⟩
    · rw [heq] at h
      cases h
      rfl
    · rw [heq] at h
      cases h

namespace History

/-- The completions are about different commands in flight. -/
def Settles (history : History) (completions : List Completion) : Prop :=
  (completions.map Completion.id).Nodup ∧ ∀ completion ∈ completions, ∃ command ∈ history.inFlight, command.id = completion.id

instance (history : History) (completions : List Completion) : Decidable (history.Settles completions) :=
  inferInstanceAs (Decidable (_ ∧ _))

/-- Each of several reports takes one command out of flight. -/
lemma Settles.length {history : History} {completions : List Completion} (settles : history.Settles completions)
    (hnodup : (history.inFlight.map Sent.id).Nodup) :
    (completions.foldl report history).inFlight.length + completions.length = history.inFlight.length := by
  have hreported : ((history.inFlight.filter (·.id ∈ completions.map Completion.id)).map Sent.id).Perm
      (completions.map Completion.id) := by
    refine (List.perm_ext_iff_of_nodup (hnodup.sublist (List.filter_sublist.map _)) settles.1).mpr fun id => ?_
    constructor
    · intro hid
      obtain ⟨command, hcommand, rfl⟩ := List.mem_map.mp hid
      exact of_decide_eq_true (List.mem_filter.mp hcommand).2
    · intro hid
      obtain ⟨completion, hcompletion, rfl⟩ := List.mem_map.mp hid
      obtain ⟨command, hcommand, heq⟩ := settles.2 completion hcompletion
      rw [← heq] at hid ⊢
      exact List.mem_map_of_mem (List.mem_filter.mpr ⟨hcommand, decide_eq_true hid⟩)
  have hlength := hreported.length_eq
  have hsplit := (List.filter_append_perm (·.id ∈ completions.map Completion.id) history.inFlight).length_eq
  rw [List.length_map, List.length_map] at hlength
  rw [List.length_append, hlength] at hsplit
  rw [inFlight_foldl_report]
  simp only [decide_not]
  omega

end History

/-- The ids of the completions that have not come yet. -/
def Tracker.expectedIds (tracker : Tracker) : List CommandId :=
  (tracker.inflight.filter (·.id ∉ tracker.arrived)).map Inflight.id ++ tracker.discard.toList

lemma Tracker.mem_expectedIds {tracker : Tracker} {id : CommandId} : id ∈ tracker.expectedIds ↔ tracker.Expects id := by
  rw [expectedIds, List.mem_append, Std.ExtTreeSet.mem_toList, List.mem_map]
  refine or_congr_left ⟨?_, ?_⟩
  · rintro ⟨entry, hentry, rfl⟩
    obtain ⟨hmem, hnone⟩ := List.mem_filter.mp hentry
    exact ⟨entry, hmem, rfl, of_decide_eq_true hnone⟩
  · rintro ⟨entry, hmem, rfl, hnone⟩
    exact ⟨entry, List.mem_filter.mpr ⟨hmem, decide_eq_true hnone⟩, rfl⟩

namespace Agrees

variable {tracker : Tracker} {history : History} (h : Agrees tracker history)
include h

/-- As many completions are held back as there are commands waited for that have one. -/
lemma length_arrived :
    (tracker.inflight.filter (·.id ∈ tracker.arrived)).length = tracker.arrived.size := by
  have hnodup : ((tracker.inflight.filter (·.id ∈ tracker.arrived)).map Inflight.id).Nodup :=
    h.inflight_ids.sublist (List.filter_sublist.map _)
  have hperm : ((tracker.inflight.filter (·.id ∈ tracker.arrived)).map Inflight.id).Perm tracker.arrived.keys := by
    refine (List.perm_ext_iff_of_nodup hnodup Std.ExtTreeMap.nodup_keys).mpr fun id => ?_
    rw [Std.ExtTreeMap.mem_keys]
    constructor
    · intro hid
      obtain ⟨entry, hentry, rfl⟩ := List.mem_map.mp hid
      exact of_decide_eq_true (List.mem_filter.mp hentry).2
    · intro hid
      obtain ⟨entry, hentry, rfl⟩ := h.arrived_inflight id hid
      exact List.mem_map_of_mem (List.mem_filter.mpr ⟨hentry, decide_eq_true hid⟩)
  rw [← Std.ExtTreeMap.length_keys, ← hperm.length_eq, List.length_map]

lemma expectedIds_nodup : tracker.expectedIds.Nodup := by
  have hwaited : ((tracker.inflight.filter (·.id ∉ tracker.arrived)).map Inflight.id).Nodup :=
    h.inflight_ids.sublist (List.filter_sublist.map _)
  have hdropped : tracker.discard.toList.Nodup := by
    refine Std.ExtTreeSet.distinct_toList.imp fun {id id'} hne heq => hne ?_
    rwa [Std.compare_eq_iff_eq]
  refine List.nodup_append'.mpr ⟨hwaited, hdropped, fun id hid hdiscard => ?_⟩
  obtain ⟨entry, hentry, rfl⟩ := List.mem_map.mp hid
  obtain ⟨hmem, hnone⟩ := List.mem_filter.mp hentry
  exact of_decide_eq_true hnone (h.discard_apart entry hmem (Std.ExtTreeSet.mem_toList.mp hdiscard))

/-- The commands in flight are those waited for that have not completed, and those whose completions will be dropped. -/
lemma inFlight_perm : (history.inFlight.map Sent.id).Perm tracker.expectedIds := by
  refine (List.perm_ext_iff_of_nodup h.inFlight_ids h.expectedIds_nodup).mpr fun id => ?_
  rw [Tracker.mem_expectedIds]
  constructor
  · intro hid
    obtain ⟨command, hcommand, rfl⟩ := List.mem_map.mp hid
    exact h.inFlight_expected hcommand
  · intro hexpects
    obtain ⟨command, hcommand, rfl⟩ := h.expected_inFlight hexpects
    exact List.mem_map_of_mem hcommand

lemma length_inFlight : history.inFlight.length =
    (tracker.inflight.filter (·.id ∉ tracker.arrived)).length + tracker.discard.size := by
  have hlength := h.inFlight_perm.length_eq
  rwa [List.length_map, Tracker.expectedIds, List.length_append, List.length_map, Std.ExtTreeSet.length_toList] at hlength

/-- A tracker counts every command in flight once and every completion that is held back twice. -/
lemma outstanding_eq : tracker.outstanding = history.inFlight.length + 2 * tracker.arrived.size := by
  have hsplit := (List.filter_append_perm (·.id ∈ tracker.arrived) tracker.inflight).length_eq
  rw [List.length_append, h.length_arrived] at hsplit
  rw [h.length_inFlight, Tracker.outstanding, ← hsplit]
  simp only [decide_not]
  omega

end Agrees

namespace Recorded

variable {W Q : Type} [QueuePairs W Q]

/-- If the queue pair reports, then about different commands in flight. -/
def ReportsInFlight (state : Recorded Q) (world : W) : Prop :=
  match (QueuePairs.process state.channel.queue 0 world).1 with
  | .ok completions => state.history.Settles completions
  | .error _ => True

/-- What is promised of a call, with reports about commands in flight only. -/
def Accountable (state : Recorded Q) (call : ChannelCall) (world : W) : Prop :=
  match call with
  | .reap => state.ReportsInFlight world
  | call => Promised state call world

instance (state : Recorded Q) (world : W) : Decidable (state.ReportsInFlight world) :=
  match hprocess : (QueuePairs.process state.channel.queue 0 world).1 with
  | .ok completions => decidable_of_iff (state.history.Settles completions) (by rw [ReportsInFlight, hprocess])
  | .error _ => isTrue (by rw [ReportsInFlight, hprocess]; trivial)

instance (state : Recorded Q) (call : ChannelCall) (world : W) : Decidable (Accountable state call world) := by
  unfold Accountable
  split <;> infer_instance

lemma Accountable.promised {state : Recorded Q} {call : ChannelCall} {world : W}
    (accountable : Accountable state call world) : Promised state call world := by
  cases call with
  | reap =>
    have hreports : state.ReportsInFlight world := accountable
    change state.ReportsOnce world
    unfold ReportsInFlight at hreports
    unfold ReportsOnce
    split
    · rename_i completions heq
      rw [heq] at hreports
      exact History.reports_of_nodup hreports.1 hreports.2
    · trivial
  | submit request command => exact accountable
  | submitDetached command => exact accountable
  | take request => trivial
  | abandon request => trivial

lemma run_accountable_agrees {queue : Q} {state : Recorded Q} (run : Run (W := W) Accountable queue state) :
    Agrees state.channel.tracker state.history :=
  run_agrees (run.mono fun _ _ _ _ accountable => accountable.promised.admissible)

variable [CountsOutstanding W Q]

/-- The queue pair's count is the number of commands in flight. -/
def Counted (W : Type) [QueuePairs W Q] (state : Recorded Q) : Prop :=
  ∀ world : W, QueuePairs.outstanding state.channel.queue world = state.history.inFlight.length

lemma Counted.of_world {queue : Q} {history : History} {tracker : Tracker} {world : W}
    (h : QueuePairs.outstanding queue world = history.inFlight.length) :
    Counted W { channel := { queue, tracker }, history } :=
  fun other => (CountsOutstanding.own queue other world).trans h

lemma Counted.after {state : Recorded Q} (counted : Counted W state)
    (agrees : Agrees state.channel.tracker state.history) {call : ChannelCall} {world : W}
    (accountable : Accountable state call world) : Counted W (state.after call world) := by
  have haccept : ∀ id (request : Option RequestId),
      (state.history.accept id request).inFlight.length = state.history.inFlight.length + 1 := by
    intro id request
    rw [History.inFlight_accept, List.length_append, List.length_singleton]
  cases call with
  | submit request command =>
    rcases hsubmit : QueuePairs.submit state.channel.queue command world with ⟨_ | id, queue, world'⟩
    · simp only [Recorded.after, Channel.submit, hsubmit]
      exact .of_world ((CountsOutstanding.refused hsubmit).trans (counted world))
    · simp only [Recorded.after, Channel.submit, hsubmit]
      exact .of_world (by rw [CountsOutstanding.accepted hsubmit, counted world, haccept])
  | submitDetached command =>
    rcases hsubmit : QueuePairs.submit state.channel.queue command world with ⟨_ | id, queue, world'⟩
    · simp only [Recorded.after, Channel.submitDetached, hsubmit]
      exact .of_world ((CountsOutstanding.refused hsubmit).trans (counted world))
    · simp only [Recorded.after, Channel.submitDetached, hsubmit]
      exact .of_world (by rw [CountsOutstanding.accepted hsubmit, counted world, haccept])
  | reap =>
    have hreports : state.ReportsInFlight world := accountable
    unfold ReportsInFlight at hreports
    rcases hprocess : QueuePairs.process state.channel.queue 0 world with ⟨_ | completions, queue, world'⟩
    · simp only [Recorded.after, Channel.reap, hprocess]
      exact .of_world ((CountsOutstanding.failed hprocess).trans (counted world))
    · rw [hprocess] at hreports
      simp only [Recorded.after, Channel.reap, hprocess]
      have hcount := CountsOutstanding.reaped hprocess
      have hlength := hreports.length agrees.inFlight_ids
      rw [counted world, ← hlength] at hcount
      exact .of_world (Nat.add_right_cancel hcount)
  | take request =>
    simp only [Recorded.after]
    split <;> exact counted
  | abandon request =>
    simp only [Recorded.after]
    split <;> exact counted

variable {queue : Q} {state : Recorded Q}

lemma run_counted (empty : ∀ world : W, QueuePairs.outstanding queue world = 0)
    (run : Run (W := W) Accountable queue state) : Counted W state := by
  induction run with
  | start => exact empty
  | call state call world run accountable ih => exact ih.after (run_accountable_agrees run) accountable

/-- Over a queue pair that starts empty and keeps its word, a tracker counts two too many for each completion that it holds
back, after every call. So the two counts are the same exactly while nothing is held back. -/
theorem outstanding_eq_iff (empty : ∀ world : W, QueuePairs.outstanding queue world = 0)
    (run : Run (W := W) Accountable queue state) (world : W) :
    state.channel.tracker.outstanding =
        QueuePairs.outstanding state.channel.queue world + 2 * state.channel.tracker.arrived.size ∧
      (state.channel.tracker.outstanding = QueuePairs.outstanding state.channel.queue world ↔
        state.channel.tracker.arrived = ∅) := by
  have hcount : state.channel.tracker.outstanding =
      QueuePairs.outstanding state.channel.queue world + 2 * state.channel.tracker.arrived.size := by
    rw [run_counted empty run world]
    exact (run_accountable_agrees run).outstanding_eq
  refine ⟨hcount, ?_⟩
  rw [hcount, Std.ExtTreeMap.eq_empty_iff_size_eq_zero]
  omega

theorem overtaking_outstanding_eq : ∃ state : Recorded LoopbackQueue,
    Run (W := Loopback) Accountable (.idle 1 none 4) state ∧ state.channel.tracker.arrived = ∅ ∧
      ∀ net : Loopback, state.channel.tracker.outstanding = QueuePairs.outstanding state.channel.queue net := by
  have run : Run (W := Loopback) Accountable (LoopbackQueue.idle 1 none 4)
      (afterAll { channel := { queue := .idle 1 none 4 } } overtaking) := Run.start.calls (by decide +kernel)
  have hnone : (afterAll { channel := { queue := LoopbackQueue.idle 1 none 4 } } overtaking).channel.tracker.arrived = ∅ := by
    decide +kernel
  exact ⟨_, run, hnone, fun net => (outstanding_eq_iff (fun _ => rfl) run net).2.mpr hnone⟩

/-- A completion that came ahead of an earlier one: one command is outstanding, and the tracker counts three. -/
theorem outstanding_held_back : ∃ state : Recorded LoopbackQueue,
    Run (W := Loopback) Accountable (.idle 1 none 4) state ∧ state.channel.tracker.outstanding = 3 ∧
      ∀ net : Loopback, QueuePairs.outstanding state.channel.queue net = 1 := by
  have run : Run (W := Loopback) Accountable (LoopbackQueue.idle 1 none 4)
      (afterAll { channel := { queue := .idle 1 none 4 } } (overtaking.take 3)) := Run.start.calls (by decide +kernel)
  have hpending : (afterAll { channel := { queue := LoopbackQueue.idle 1 none 4 } }
      (overtaking.take 3)).channel.queue.pending.length = 1 := by decide +kernel
  exact ⟨_, run, by decide +kernel, fun _ => hpending⟩

end Recorded

end FabricHost
