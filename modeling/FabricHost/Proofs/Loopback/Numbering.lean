import FabricHost.Proofs.Loopback.Delivery

/-!
# How long ids last

A simulated queue pair counts its ids up through 65536 values. While no outstanding command is that many commands old,
ids are the places of the commands, no completion is held back under a new one, and completions stay with their
requests. Once a command is that old, the id of a completion that waits behind it is given out again.
-/

namespace FabricHost

namespace Recorded

variable {state : Recorded LoopbackQueue}

/-- No command is outstanding that 65535 others were accepted behind: none whose completion is still to come or held
back. -/
def Recent (state : Recorded LoopbackQueue) : Prop :=
  ∀ place command, state.history.sent[place]? = some command →
    (command.completion = none ∨
      ∃ entry ∈ state.channel.tracker.inflight, command.request = some entry.request) →
    state.history.sent.length < place + 65536

/-- Requests are not used again, and commands are accepted while the outstanding ones are recent. -/
def Prompt (state : Recorded LoopbackQueue) (call : ChannelCall) (_ : Loopback) : Prop :=
  match call with
  | .submit request _ => request ∉ state.history.requests ∧ state.Recent
  | .submitDetached _ => state.Recent
  | _ => True

/-- Ids are the places of the commands, modulo their number. -/
structure Numbered (state : Recorded LoopbackQueue) : Prop where
  next : state.channel.queue.nextId = UInt16.ofNat state.history.sent.length
  ids : state.history.sent.map Sent.id = (List.range state.history.sent.length).map UInt16.ofNat

lemma Recent.id_ne (recent : state.Recent) (numbered : state.Numbered) {command : Sent}
    (hcommand : command ∈ state.history.sent)
    (hwaits : command.completion = none ∨
      ∃ entry ∈ state.channel.tracker.inflight, command.request = some entry.request) :
    command.id ≠ state.channel.queue.nextId := by
  obtain ⟨place, hplace⟩ := List.mem_iff_getElem?.mp hcommand
  have hlt : place < state.history.sent.length := (List.getElem?_eq_some_iff.mp hplace).1
  have hrecent := recent place command hplace hwaits
  have hid : (state.history.sent.map Sent.id)[place]? = some command.id := by
    rw [List.getElem?_map, hplace]
    rfl
  rw [numbered.ids, List.getElem?_map, List.getElem?_range hlt, Option.map_some, Option.some.injEq] at hid
  rw [numbered.next, ← hid]
  intro heq
  have hnat := congrArg UInt16.toNat heq
  rw [UInt16.toNat_ofNat', UInt16.toNat_ofNat'] at hnat
  omega

/-- While the outstanding commands are recent, the counter gives the next id, and no completion is held back under it. -/
lemma Recent.freeId (recent : state.Recent) (numbered : state.Numbered)
    (hstep : InStep state.channel.queue state.history) (h : Agrees state.channel.tracker state.history) :
    state.channel.queue.freeId = state.channel.queue.nextId ∧
      state.channel.queue.nextId ∉ state.channel.tracker.arrived := by
  constructor
  · refine LoopbackQueue.freeIdFrom_of_notMem _ fun hmem => ?_
    rw [hstep.ids] at hmem
    obtain ⟨command, hcommand, heq⟩ := List.mem_map.mp hmem
    obtain ⟨hsent, hnone⟩ := History.mem_inFlight.mp hcommand
    exact recent.id_ne numbered hsent (.inl hnone) heq
  · intro hmem
    obtain ⟨entry, hentry, hid⟩ := h.arrived_inflight _ hmem
    obtain ⟨command, hcommand, hof, hcid, -⟩ := h.inflight_sent entry hentry
    exact recent.id_ne numbered hcommand (.inr ⟨entry, hentry, hof⟩) (hcid.trans hid)

end Recorded

lemma History.ids_foldl_report (completions : List Completion) (history : History) :
    (completions.foldl History.report history).sent.map Sent.id = history.sent.map Sent.id := by
  induction completions generalizing history with
  | nil => rfl
  | cons completion rest ih =>
    rw [List.foldl_cons, ih, History.report, List.map_map]
    exact List.map_congr_left fun command _ => Sent.report_id completion command

namespace Recorded

variable {controllerId : UInt16} {generation : Option Nat} {depth : UInt16} {state : Recorded LoopbackQueue}

/-- A command that is accepted under the counter's id keeps the numbering up. -/
lemma Numbered.accepted {queue : LoopbackQueue} {tracker tracker' : Tracker} {history : History}
    (numbered : Numbered ⟨⟨queue, tracker⟩, history⟩) (hfree : queue.freeId = queue.nextId)
    (pending : List PendingCommand) (request : Option RequestId) :
    Numbered ⟨⟨{ queue with nextId := queue.freeId + 1, pending }, tracker'⟩, history.accept queue.freeId request⟩ where
  next := by
    have hnext : queue.nextId = UInt16.ofNat history.sent.length := numbered.next
    simp only [History.accept, List.length_append, List.length_singleton]
    rw [hfree, hnext, UInt16.ofNat_add]
    rfl
  ids := by
    have hnext : queue.nextId = UInt16.ofNat history.sent.length := numbered.next
    simp only [History.accept, List.length_append, List.length_singleton, List.map_append]
    rw [List.range_succ, List.map_append, numbered.ids, hfree, hnext]
    rfl

lemma Numbered.after (numbered : Numbered state) (hstep : InStep state.channel.queue state.history)
    (h : Agrees state.channel.tracker state.history) {call : ChannelCall} {net : Loopback}
    (prompt : Prompt state call net) : Numbered (state.after call net) := by
  cases call with
  | submit request command =>
    have recent : state.Recent := prompt.2
    rcases state.channel.queue.submit_cases command net with ⟨error, heq⟩ | ⟨-, pollsLeft, net', heq⟩
    · simp only [Recorded.after, Channel.submit, QueuePairs.submit, heq]
      exact numbered
    · simp only [Recorded.after, Channel.submit, QueuePairs.submit, heq]
      exact numbered.accepted (recent.freeId numbered hstep h).1 _ _
  | submitDetached command =>
    have recent : state.Recent := prompt
    rcases state.channel.queue.submit_cases command net with ⟨error, heq⟩ | ⟨-, pollsLeft, net', heq⟩
    · simp only [Recorded.after, Channel.submitDetached, QueuePairs.submit, heq]
      exact numbered
    · simp only [Recorded.after, Channel.submitDetached, QueuePairs.submit, heq]
      exact numbered.accepted (recent.freeId numbered hstep h).1 _ _
  | reap =>
    rcases state.channel.queue.process_cases 0 net with ⟨failure, heq⟩ | ⟨completions, pending, net', heq, -, -⟩
    · simp only [Recorded.after, Channel.reap, QueuePairs.process, heq]
      exact numbered
    · have hids := History.ids_foldl_report completions state.history
      have hlength := congrArg List.length hids
      rw [List.length_map, List.length_map] at hlength
      simp only [Recorded.after, Channel.reap, QueuePairs.process, heq]
      refine ⟨?_, ?_⟩
      · simp only [History.release, hlength]
        exact numbered.next
      · simp only [History.release, hlength, hids]
        exact numbered.ids
  | take request =>
    simp only [Recorded.after]
    split <;> exact ⟨numbered.next, numbered.ids⟩
  | abandon request =>
    simp only [Recorded.after]
    split <;> exact ⟨numbered.next, numbered.ids⟩

lemma separate_of_prompt (numbered : Numbered state) (hstep : InStep state.channel.queue state.history)
    (h : Agrees state.channel.tracker state.history) {call : ChannelCall} {net : Loopback}
    (prompt : Prompt state call net) : Separate state call net := by
  cases call with
  | submit request command =>
    have recent : state.Recent := prompt.2
    obtain ⟨hid, hapart⟩ := recent.freeId numbered hstep h
    refine ⟨prompt.1, ?_⟩
    unfold AcceptsUnder
    rcases state.channel.queue.submit_cases command net with ⟨error, heq⟩ | ⟨-, pollsLeft, net', heq⟩
    · simp only [QueuePairs.submit, heq]
    · simp only [QueuePairs.submit, heq]
      rwa [hid]
  | submitDetached command => trivial
  | reap => trivial
  | take request => trivial
  | abandon request => trivial

lemma run_prompt_separate (run : Run Prompt (.idle controllerId generation depth) state) :
    Run Separate (.idle controllerId generation depth) state ∧ Numbered state := by
  induction run with
  | start => exact ⟨.start, rfl, rfl⟩
  | call state call net _ prompt ih =>
    obtain ⟨run, numbered⟩ := ih
    have hstep := run_inStep run
    have hagrees := run_separate_agrees run
    exact ⟨.call state call net run (separate_of_prompt numbered hstep hagrees prompt),
      numbered.after hstep hagrees prompt⟩

/-- While no outstanding command is older than the ids last, completions stay with their requests. -/
theorem faithful_of_prompt (run : Run Prompt (.idle controllerId generation depth) state) :
    Faithful state.channel.tracker state.history :=
  (run_separate_agrees (run_prompt_separate run).1).faithful

end Recorded

/-- An admin queue pair of controller 1 that carries these commands. -/
def LoopbackQueue.carrying (nextId : CommandId) (pending : List PendingCommand) : LoopbackQueue :=
  { LoopbackQueue.idle 1 none 4 with nextId, pending }

/-- Request 1 is still in flight, request 2 has completed behind it and is held back, and `rounds` commands have come
and gone since. -/
def heldBack (rounds : Nat) : Channel LoopbackQueue where
  queue := .carrying (UInt16.ofNat (rounds + 2)) [⟨0, .keepAlive, 65534 - rounds⟩]
  tracker := {
    inflight := [⟨1, 0⟩, ⟨2, 1⟩]
    arrived := (∅ : Std.ExtTreeMap CommandId Completion).insert 1 { id := 1, status := .invalidNamespace } }

lemma heldBack_freeId {rounds : Nat} (h : rounds < 65534) :
    (heldBack rounds).queue.freeId = UInt16.ofNat (rounds + 2) := by
  refine LoopbackQueue.freeIdFrom_of_notMem _ fun hmem => ?_
  have hzero : UInt16.ofNat (rounds + 2) = 0 := by simpa [heldBack, LoopbackQueue.carrying] using hmem
  have hnat := congrArg UInt16.toNat hzero
  rw [UInt16.toNat_ofNat', UInt16.toNat_zero] at hnat
  omega

/-- A completion that is dropped leaves no trace. -/
lemma heldBack_absorb (rounds : Nat) (id : CommandId) :
    ((heldBack rounds).tracker.detached id).absorb [{ id, status := .success }] = (heldBack rounds).tracker := by
  have hmem : id ∈ ((heldBack rounds).tracker.detached id).discard := Std.ExtTreeSet.mem_insert_self
  have hempty : ((heldBack rounds).tracker.detached id).discard.erase id = ∅ := by
    refine Std.ExtTreeSet.ext_mem fun other => ?_
    simp [Tracker.detached, heldBack]
  unfold Tracker.absorb
  rw [List.foldl_cons, List.foldl_nil, Tracker.arrive, if_pos hmem, hempty]
  rfl

/-- A command that nobody waits for comes and goes, and uses one id up. -/
lemma heldBack_round {rounds : Nat} (h : rounds < 65534) :
    (((heldBack rounds).submitDetached .keepAlive (Loopback.attached 0)).2.1.reap (Loopback.attached 0)).2.1 =
      heldBack (rounds + 1) := by
  have hsubmit : (heldBack rounds).submitDetached .keepAlive (Loopback.attached 0) =
      (.ok (), ⟨.carrying ((heldBack rounds).queue.freeId + 1)
          [⟨0, .keepAlive, 65534 - rounds⟩, ⟨(heldBack rounds).queue.freeId, .keepAlive, 0⟩],
        (heldBack rounds).tracker.detached (heldBack rounds).queue.freeId⟩,
        (Loopback.attached 0).count (LoopbackQueue.countCommand .keepAlive)) := rfl
  have hprocess : ∀ id nextId pollsLeft,
      (LoopbackQueue.carrying nextId [⟨0, .keepAlive, pollsLeft + 1⟩, ⟨id, .keepAlive, 0⟩]).process 0
          (Loopback.attached 0) =
        (.ok [{ id, status := .success }], .carrying nextId [⟨0, .keepAlive, pollsLeft⟩], .attached 0) :=
    fun _ _ _ => rfl
  have hpolls : 65534 - rounds = 65534 - (rounds + 1) + 1 := by omega
  have hnext : UInt16.ofNat (rounds + 2) + 1 = UInt16.ofNat (rounds + 1 + 2) := by
    rw [Nat.add_right_comm, UInt16.ofNat_add (rounds + 2) 1]
    rfl
  rw [hsubmit, heldBack_freeId h, hpolls, hnext]
  simp only [Channel.reap, QueuePairs.process, hprocess, heldBack_absorb]
  rfl

namespace Recorded

def secondFailed : Sent := ⟨1, some 2, some { id := 1, status := .invalidNamespace }⟩

/-- The first command stays in flight for long, and the second one completes at once. -/
def opening : List (ChannelCall × Loopback) :=
  [(.submit 1 .keepAlive, .attached 65535), (.submit 2 (.identifyNamespace 7), .attached 0), (.reap, .attached 0)]

lemma opening_heldBack :
    (afterAll { channel := { queue := LoopbackQueue.idle 1 none 4 } } opening).channel = heldBack 0 := by
  rfl

lemma run_heldBack (rounds : Nat) (h : rounds ≤ 65534) : ∃ state : Recorded LoopbackQueue,
    Run Fresh (.idle 1 none 4) state ∧ state.channel = heldBack rounds ∧
      state.history.requests = [1, 2] ∧ secondFailed ∈ state.history.sent := by
  induction rounds with
  | zero =>
    have run : Run Fresh (.idle 1 none 4) (afterAll { channel := { queue := .idle 1 none 4 } } opening) :=
      Run.start.calls (by decide +kernel)
    exact ⟨_, run, opening_heldBack, by decide +kernel, by decide +kernel⟩
  | succ rounds ih =>
    obtain ⟨state, run, hchannel, hrequests, hsecond⟩ := ih (Nat.le_of_succ_le h)
    let accepted := state.after (.submitDetached .keepAlive) (Loopback.attached 0)
    have run' : Run Fresh (.idle 1 none 4) (accepted.after .reap (Loopback.attached 0)) :=
      .call _ _ _ (.call _ _ _ run trivial) trivial
    refine ⟨accepted.after .reap (Loopback.attached 0), run', ?_, ?_, ?_⟩
    · have hround := heldBack_round (Nat.lt_of_succ_le h)
      rwa [← hchannel] at hround
    · rw [requests_after_reap, requests_after_detached, hrequests]
    · exact mem_sent_after (mem_sent_after hsecond rfl _ _) rfl _ _

lemma heldBack_closing :
    ((((heldBack 65534).submit 3 .keepAlive (Loopback.attached 0)).2.1.reap (Loopback.attached 0)).2.1.take 2).1 =
      some { id := 1, status := .success } := by
  decide +kernel

/-- The 65537th command gets the id that the completion of the second one is held back under. When it completes together
with the first one, the second request is handed its completion. -/
theorem unfaithful_after_wraparound : ∃ state : Recorded LoopbackQueue,
    Run Fresh (.idle 1 none 4) state ∧
      (2, { id := 1, status := .success }) ∈ state.history.delivered ∧
      ¬ Faithful state.channel.tracker state.history := by
  obtain ⟨state, run, hchannel, hrequests, hsecond⟩ := run_heldBack 65534 (Nat.le_refl _)
  have hfresh : Fresh state (.submit 3 .keepAlive) (.attached 0) := by
    unfold Fresh
    rw [hrequests]
    decide
  let accepted := state.after (.submit 3 .keepAlive) (Loopback.attached 0)
  let reaped := accepted.after .reap (Loopback.attached 0)
  have run' : Run Fresh (.idle 1 none 4) (reaped.after (.take 2) (Loopback.attached 0)) :=
    .call _ _ _ (.call _ _ _ (.call _ _ _ run hfresh) trivial) trivial
  have htaken : (reaped.channel.take 2).1 = some { id := 1, status := .success } := by
    have hclosing := heldBack_closing
    rwa [← hchannel] at hclosing
  have hdelivered := mem_delivered_after_take htaken (Loopback.attached 0)
  refine ⟨_, run', hdelivered, fun faithful => ?_⟩
  obtain ⟨own, hown, hof, hdone⟩ := faithful.own _ _ hdelivered
  have hsecond' : secondFailed ∈ (reaped.after (.take 2) (Loopback.attached 0)).history.sent :=
    mem_sent_after (mem_sent_after (mem_sent_after hsecond rfl _ _) rfl _ _) rfl _ _
  have hsame := History.eq_of_mem_of_request (run_fresh_nodup run') hown hsecond' hof rfl
  rw [hsame] at hdone
  cases hdone

end Recorded

end FabricHost
