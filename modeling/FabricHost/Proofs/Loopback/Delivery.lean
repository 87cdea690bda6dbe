import FabricHost.Proofs.Loopback.Pending

/-!
# Delivery on simulated queue pairs

A simulated queue pair keeps a new command's id apart from those in flight, but not from those that a tracker still holds
a completion back for. As long as no request's command gets the id of such a completion, every completion stays with its
request; once one does, completions can be lost.
-/

namespace FabricHost

/-- Whether the tracker has this completion for the request. -/
def Tracker.Keeps (tracker : Tracker) (request : RequestId) (completion : Completion) : Prop :=
  tracker.ready[request]? = some completion ∨
    ∃ entry ∈ tracker.inflight, entry.request = request ∧ tracker.arrived[entry.id]? = some completion

/-- Completions stay with their requests: what was taken is the completion of the request's own command, and what has
completed can still be had. -/
structure Faithful (tracker : Tracker) (history : History) : Prop where
  own : ∀ request completion, (request, completion) ∈ history.delivered →
    ∃ command ∈ history.sent, command.request = some request ∧ command.completion = some completion
  kept : ∀ command ∈ history.sent, ∀ request completion, command.request = some request →
    command.completion = some completion → request ∉ history.taken → request ∉ history.abandoned →
      tracker.Keeps request completion

lemma Agrees.faithful {tracker : Tracker} {history : History} (h : Agrees tracker history) :
    Faithful tracker history where
  own := h.delivered_sent
  kept := by
    intro command hcommand request completion hof hdone htaken habandoned
    have hsent : request ∈ history.requests := History.mem_requests.mpr ⟨command, hcommand, hof⟩
    rcases h.tracked hsent htaken habandoned with hready | ⟨entry, hentry, hrequest⟩
    · left
      rw [Std.ExtTreeMap.mem_iff_isSome_getElem?, Option.isSome_iff_exists] at hready
      obtain ⟨done, hready⟩ := hready
      obtain ⟨own, hown, hofOwn, hdoneOwn⟩ := h.ready_sent request done hready
      have hsame := History.eq_of_mem_of_request h.requests_nodup hown hcommand hofOwn hof
      rw [hready, ← hdoneOwn, hsame, hdone]
    · right
      obtain ⟨own, hown, hofOwn, -, hdoneOwn⟩ := h.inflight_sent entry hentry
      rw [hrequest] at hofOwn
      have hsame := History.eq_of_mem_of_request h.requests_nodup hown hcommand hofOwn hof
      exact ⟨entry, hentry, hrequest, by rw [← hdoneOwn, hsame, hdone]⟩

namespace Recorded

/-- Requests are not used again. -/
def Fresh (state : Recorded LoopbackQueue) (call : ChannelCall) (_ : Loopback) : Prop :=
  match call with
  | .submit request _ => request ∉ state.history.requests
  | _ => True

instance (state : Recorded LoopbackQueue) (call : ChannelCall) (net : Loopback) : Decidable (Fresh state call net) :=
  match call with
  | .submit request _ => inferInstanceAs (Decidable (request ∉ state.history.requests))
  | .submitDetached _ | .reap | .take _ | .abandon _ => .isTrue trivial

/-- Requests are not used again, and their commands do not get the id of a completion that is held back. -/
def Separate (state : Recorded LoopbackQueue) (call : ChannelCall) (net : Loopback) : Prop :=
  match call with
  | .submit request command =>
    request ∉ state.history.requests ∧ state.AcceptsUnder (· ∉ state.channel.tracker.arrived) command net
  | _ => True

lemma admissible_of_separate {state : Recorded LoopbackQueue} (hstep : InStep state.channel.queue state.history)
    (h : Agrees state.channel.tracker state.history) {call : ChannelCall} {net : Loopback}
    (separate : Separate state call net) : Admissible state call net := by
  have hexpects : ∀ id, id ∉ state.history.inFlight.map Sent.id → ¬ state.channel.tracker.Expects id := by
    intro id hid hexpects
    obtain ⟨command, hcommand, heq⟩ := h.expected_inFlight hexpects
    exact hid (heq ▸ List.mem_map_of_mem hcommand)
  cases call with
  | submit request command =>
    refine ⟨separate.1, ?_⟩
    have hboth := (hstep.acceptsUnder command net).and separate.2
    refine hboth.mono fun id hid hholds => ?_
    rcases hholds with ⟨entry, hentry, heq⟩ | hdiscard
    · exact hexpects id hid.1 (.inl ⟨entry, hentry, heq, hid.2⟩)
    · exact hexpects id hid.1 (.inr hdiscard)
  | submitDetached command => exact (hstep.acceptsUnder command net).mono hexpects
  | reap => exact hstep.reportsOnce net
  | take request => trivial
  | abandon request => trivial

instance (state : Recorded LoopbackQueue) (call : ChannelCall) (net : Loopback) : Decidable (Separate state call net) :=
  match call with
  | .submit request command =>
    inferInstanceAs (Decidable (request ∉ state.history.requests ∧
      state.AcceptsUnder (· ∉ state.channel.tracker.arrived) command net))
  | .submitDetached _ | .reap | .take _ | .abandon _ => .isTrue trivial

variable {controllerId : UInt16} {generation : Option Nat} {depth : UInt16} {state : Recorded LoopbackQueue}

lemma run_inStep {Allowed : Recorded LoopbackQueue → ChannelCall → Loopback → Prop}
    (run : Run Allowed (.idle controllerId generation depth) state) :
    InStep state.channel.queue state.history := by
  induction run with
  | start => exact ⟨rfl, List.nodup_nil, Nat.zero_le _, depth.toNat_lt⟩
  | call state call net _ _ ih => exact ih.after call net

lemma run_fresh_nodup (run : Run Fresh (.idle controllerId generation depth) state) :
    state.history.requests.Nodup := by
  induction run with
  | start => exact List.nodup_nil
  | call state call net _ fresh ih =>
    cases call with
    | submit request command =>
      rcases requests_after_submit state request command net with hsame | hmore
      · rwa [hsame]
      · rw [hmore, List.nodup_append_comm]
        exact List.nodup_cons.mpr ⟨fresh, ih⟩
    | submitDetached command => rwa [requests_after_detached]
    | reap => rwa [requests_after_reap]
    | take request => rwa [requests_after_take]
    | abandon request => rwa [requests_after_abandon]

lemma run_separate_agrees (run : Run Separate (.idle controllerId generation depth) state) :
    Agrees state.channel.tracker state.history := by
  induction run with
  | start => exact .empty
  | call state call net run separate ih =>
    exact agrees_after ih (admissible_of_separate (run_inStep run) ih separate)

/-- A request whose command has the id of a completion that is held back takes that completion along when it is given
up. -/
lemma not_faithful_of_shared (h : Agrees state.channel.tracker state.history) {request : RequestId}
    {command : Command} {net : Loopback} {id : CommandId} (hfresh : request ∉ state.history.requests)
    (haccepted : (state.channel.queue.submit command net).1 = .ok id) (hshared : id ∈ state.channel.tracker.arrived)
    (net' : Loopback) :
    let after := state.afterAll [(.submit request command, net), (.abandon request, net')]
    ¬ Faithful after.channel.tracker after.history := by
  obtain ⟨⟨queue, tracker⟩, history⟩ := state
  have hready : request ∉ tracker.ready := fun hmem =>
    hfresh (h.released_sent ((h.ready_iff request).mp hmem).1)
  have hother : ∀ entry ∈ tracker.inflight, (entry.request == request) = false := by
    intro entry hentry
    obtain ⟨own, hown, hof, -⟩ := h.inflight_sent entry hentry
    rw [beq_eq_false_iff_ne]
    exact fun heq => hfresh (heq ▸ History.mem_requests.mpr ⟨own, hown, hof⟩)
  have hfind : (tracker.inflight ++ [Inflight.mk request id]).find? (·.request == request) = some ⟨request, id⟩ := by
    rw [List.find?_append, List.find?_eq_none.mpr (fun entry hentry => by simp [hother entry hentry])]
    simp
  have herase : (tracker.inflight ++ [Inflight.mk request id]).eraseP (·.request == request) = tracker.inflight := by
    rw [List.eraseP_append_right _ (fun entry hentry => by simp [hother entry hentry])]
    simp
  have hgiven : (tracker.submitted request id).abandon request =
      (true, { tracker with arrived := tracker.arrived.erase id }) := by
    unfold Tracker.abandon Tracker.submitted
    rw [if_neg (by simpa using hready), hfind]
    simp only [herase, if_pos (show tracker.arrived.contains id from hshared)]
  intro after faithful
  have hafter : after.channel.tracker = { tracker with arrived := tracker.arrived.erase id } ∧
      after.history = (history.accept id (some request)).abandon request := by
    rcases hsubmit : queue.submit command net with ⟨_ | accepted, queue', net''⟩
    · simp only [hsubmit] at haccepted
      cases haccepted
    · simp only [hsubmit] at haccepted
      cases haccepted
      simp [after, afterAll, Recorded.after, Channel.submit, Channel.abandon, QueuePairs.submit, hsubmit, hgiven]
  rw [hafter.1, hafter.2] at faithful
  -- the request that the completion was held back for has completed, and has nothing left
  obtain ⟨entry, hentry, hid⟩ := h.arrived_inflight id hshared
  obtain ⟨own, hown, hof, -, hdone⟩ := h.inflight_sent entry hentry
  obtain ⟨hreleased, habandoned, htaken⟩ := h.waiting hentry
  obtain ⟨completion, harrived⟩ := Option.isSome_iff_exists.mp (Std.ExtTreeMap.mem_iff_isSome_getElem?.mp hshared)
  rw [hid, harrived] at hdone
  have habandoned' : entry.request ∉ history.abandoned ++ [request] := by
    rw [List.mem_append, List.mem_singleton, not_or]
    exact ⟨habandoned, beq_eq_false_iff_ne.mp (hother entry hentry)⟩
  rcases faithful.kept own (History.mem_sent_accept hown id _) entry.request completion hof hdone htaken habandoned'
    with hheld | ⟨other, hmem, hrequest, hheld⟩
  · have hmem : entry.request ∈ tracker.ready := by
      rw [Std.ExtTreeMap.mem_iff_isSome_getElem?]
      exact Option.isSome_iff_exists.mpr ⟨completion, hheld⟩
    exact hreleased ((h.ready_iff _).mp hmem).1
  · have hsame : other = entry :=
      List.inj_on_of_nodup_map (List.nodup_append'.mp h.order_nodup).2.1 hmem hentry hrequest
    rw [hsame, hid] at hheld
    simp at hheld

/-- Completions stay with their requests as long as no request's command gets the id of a completion that is held back,
and no longer: once one does, giving it up loses that completion. -/
theorem faithful_iff_separate (run : Run Separate (.idle controllerId generation depth) state) :
    Faithful state.channel.tracker state.history ∧
      ∀ request command (net : Loopback) id, request ∉ state.history.requests →
        (state.channel.queue.submit command net).1 = .ok id → ∀ net',
          let after := state.afterAll [(.submit request command, net), (.abandon request, net')]
          Faithful after.channel.tracker after.history ↔ id ∉ state.channel.tracker.arrived := by
  have hagrees := run_separate_agrees run
  refine ⟨hagrees.faithful, fun request command net id hfresh haccepted net' => ⟨fun faithful hshared => ?_, ?_⟩⟩
  · exact not_faithful_of_shared hagrees hfresh haccepted hshared net' faithful
  · intro hapart
    have hseparate : Separate state (.submit request command) net := by
      refine ⟨hfresh, ?_⟩
      unfold AcceptsUnder
      simp only [QueuePairs.submit, haccepted]
      exact hapart
    have run' : Run Separate (.idle controllerId generation depth)
        (state.afterAll [(.submit request command, net), (.abandon request, net')]) :=
      .call _ (.abandon request) net' (.call _ _ _ run hseparate) trivial
    exact (run_separate_agrees run').faithful

theorem overtaking_faithful : ∃ state : Recorded LoopbackQueue, Run Separate (.idle 1 none 4) state ∧
    state.history.delivered = [(11, { id := 1, status := .success }), (10, { id := 0, status := .success })] ∧
    Faithful state.channel.tracker state.history := by
  have run : Run Separate (.idle 1 none 4) (afterAll { channel := { queue := .idle 1 none 4 } } overtaking) :=
    Run.start.calls (by decide +kernel)
  exact ⟨_, run, by decide +kernel, (faithful_iff_separate run).1⟩

end Recorded

end FabricHost
