import FabricHost.Proofs.Loopback.Delivery

/-!
# What holds completions back

A completion that has been reaped should be held back only for an earlier command that somebody still waits for. That is
so exactly while the front of the commands waited for has not completed. Every reap sees to it, and every call keeps it
up but one: when the oldest request is given up, nothing goes from the front until the next reap.
-/

namespace FabricHost

/-- The oldest command waited for has not completed, if there is one. -/
def Tracker.FrontAwaited (tracker : Tracker) : Prop := ∀ entry ∈ tracker.inflight.head?, entry.id ∉ tracker.arrived

namespace History

/-- The request's command has completed, and its completion was neither taken nor given up. -/
def Owes (history : History) (request : RequestId) (completion : Completion) : Prop :=
  (∃ command ∈ history.sent, command.request = some request ∧ command.completion = some completion) ∧
    request ∉ history.taken ∧ request ∉ history.abandoned

/-- The request's command has not completed, and the request was not given up. -/
def Awaits (history : History) (request : RequestId) : Prop :=
  (∃ command ∈ history.sent, command.request = some request ∧ command.completion = none) ∧ request ∉ history.abandoned

/-- The one request was submitted before the other. -/
def Before (history : History) (earlier later : RequestId) : Prop := [earlier, later].Sublist history.requests

end History

/-- What has completed can be taken, unless an earlier request is still awaited. -/
def Forthcoming (tracker : Tracker) (history : History) : Prop :=
  ∀ request completion, history.Owes request completion →
    (tracker.take request).1 = some completion ∨
      ∃ earlier, history.Before earlier request ∧ history.Awaits earlier

/-- Two entries of a list without repetitions stand in one order only. -/
lemma not_sublist_swap {α : Type} {a b : α} {l : List α} (hnodup : l.Nodup) (h : [a, b].Sublist l) :
    ¬ [b, a].Sublist l := by
  induction l with
  | nil => cases h
  | cons first rest ih =>
    intro h'
    obtain ⟨hfirst, hrest⟩ := List.nodup_cons.mp hnodup
    cases h with
    | cons _ h =>
      cases h' with
      | cons _ h' => exact ih hrest h h'
      | cons_cons _ _ => exact hfirst (h.subset (by simp))
    | cons_cons _ h =>
      cases h' with
      | cons _ h' => exact hfirst (h'.subset (by simp))
      | cons_cons _ _ => exact hfirst (h.subset (by simp))

namespace Agrees

variable {tracker : Tracker} {history : History} (h : Agrees tracker history)
include h

lemma owes_of_arrived {entry : Inflight} (hentry : entry ∈ tracker.inflight) {completion : Completion}
    (harrived : tracker.arrived[entry.id]? = some completion) : history.Owes entry.request completion := by
  obtain ⟨command, hcommand, hof, -, hdone⟩ := h.inflight_sent entry hentry
  obtain ⟨-, habandoned, htaken⟩ := h.waiting hentry
  exact ⟨⟨command, hcommand, hof, hdone.trans harrived⟩, htaken, habandoned⟩

lemma awaits_of_waiting {entry : Inflight} (hentry : entry ∈ tracker.inflight) (hnone : entry.id ∉ tracker.arrived) :
    history.Awaits entry.request := by
  obtain ⟨command, hcommand, hof, -, hdone⟩ := h.inflight_sent entry hentry
  exact ⟨⟨command, hcommand, hof, hdone.trans (Std.ExtTreeMap.getElem?_eq_none hnone)⟩, (h.waiting hentry).2.1⟩

/-- A request that is awaited is among those waited for, and nothing is held back for it. -/
lemma waiting_of_awaits {request : RequestId} (hawaits : history.Awaits request) :
    ∃ entry ∈ tracker.inflight, entry.request = request ∧ entry.id ∉ tracker.arrived := by
  obtain ⟨⟨command, hcommand, hof, hnone⟩, habandoned⟩ := hawaits
  have hincomplete : ∀ own ∈ history.sent, own.request = some request → own.completion = none := by
    intro own hown hofOwn
    rw [History.eq_of_mem_of_request h.requests_nodup hown hcommand hofOwn hof, hnone]
  have htaken : request ∉ history.taken := by
    intro hmem
    obtain ⟨⟨_, completion⟩, hdelivered, rfl⟩ := List.mem_map.mp hmem
    obtain ⟨own, hown, hofOwn, hdone⟩ := h.delivered_sent _ completion hdelivered
    rw [hincomplete own hown hofOwn] at hdone
    cases hdone
  rcases h.tracked (History.mem_requests.mpr ⟨command, hcommand, hof⟩) htaken habandoned with hready | ⟨entry, hentry, rfl⟩
  · obtain ⟨completion, hready⟩ := Option.isSome_iff_exists.mp (Std.ExtTreeMap.mem_iff_isSome_getElem?.mp hready)
    obtain ⟨own, hown, hofOwn, hdone⟩ := h.ready_sent request completion hready
    rw [hincomplete own hown hofOwn] at hdone
    cases hdone
  · obtain ⟨own, hown, hofOwn, -, hdone⟩ := h.inflight_sent entry hentry
    rw [hincomplete own hown hofOwn] at hdone
    refine ⟨entry, hentry, rfl, ?_⟩
    rw [Std.ExtTreeMap.mem_iff_isSome_getElem?, ← hdone]
    exact Bool.false_ne_true

/-- The front was submitted before whatever is waited for behind it. -/
lemma front_before {front entry : Inflight} {rest : List Inflight} (hsplit : tracker.inflight = front :: rest)
    (hentry : entry ∈ rest) : history.Before front.request entry.request := by
  have hwaiting : [front.request, entry.request].Sublist (tracker.inflight.map Inflight.request) := by
    rw [hsplit, List.map_cons]
    exact (List.singleton_sublist.mpr (List.mem_map_of_mem hentry)).cons_cons _
  have horder := hwaiting.trans (List.sublist_append_right history.released _)
  rw [h.order] at horder
  exact horder.trans List.filter_sublist

lemma forthcoming_of_frontAwaited (hfront : tracker.FrontAwaited) : Forthcoming tracker history := by
  rintro request completion ⟨⟨command, hcommand, hof, hdone⟩, htaken, habandoned⟩
  rcases h.faithful.kept command hcommand request completion hof hdone htaken habandoned
    with hready | ⟨entry, hentry, rfl, harrived⟩
  · exact .inl hready
  · right
    cases hsplit : tracker.inflight with
    | nil =>
      rw [hsplit] at hentry
      cases hentry
    | cons front rest =>
      have hnone : front.id ∉ tracker.arrived := hfront front (by rw [hsplit]; rfl)
      rw [hsplit] at hentry
      rcases List.mem_cons.mp hentry with rfl | hentry
      · rw [Std.ExtTreeMap.getElem?_eq_none hnone] at harrived
        cases harrived
      · exact ⟨front.request, h.front_before hsplit hentry, h.awaits_of_waiting (by simp [hsplit]) hnone⟩

lemma frontAwaited_of_forthcoming (forthcoming : Forthcoming tracker history) : tracker.FrontAwaited := by
  intro front hhead harrived
  obtain ⟨rest, hsplit⟩ := List.head?_eq_some_iff.mp hhead
  have hfront : front ∈ tracker.inflight := List.mem_of_mem_head? hhead
  obtain ⟨completion, hdone⟩ := Option.isSome_iff_exists.mp (Std.ExtTreeMap.mem_iff_isSome_getElem?.mp harrived)
  rcases forthcoming front.request completion (h.owes_of_arrived hfront hdone) with htake | ⟨earlier, hbefore, hawaits⟩
  · -- what is waited for cannot be taken yet
    have hready : front.request ∈ tracker.ready := by
      rw [Std.ExtTreeMap.mem_iff_isSome_getElem?]
      exact Option.isSome_iff_exists.mpr ⟨completion, htake⟩
    exact (h.waiting hfront).1 ((h.ready_iff _).mp hready).1
  · obtain ⟨entry, hentry, rfl, hnone⟩ := h.waiting_of_awaits hawaits
    rw [hsplit] at hentry
    rcases List.mem_cons.mp hentry with rfl | hentry
    · exact hnone harrived
    · exact not_sublist_swap h.requests_nodup hbefore (h.front_before hsplit hentry)

/-- Completions are forthcoming exactly while the front has not completed. -/
lemma forthcoming_iff : Forthcoming tracker history ↔ tracker.FrontAwaited :=
  ⟨h.frontAwaited_of_forthcoming, h.forthcoming_of_frontAwaited⟩

end Agrees

namespace Tracker

/-- Letting go of the front stops at a command that has not completed. -/
lemma releaseFront_head (inflight : List Inflight) (arrived : Std.ExtTreeMap CommandId Completion)
    (ready : Std.ExtTreeMap RequestId Completion) :
    ∀ entry ∈ (releaseFront inflight arrived ready).1.head?, entry.id ∉ (releaseFront inflight arrived ready).2.1 := by
  fun_induction releaseFront inflight arrived ready with
  | case1 arrived ready => simp
  | case2 front rest arrived ready hnone =>
    intro entry hentry
    cases hentry
    rw [Std.ExtTreeMap.mem_iff_isSome_getElem?, hnone]
    exact Bool.false_ne_true
  | case3 front rest arrived ready completion harrived ih => exact ih

lemma frontAwaited_absorb (tracker : Tracker) (completions : List Completion) :
    (tracker.absorb completions).FrontAwaited := releaseFront_head _ _ _

/-- Giving up a request that is not the oldest leaves the front as it is. -/
lemma FrontAwaited.abandon {tracker : Tracker} (hfront : tracker.FrontAwaited) {request : RequestId}
    (hother : tracker.inflight.head?.map Inflight.request ≠ some request) : (tracker.abandon request).2.FrontAwaited := by
  have hhead : (tracker.inflight.eraseP (·.request == request)).head? = tracker.inflight.head? := by
    cases hsplit : tracker.inflight with
    | nil => rfl
    | cons front rest =>
      rw [hsplit] at hother
      rw [List.eraseP_cons_of_neg]
      · rfl
      · simpa using hother
  unfold Tracker.abandon
  split
  · exact hfront
  · split
    · exact hfront
    · simp only
      split
      · intro entry hentry hmem
        rw [hhead] at hentry
        exact hfront entry hentry (Std.ExtTreeMap.mem_of_mem_erase hmem)
      · intro entry hentry
        rw [hhead] at hentry
        exact hfront entry hentry

end Tracker

namespace Recorded

variable {W Q : Type} [QueuePairs W Q] {state : Recorded Q}

/-- The call gives up the oldest of the requests waited for. -/
def GivesUpOldest (state : Recorded Q) (call : ChannelCall) : Prop :=
  ∃ request, call = .abandon request ∧ state.channel.tracker.inflight.head?.map Inflight.request = some request

/-- Any call but one that gives up the oldest request leaves a front that has not completed. -/
lemma frontAwaited_after (h : Agrees state.channel.tracker state.history)
    (hfront : state.channel.tracker.FrontAwaited) {call : ChannelCall} (hother : ¬ state.GivesUpOldest call) (world : W) :
    (state.after call world).channel.tracker.FrontAwaited := by
  cases call with
  | submit request command =>
    rcases hsubmit : QueuePairs.submit state.channel.queue command world with ⟨_ | id, queue, world'⟩
    · simpa only [after, Channel.submit, hsubmit] using hfront
    · simp only [after, Channel.submit, hsubmit]
      intro entry hentry harrived
      -- a new command is the front only if nothing else is waited for, and then nothing is held back
      cases hsplit : state.channel.tracker.inflight with
      | nil =>
        obtain ⟨other, hmem, -⟩ := h.arrived_inflight entry.id harrived
        rw [hsplit] at hmem
        cases hmem
      | cons front rest =>
        simp only [Tracker.submitted, hsplit, List.cons_append, List.head?_cons] at hentry
        exact hfront entry (by rw [hsplit]; exact hentry) harrived
  | submitDetached command =>
    rcases hsubmit : QueuePairs.submit state.channel.queue command world with ⟨_ | id, queue, world'⟩
    · simpa only [after, Channel.submitDetached, hsubmit] using hfront
    · simp only [after, Channel.submitDetached, hsubmit]
      exact hfront
  | reap =>
    rcases hprocess : QueuePairs.process state.channel.queue 0 world with ⟨_ | completions, queue, world'⟩
    · simpa only [after, Channel.reap, hprocess] using hfront
    · simpa only [after, Channel.reap, hprocess] using state.channel.tracker.frontAwaited_absorb completions
  | take request => exact hfront
  | abandon request => exact hfront.abandon fun hoffront => hother ⟨request, rfl, hoffront⟩

/-- A reap that does not fail leaves a front that has not completed. -/
lemma frontAwaited_reap {world : W} {completions : List Completion}
    (hprocess : (QueuePairs.process state.channel.queue 0 world).1 = .ok completions) :
    (state.after .reap world).channel.tracker.FrontAwaited := by
  rcases hall : QueuePairs.process state.channel.queue 0 world with ⟨_ | completions', queue, world'⟩
  · rw [hall] at hprocess
    cases hprocess
  · simpa only [after, Channel.reap, hall] using state.channel.tracker.frontAwaited_absorb completions'

/-- After any calls, what has completed can be taken unless an earlier request is still awaited, exactly if the oldest
command waited for has not completed. That is so after every reap that does not fail, and every other call keeps it up
unless it gives up the oldest request. -/
theorem forthcoming_iff_frontAwaited {queue : Q} (run : Run (W := W) Promised queue state) :
    (Forthcoming state.channel.tracker state.history ↔ state.channel.tracker.FrontAwaited) ∧
    (∀ (world : W) completions, (QueuePairs.process state.channel.queue 0 world).1 = .ok completions →
      Promised state .reap world →
      Forthcoming (state.after .reap world).channel.tracker (state.after .reap world).history) ∧
    ∀ call (world : W), Promised state call world → ¬ state.GivesUpOldest call →
      Forthcoming state.channel.tracker state.history →
        Forthcoming (state.after call world).channel.tracker (state.after call world).history := by
  have hagrees := run_agrees (run.mono fun _ _ _ _ promised => promised.admissible)
  refine ⟨hagrees.forthcoming_iff, fun world completions hprocess promised => ?_,
    fun call world promised hother forthcoming => ?_⟩
  · exact (agrees_after hagrees promised.admissible).forthcoming_of_frontAwaited (frontAwaited_reap hprocess)
  · have hfront := frontAwaited_after hagrees (hagrees.frontAwaited_of_forthcoming forthcoming) hother world
    exact (agrees_after hagrees promised.admissible).forthcoming_of_frontAwaited hfront

/-- A second request completes ahead of the first, which is given up after that. -/
def passing : List (ChannelCall × Loopback) :=
  [(.submit 10 .keepAlive, .attached 1), (.submit 11 .keepAlive, .attached 0), (.reap, .attached 0),
    (.abandon 10, .attached 0)]

/-- The next reap after the oldest request was given up makes the completion behind it takeable. -/
theorem passing_forthcoming : ∃ state : Recorded LoopbackQueue,
    Run (W := Loopback) Promised (.idle 1 none 4) state ∧
      Promised state .reap (Loopback.attached 0) ∧
      let after := state.after .reap (Loopback.attached 0)
      (after.channel.tracker.take 11).1 = some { id := 1, status := .success } ∧
        Forthcoming after.channel.tracker after.history := by
  have run : Run (W := Loopback) Promised (LoopbackQueue.idle 1 none 4)
      (afterAll { channel := { queue := .idle 1 none 4 } } passing) := Run.start.calls (by decide +kernel)
  have hpromised : Promised (afterAll { channel := { queue := LoopbackQueue.idle 1 none 4 } } passing) .reap
      (Loopback.attached 0) := by decide +kernel
  have hprocess : (QueuePairs.process (afterAll { channel := { queue := LoopbackQueue.idle 1 none 4 } } passing).channel.queue
      0 (Loopback.attached 0)).1 = .ok [{ id := 0, status := .success }] := by decide +kernel
  exact ⟨_, run, hpromised, by decide +kernel, (forthcoming_iff_frontAwaited run).2.1 _ _ hprocess hpromised⟩

/-- The request behind the one that was given up has completed and no earlier one is awaited, and it cannot be taken. -/
theorem passing_held_back : ∃ state : Recorded LoopbackQueue,
    Run (W := Loopback) Promised (.idle 1 none 4) state ∧
      state.history.Owes 11 { id := 1, status := .success } ∧ (∀ earlier, ¬ state.history.Awaits earlier) ∧
      (state.channel.tracker.take 11).1 = none := by
  have run : Run (W := Loopback) Promised (LoopbackQueue.idle 1 none 4)
      (afterAll { channel := { queue := .idle 1 none 4 } } passing) := Run.start.calls (by decide +kernel)
  have hsent : (afterAll { channel := { queue := LoopbackQueue.idle 1 none 4 } } passing).history.sent =
      [⟨0, some 10, none⟩, ⟨1, some 11, some { id := 1, status := .success }⟩] := by decide +kernel
  have habandoned : (afterAll { channel := { queue := LoopbackQueue.idle 1 none 4 } } passing).history.abandoned =
      [10] := by decide +kernel
  refine ⟨_, run, ⟨?_, by decide +kernel, by decide +kernel⟩, ?_, by decide +kernel⟩
  · rw [hsent]
    exact ⟨_, List.mem_cons_of_mem _ (List.mem_singleton_self _), rfl, rfl⟩
  · rintro earlier ⟨⟨command, hcommand, hof, hnone⟩, hkept⟩
    rw [hsent] at hcommand
    rw [habandoned] at hkept
    simp only [List.mem_cons, List.not_mem_nil, or_false] at hcommand hkept
    rcases hcommand with rfl | rfl
    · exact hkept (Option.some.inj hof).symm
    · cases hnone

end Recorded

end FabricHost
