import FabricHost.Proofs.Queue.History
import Mathlib.Data.List.Nodup

/-!
# What a tracker knows of its history

`Agrees` ties the four collections of a tracker to the history of its channel: the commands waited for are the ones not
yet released, in order, each with its own report if that has come; a dropped completion is about a command in flight;
what can be taken is what was released and neither given up nor taken. Every operation of a tracker keeps this up, as
long as the queue pair gives no command the id of one that the tracker still holds.
-/

namespace FabricHost

/-- Whether the tracker waits for a command of this id, or will drop its completion. -/
def Tracker.Holds (tracker : Tracker) (id : CommandId) : Prop :=
  (∃ entry ∈ tracker.inflight, entry.id = id) ∨ id ∈ tracker.discard

/-- Whether the tracker takes a completion of this id for one that has not come yet. -/
def Tracker.Expects (tracker : Tracker) (id : CommandId) : Prop :=
  (∃ entry ∈ tracker.inflight, entry.id = id ∧ id ∉ tracker.arrived) ∨ id ∈ tracker.discard

instance (tracker : Tracker) (id : CommandId) : Decidable (tracker.Holds id) :=
  inferInstanceAs (Decidable (_ ∨ _))

lemma Tracker.Expects.holds {tracker : Tracker} {id : CommandId} (h : tracker.Expects id) : tracker.Holds id := by
  rcases h with ⟨entry, hentry, hid, -⟩ | hdiscard
  · exact .inl ⟨entry, hentry, hid⟩
  · exact .inr hdiscard

@[simp] lemma Sent.report_id (completion : Completion) (command : Sent) :
    (command.report completion).id = command.id := by
  unfold Sent.report
  split <;> rfl

@[simp] lemma Sent.report_request (completion : Completion) (command : Sent) :
    (command.report completion).request = command.request := by
  unfold Sent.report
  split <;> rfl

lemma Sent.report_of_ne {completion : Completion} {command : Sent} (h : command.id ≠ completion.id) :
    command.report completion = command := by
  unfold Sent.report
  rw [if_neg (fun about => h about.1)]

lemma Sent.report_of_reported {completion done : Completion} {command : Sent}
    (h : command.completion = some done) : command.report completion = command := by
  unfold Sent.report
  rw [if_neg (fun about => by simp [h] at about)]

lemma Sent.completion_report {completion : Completion} {command : Sent}
    (hid : command.id = completion.id) (hnone : command.completion = none) :
    (command.report completion).completion = some completion := by
  unfold Sent.report
  rw [if_pos ⟨hid, hnone⟩]

lemma History.requests_accept (history : History) (id : CommandId) (request : Option RequestId) :
    (history.accept id request).requests = history.requests ++ request.toList := by
  cases request <;> simp [History.requests, History.accept]

lemma History.inFlight_accept (history : History) (id : CommandId) (request : Option RequestId) :
    (history.accept id request).inFlight = history.inFlight ++ [⟨id, request, none⟩] := by
  simp [History.inFlight, History.accept]

lemma History.mem_sent_accept {history : History} {command : Sent} (h : command ∈ history.sent)
    (id : CommandId) (request : Option RequestId) : command ∈ (history.accept id request).sent :=
  List.mem_append_left _ h

lemma History.mem_inFlight {history : History} {command : Sent} :
    command ∈ history.inFlight ↔ command ∈ history.sent ∧ command.completion = none := by
  simp [History.inFlight]

/-- A report takes the commands of its id out of flight. -/
lemma History.inFlight_report (history : History) (completion : Completion) :
    (history.report completion).inFlight =
      history.inFlight.filter fun command => command.id ≠ completion.id := by
  simp only [History.inFlight, History.report]
  induction history.sent with
  | nil => rfl
  | cons command rest ih =>
    rw [List.map_cons, List.filter_cons, List.filter_cons, ih]
    cases hdone : command.completion with
    | some done =>
      rw [Sent.report_of_reported hdone]
      simp [hdone]
    | none =>
      by_cases hid : command.id = completion.id
      · simp [Sent.completion_report hid hdone, hid]
      · simp [Sent.report_of_ne hid, hdone, hid]

lemma History.mem_inFlight_report {history : History} {completion : Completion} {command : Sent} :
    command ∈ (history.report completion).inFlight ↔
      command ∈ history.inFlight ∧ command.id ≠ completion.id := by
  rw [History.inFlight_report, List.mem_filter, decide_eq_true_iff]

@[simp] lemma History.requests_report (history : History) (completion : Completion) :
    (history.report completion).requests = history.requests := by
  simp only [History.requests, History.report, List.filterMap_map]
  congr 1
  funext command
  exact Sent.report_request completion command

lemma History.mem_sent_report_of_reported {history : History} {completion done : Completion} {command : Sent}
    (hcommand : command ∈ history.sent) (hdone : command.completion = some done) :
    command ∈ (history.report completion).sent := by
  have hreport := List.mem_map_of_mem (f := Sent.report completion) hcommand
  rwa [Sent.report_of_reported hdone] at hreport

lemma History.mem_sent_report_of_ne {history : History} {completion : Completion} {command : Sent}
    (hcommand : command ∈ history.sent) (hne : command.id ≠ completion.id) :
    command ∈ (history.report completion).sent := by
  have hreport := List.mem_map_of_mem (f := Sent.report completion) hcommand
  rwa [Sent.report_of_ne hne] at hreport

lemma History.requests_foldl_report (completions : List Completion) (history : History) :
    (completions.foldl History.report history).requests = history.requests := by
  induction completions generalizing history with
  | nil => rfl
  | cons completion rest ih => rw [List.foldl_cons, ih, requests_report]

lemma History.mem_sent_foldl_report {history : History} {done : Completion} {command : Sent}
    (hcommand : command ∈ history.sent) (hdone : command.completion = some done) (completions : List Completion) :
    command ∈ (completions.foldl History.report history).sent := by
  induction completions generalizing history with
  | nil => exact hcommand
  | cons completion rest ih => exact ih (mem_sent_report_of_reported hcommand hdone)

lemma History.mem_requests {history : History} {request : RequestId} :
    request ∈ history.requests ↔ ∃ command ∈ history.sent, command.request = some request := by
  simp [History.requests]

lemma History.release_nil (history : History) : history.release [] = history := by
  simp [History.release]

lemma History.release_release (history : History) (first second : List RequestId) :
    (history.release first).release second = history.release (first ++ second) := by
  simp [History.release]

/-- No two commands of a history without repeated requests are for the same request. -/
lemma History.eq_of_request {history : History} (h : history.requests.Nodup) {i j : Nat} {a b : Sent}
    (ha : history.sent[i]? = some a) (hb : history.sent[j]? = some b) {request : RequestId}
    (hra : a.request = some request) (hrb : b.request = some request) : i = j := by
  unfold History.requests at h
  generalize history.sent = sent at h ha hb
  induction sent generalizing i j with
  | nil => simp at ha
  | cons first rest ih =>
    have hlast : ∀ (k : Nat) (c : Sent), rest[k]? = some c → first.request = some request →
        c.request = some request → False := by
      intro k c hc hfirst hcr
      rw [List.filterMap_cons, hfirst] at h
      exact (List.nodup_cons.mp h).1 (List.mem_filterMap.mpr ⟨c, List.mem_of_getElem? hc, hcr⟩)
    cases i with
    | zero =>
      cases j with
      | zero => rfl
      | succ j =>
        simp only [List.getElem?_cons_zero, Option.some.injEq, List.getElem?_cons_succ] at ha hb
        subst ha
        exact (hlast j b hb hra hrb).elim
    | succ i =>
      cases j with
      | zero =>
        simp only [List.getElem?_cons_zero, Option.some.injEq, List.getElem?_cons_succ] at ha hb
        subst hb
        exact (hlast i a ha hrb hra).elim
      | succ j =>
        simp only [List.getElem?_cons_succ] at ha hb
        have hrest : (rest.filterMap Sent.request).Nodup :=
          h.sublist (List.Sublist.filterMap _ (List.sublist_cons_self first rest))
        rw [ih hrest ha hb]

lemma History.eq_of_mem_of_request {history : History} (h : history.requests.Nodup) {a b : Sent}
    (ha : a ∈ history.sent) (hb : b ∈ history.sent) {request : RequestId}
    (hra : a.request = some request) (hrb : b.request = some request) : a = b := by
  obtain ⟨i, hi⟩ := List.mem_iff_getElem?.mp ha
  obtain ⟨j, hj⟩ := List.mem_iff_getElem?.mp hb
  have hij := History.eq_of_request h hi hj hra hrb
  subst hij
  exact Option.some.inj (hi.symm.trans hj)

namespace Recorded

variable {W Q : Type} [QueuePairs W Q]

lemma requests_after_submit (state : Recorded Q) (request : RequestId) (command : Command) (world : W) :
    (state.after (.submit request command) world).history.requests = state.history.requests ∨
      (state.after (.submit request command) world).history.requests = state.history.requests ++ [request] := by
  simp only [after]
  split
  · exact .inr (History.requests_accept _ _ _)
  · exact .inl rfl

lemma requests_after_detached (state : Recorded Q) (command : Command) (world : W) :
    (state.after (.submitDetached command) world).history.requests = state.history.requests := by
  simp only [after]
  split
  · rw [History.requests_accept, Option.toList_none, List.append_nil]
  · rfl

lemma requests_after_reap (state : Recorded Q) (world : W) :
    (state.after .reap world).history.requests = state.history.requests := by
  simp only [after]
  split
  · exact History.requests_foldl_report _ _
  · rfl

lemma requests_after_take (state : Recorded Q) (request : RequestId) (world : W) :
    (state.after (.take request) world).history.requests = state.history.requests := by
  simp only [after]
  split <;> rfl

lemma requests_after_abandon (state : Recorded Q) (request : RequestId) (world : W) :
    (state.after (.abandon request) world).history.requests = state.history.requests := by
  simp only [after]
  split <;> rfl

/-- What a queue pair has reported about a command stays. -/
lemma mem_sent_after {state : Recorded Q} {command : Sent} {done : Completion} (h : command ∈ state.history.sent)
    (hdone : command.completion = some done) (call : ChannelCall) (world : W) :
    command ∈ (state.after call world).history.sent := by
  cases call with
  | submit request other =>
    simp only [after]
    split
    · exact History.mem_sent_accept h _ _
    · exact h
  | submitDetached other =>
    simp only [after]
    split
    · exact History.mem_sent_accept h _ _
    · exact h
  | reap =>
    simp only [after]
    split
    · exact History.mem_sent_foldl_report h hdone _
    · exact h
  | take request =>
    simp only [after]
    split <;> exact h
  | abandon request =>
    simp only [after]
    split <;> exact h

lemma mem_delivered_after_take {state : Recorded Q} {request : RequestId} {completion : Completion}
    (h : (state.channel.take request).1 = some completion) (world : W) :
    (request, completion) ∈ (state.after (.take request) world).history.delivered := by
  simp only [after, h]
  exact List.mem_append_right _ (List.mem_singleton_self _)

end Recorded

/-- What a tracker holds agrees with what has happened on its channel. -/
structure Agrees (tracker : Tracker) (history : History) : Prop where
  requests_nodup : history.requests.Nodup
  /-- Requests become takeable in the order of submission, without those given up before. -/
  order : history.released ++ tracker.inflight.map Inflight.request =
    history.requests.filter fun request => request ∈ history.released ∨ request ∉ history.abandoned
  inflight_ids : (tracker.inflight.map Inflight.id).Nodup
  /-- A completion that is held back is that of the command waited for. -/
  inflight_sent : ∀ entry ∈ tracker.inflight, ∃ command ∈ history.sent, command.request = some entry.request ∧
    command.id = entry.id ∧ command.completion = tracker.arrived[entry.id]?
  arrived_inflight : ∀ id ∈ tracker.arrived, ∃ entry ∈ tracker.inflight, entry.id = id
  discard_apart : ∀ entry ∈ tracker.inflight, entry.id ∈ tracker.discard → entry.id ∈ tracker.arrived
  discard_sent : ∀ id ∈ tracker.discard, ∃ command ∈ history.inFlight, command.id = id
  /-- An id tells the commands in flight apart. -/
  inFlight_ids : (history.inFlight.map Sent.id).Nodup
  inFlight_held : ∀ command ∈ history.inFlight,
    (∃ entry ∈ tracker.inflight, command.request = some entry.request ∧ entry.id = command.id) ∨
      command.id ∈ tracker.discard
  ready_sent : ∀ request completion, tracker.ready[request]? = some completion →
    ∃ command ∈ history.sent, command.request = some request ∧ command.completion = some completion
  ready_iff : ∀ request, request ∈ tracker.ready ↔
    request ∈ history.released ∧ request ∉ history.abandoned ∧ request ∉ history.taken
  taken_released : ∀ request ∈ history.taken, request ∈ history.released ∧ request ∉ history.abandoned
  taken_nodup : history.taken.Nodup
  delivered_sent : ∀ request completion, (request, completion) ∈ history.delivered →
    ∃ command ∈ history.sent, command.request = some request ∧ command.completion = some completion
  abandoned_sent : ∀ request ∈ history.abandoned, request ∈ history.requests

namespace Agrees

lemma empty : Agrees {} {} where
  requests_nodup := List.nodup_nil
  order := rfl
  inflight_ids := List.nodup_nil
  inflight_sent := by simp
  arrived_inflight := by simp
  discard_apart := by simp
  discard_sent := by simp
  inFlight_ids := List.nodup_nil
  inFlight_held := by simp [History.inFlight]
  ready_sent := by simp
  ready_iff := by simp
  taken_released := by simp [History.taken]
  taken_nodup := List.nodup_nil
  delivered_sent := by simp
  abandoned_sent := by simp

section

variable {tracker : Tracker} {history : History} (h : Agrees tracker history)
include h

lemma order_nodup : (history.released ++ tracker.inflight.map Inflight.request).Nodup := by
  rw [h.order]
  exact h.requests_nodup.filter _

/-- A request waited for was not released, given up or taken. -/
lemma waiting {entry : Inflight} (hentry : entry ∈ tracker.inflight) :
    entry.request ∉ history.released ∧ entry.request ∉ history.abandoned ∧ entry.request ∉ history.taken := by
  have hmem : entry.request ∈ tracker.inflight.map Inflight.request := List.mem_map_of_mem hentry
  have hnew : entry.request ∉ history.released := fun hold =>
    (List.nodup_append'.mp h.order_nodup).2.2 hold hmem
  have hfilter : entry.request ∈ history.released ++ tracker.inflight.map Inflight.request :=
    List.mem_append_right _ hmem
  rw [h.order, List.mem_filter, decide_eq_true_iff] at hfilter
  exact ⟨hnew, hfilter.2.resolve_left hnew, fun htaken => hnew (h.taken_released _ htaken).1⟩

lemma arrived_holds {id : CommandId} (hid : id ∈ tracker.arrived) : tracker.Holds id :=
  .inl (h.arrived_inflight id hid)

lemma inFlight_expected {command : Sent} (hcommand : command ∈ history.inFlight) : tracker.Expects command.id := by
  rcases h.inFlight_held command hcommand with ⟨entry, hentry, hof, hid⟩ | hdiscard
  · refine .inl ⟨entry, hentry, hid, ?_⟩
    obtain ⟨hsent, hnone⟩ := History.mem_inFlight.mp hcommand
    obtain ⟨own, hown, hofOwn, -, hdone⟩ := h.inflight_sent entry hentry
    rw [← History.eq_of_mem_of_request h.requests_nodup hsent hown hof hofOwn, hnone, hid] at hdone
    rw [Std.ExtTreeMap.mem_iff_isSome_getElem?, ← hdone]
    exact Bool.false_ne_true
  · exact .inr hdiscard

lemma expected_inFlight {id : CommandId} (hid : tracker.Expects id) : ∃ command ∈ history.inFlight, command.id = id := by
  rcases hid with ⟨entry, hentry, hid, hnone⟩ | hdiscard
  · obtain ⟨command, hcommand, -, hcid, hdone⟩ := h.inflight_sent entry hentry
    rw [hid, Std.ExtTreeMap.getElem?_eq_none hnone] at hdone
    exact ⟨command, History.mem_inFlight.mpr ⟨hcommand, hdone⟩, hcid.trans hid⟩
  · exact h.discard_sent id hdiscard

/-- The id of a new command that is not expected tells it apart from those in flight. -/
lemma inFlight_ids_accept {id : CommandId} (hid : ¬ tracker.Expects id) (request : Option RequestId) :
    ((history.accept id request).inFlight.map Sent.id).Nodup := by
  rw [History.inFlight_accept, List.map_append, List.nodup_append_comm]
  refine List.nodup_cons.mpr ⟨fun hmem => ?_, h.inFlight_ids⟩
  obtain ⟨command, hcommand, heq⟩ := List.mem_map.mp hmem
  have hexpected := h.inFlight_expected hcommand
  rw [heq] at hexpected
  exact hid hexpected

lemma ready_sent_accept (id : CommandId) (for? : Option RequestId) (request : RequestId) (completion : Completion)
    (hready : tracker.ready[request]? = some completion) : ∃ command ∈ (history.accept id for?).sent,
      command.request = some request ∧ command.completion = some completion := by
  obtain ⟨command, hcommand, hrest⟩ := h.ready_sent request completion hready
  exact ⟨command, History.mem_sent_accept hcommand id for?, hrest⟩

lemma delivered_sent_accept (id : CommandId) (for? : Option RequestId) (request : RequestId) (completion : Completion)
    (hdelivered : (request, completion) ∈ history.delivered) : ∃ command ∈ (history.accept id for?).sent,
      command.request = some request ∧ command.completion = some completion := by
  obtain ⟨command, hcommand, hrest⟩ := h.delivered_sent request completion hdelivered
  exact ⟨command, History.mem_sent_accept hcommand id for?, hrest⟩

lemma inFlight_ids_report (completion : Completion) :
    ((history.report completion).inFlight.map Sent.id).Nodup := by
  rw [History.inFlight_report]
  exact h.inFlight_ids.sublist (List.filter_sublist.map _)

lemma ready_sent_report (completion : Completion) (request : RequestId) (done : Completion)
    (hready : tracker.ready[request]? = some done) : ∃ command ∈ (history.report completion).sent,
      command.request = some request ∧ command.completion = some done := by
  obtain ⟨command, hcommand, hrequest, hdone⟩ := h.ready_sent request done hready
  exact ⟨command, History.mem_sent_report_of_reported hcommand hdone, hrequest, hdone⟩

lemma delivered_sent_report (completion : Completion) (request : RequestId) (done : Completion)
    (hdelivered : (request, done) ∈ history.delivered) : ∃ command ∈ (history.report completion).sent,
      command.request = some request ∧ command.completion = some done := by
  obtain ⟨command, hcommand, hrequest, hdone⟩ := h.delivered_sent request done hdelivered
  exact ⟨command, History.mem_sent_report_of_reported hcommand hdone, hrequest, hdone⟩

/-- Where the completion of a request is that was submitted, and neither taken nor given up. -/
lemma tracked {request : RequestId} (hsent : request ∈ history.requests) (htaken : request ∉ history.taken)
    (habandoned : request ∉ history.abandoned) :
    request ∈ tracker.ready ∨ ∃ entry ∈ tracker.inflight, entry.request = request := by
  have hfilter : request ∈ history.requests.filter
      (fun request => request ∈ history.released ∨ request ∉ history.abandoned) := by
    rw [List.mem_filter, decide_eq_true_iff]
    exact ⟨hsent, .inr habandoned⟩
  rw [← h.order, List.mem_append, List.mem_map] at hfilter
  rcases hfilter with hreleased | hwaiting
  · exact .inl ((h.ready_iff request).mpr ⟨hreleased, habandoned, htaken⟩)
  · exact .inr hwaiting

end

end Agrees

end FabricHost
