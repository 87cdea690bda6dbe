import FabricHost.Proofs.Queue.Agreement

/-!
# Tracker operations keep the agreement

One lemma for each thing that a tracker does: it notes a command, sorts a completion, lets the front go, hands a
completion out, or stops waiting for a request. A reap is the sorting of each completion followed by letting go.
-/

namespace FabricHost

namespace Agrees

section

variable {tracker : Tracker} {history : History} (h : Agrees tracker history)
include h

lemma submitted {request : RequestId} {id : CommandId} (hfresh : request ∉ history.requests)
    (hid : ¬ tracker.Holds id) :
    Agrees (tracker.submitted request id) (history.accept id (some request)) where
  requests_nodup := by
    rw [History.requests_accept, List.nodup_append_comm]
    exact List.nodup_cons.mpr ⟨hfresh, h.requests_nodup⟩
  order := by
    have habandoned : request ∉ history.abandoned := fun hmem => hfresh (h.abandoned_sent _ hmem)
    rw [History.requests_accept, List.filter_append]
    simp only [Tracker.submitted, History.accept, List.map_append, ← List.append_assoc]
    rw [h.order]
    congr 1
    simp [habandoned]
  inflight_ids := by
    simp only [Tracker.submitted, List.map_append, List.map_cons, List.map_nil]
    rw [List.nodup_append_comm]
    refine List.nodup_cons.mpr ⟨fun hmem => ?_, h.inflight_ids⟩
    obtain ⟨entry, hentry, heq⟩ := List.mem_map.mp hmem
    exact hid (.inl ⟨entry, hentry, heq⟩)
  inflight_sent := by
    intro entry hentry
    rcases List.mem_append.mp hentry with hold | hnew
    · obtain ⟨command, hcommand, hrest⟩ := h.inflight_sent entry hold
      exact ⟨command, History.mem_sent_accept hcommand id _, hrest⟩
    · rw [List.mem_singleton] at hnew
      subst hnew
      have hnone : tracker.arrived[id]? = none := Std.ExtTreeMap.getElem?_eq_none
        fun harrived => hid (h.arrived_holds harrived)
      exact ⟨⟨id, some request, none⟩, List.mem_append_right _ (List.mem_singleton_self _), rfl, rfl, hnone.symm⟩
  arrived_inflight := by
    intro other hother
    obtain ⟨entry, hentry, heq⟩ := h.arrived_inflight other hother
    exact ⟨entry, List.mem_append_left _ hentry, heq⟩
  discard_apart := by
    intro entry hentry
    rcases List.mem_append.mp hentry with hold | hnew
    · exact h.discard_apart entry hold
    · rw [List.mem_singleton] at hnew
      subst hnew
      exact fun hmem => (hid (.inr hmem)).elim
  discard_sent := by
    intro other hother
    obtain ⟨command, hcommand, heq⟩ := h.discard_sent other hother
    rw [History.inFlight_accept]
    exact ⟨command, List.mem_append_left _ hcommand, heq⟩
  inFlight_ids := h.inFlight_ids_accept (fun hexpects => hid hexpects.holds) _
  inFlight_held := by
    intro command hcommand
    rw [History.inFlight_accept] at hcommand
    rcases List.mem_append.mp hcommand with hold | hnew
    · rcases h.inFlight_held command hold with ⟨entry, hentry, hrest⟩ | hdiscard
      · exact .inl ⟨entry, List.mem_append_left _ hentry, hrest⟩
      · exact .inr hdiscard
    · rw [List.mem_singleton] at hnew
      subst hnew
      exact .inl ⟨⟨request, id⟩, List.mem_append_right _ (List.mem_singleton_self _), rfl, rfl⟩
  ready_sent := h.ready_sent_accept id _
  ready_iff := h.ready_iff
  taken_released := h.taken_released
  taken_nodup := h.taken_nodup
  delivered_sent := h.delivered_sent_accept id _
  abandoned_sent := by
    intro other hother
    rw [History.requests_accept]
    exact List.mem_append_left _ (h.abandoned_sent other hother)

lemma detached {id : CommandId} (hid : ¬ tracker.Expects id) :
    Agrees (tracker.detached id) (history.accept id none) := by
  have hreq : (history.accept id none).requests = history.requests := by
    simp [History.requests_accept]
  exact {
    requests_nodup := hreq ▸ h.requests_nodup
    order := hreq ▸ h.order
    inflight_ids := h.inflight_ids
    inflight_sent := by
      intro entry hentry
      obtain ⟨command, hcommand, hrest⟩ := h.inflight_sent entry hentry
      exact ⟨command, History.mem_sent_accept hcommand id _, hrest⟩
    arrived_inflight := h.arrived_inflight
    discard_apart := by
      intro entry hentry hmem
      simp only [Tracker.detached, Std.ExtTreeSet.mem_insert, Std.compare_eq_iff_eq] at hmem
      rcases hmem with heq | hold
      · by_contra hnone
        exact hid (.inl ⟨entry, hentry, heq.symm, heq ▸ hnone⟩)
      · exact h.discard_apart entry hentry hold
    discard_sent := by
      intro other hother
      simp only [Tracker.detached, Std.ExtTreeSet.mem_insert, Std.compare_eq_iff_eq] at hother
      rw [History.inFlight_accept]
      rcases hother with heq | hold
      · exact ⟨_, List.mem_append_right _ (List.mem_singleton_self _), heq⟩
      · obtain ⟨command, hcommand, heq⟩ := h.discard_sent other hold
        exact ⟨command, List.mem_append_left _ hcommand, heq⟩
    inFlight_ids := h.inFlight_ids_accept hid _
    inFlight_held := by
      intro command hcommand
      simp only [Tracker.detached, Std.ExtTreeSet.mem_insert, Std.compare_eq_iff_eq]
      rw [History.inFlight_accept] at hcommand
      rcases List.mem_append.mp hcommand with hold | hnew
      · exact (h.inFlight_held command hold).imp_right .inr
      · rw [List.mem_singleton] at hnew
        subst hnew
        exact .inr (.inl rfl)
    ready_sent := h.ready_sent_accept id _
    ready_iff := h.ready_iff
    taken_released := h.taken_released
    taken_nodup := h.taken_nodup
    delivered_sent := h.delivered_sent_accept id _
    abandoned_sent := fun other hother => hreq ▸ h.abandoned_sent other hother }

/-- A completion that is dropped, because nobody waits for its command. -/
lemma arrive_discarded {completion : Completion} (hdiscard : completion.id ∈ tracker.discard) :
    Agrees { tracker with discard := tracker.discard.erase completion.id } (history.report completion) where
  requests_nodup := by
    rw [History.requests_report]
    exact h.requests_nodup
  order := by
    rw [History.requests_report]
    exact h.order
  inflight_ids := h.inflight_ids
  inflight_sent := by
    intro entry hentry
    obtain ⟨command, hcommand, hrequest, hid, hdone⟩ := h.inflight_sent entry hentry
    refine ⟨command, ?_, hrequest, hid, hdone⟩
    by_cases heq : command.id = completion.id
    · -- the one waited for has been reported already, so the report is about the dropped one
      rw [← heq, hid] at hdiscard
      have harrived := h.discard_apart entry hentry hdiscard
      rw [Std.ExtTreeMap.mem_iff_isSome_getElem?, ← hdone, Option.isSome_iff_exists] at harrived
      obtain ⟨done, hreported⟩ := harrived
      exact History.mem_sent_report_of_reported hcommand hreported
    · exact History.mem_sent_report_of_ne hcommand heq
  arrived_inflight := h.arrived_inflight
  discard_apart := by
    intro entry hentry hmem
    exact h.discard_apart entry hentry (Std.ExtTreeSet.mem_of_mem_erase hmem)
  discard_sent := by
    intro id hid
    simp only [Std.ExtTreeSet.mem_erase, ne_eq, Std.compare_eq_iff_eq] at hid
    obtain ⟨command, hcommand, heq⟩ := h.discard_sent id hid.2
    exact ⟨command, History.mem_inFlight_report.mpr ⟨hcommand, fun hc => hid.1 (hc.symm.trans heq)⟩, heq⟩
  inFlight_ids := h.inFlight_ids_report completion
  inFlight_held := by
    intro command hcommand
    rw [History.mem_inFlight_report] at hcommand
    refine (h.inFlight_held command hcommand.1).imp_right fun hmem => ?_
    simp only [Std.ExtTreeSet.mem_erase, ne_eq, Std.compare_eq_iff_eq]
    exact ⟨fun heq => hcommand.2 heq.symm, hmem⟩
  ready_sent := h.ready_sent_report completion
  ready_iff := h.ready_iff
  taken_released := h.taken_released
  taken_nodup := h.taken_nodup
  delivered_sent := h.delivered_sent_report completion
  abandoned_sent := by
    rw [History.requests_report]
    exact h.abandoned_sent

/-- A completion that is held back, because its command is waited for. -/
lemma arrive_waited {completion : Completion} (hdiscard : completion.id ∉ tracker.discard)
    {about : Sent} (hflight : about ∈ history.inFlight) (habout : about.id = completion.id)
    {waiting : Inflight} (hwaiting : waiting ∈ tracker.inflight) (hrequest : about.request = some waiting.request)
    (hid : waiting.id = about.id) :
    Agrees { tracker with arrived := tracker.arrived.insert completion.id completion }
      (history.report completion) where
  requests_nodup := by
    rw [History.requests_report]
    exact h.requests_nodup
  order := by
    rw [History.requests_report]
    exact h.order
  inflight_ids := h.inflight_ids
  inflight_sent := by
    intro entry hentry
    obtain ⟨command, hcommand, hof, hcid, hdone⟩ := h.inflight_sent entry hentry
    by_cases heq : entry.id = completion.id
    · have hentryWaiting : entry = waiting :=
        List.inj_on_of_nodup_map h.inflight_ids hentry hwaiting (by rw [heq, hid, habout])
      obtain ⟨habout', hnone⟩ := History.mem_inFlight.mp hflight
      have hcommandAbout : command = about := by
        rw [hentryWaiting] at hof
        exact History.eq_of_mem_of_request h.requests_nodup hcommand habout' hof hrequest
      refine ⟨command.report completion, List.mem_map_of_mem hcommand, ?_, ?_, ?_⟩
      · rw [Sent.report_request, hof]
      · rw [Sent.report_id, hcid]
      · rw [Sent.completion_report (hcid.trans heq) (hcommandAbout ▸ hnone), heq,
          Std.ExtTreeMap.getElem?_insert_self]
    · refine ⟨command, History.mem_sent_report_of_ne hcommand (fun hc => heq (hcid.symm.trans hc)), hof, hcid, ?_⟩
      rw [hdone, Std.ExtTreeMap.getElem?_insert, if_neg]
      rw [Std.compare_eq_iff_eq]
      exact fun hc => heq hc.symm
  arrived_inflight := by
    intro id hmem
    simp only [Std.ExtTreeMap.mem_insert, Std.compare_eq_iff_eq] at hmem
    rcases hmem with heq | hold
    · exact ⟨waiting, hwaiting, by rw [hid, habout, heq]⟩
    · exact h.arrived_inflight id hold
  discard_apart := fun entry hentry hmem => Std.ExtTreeMap.mem_insert.mpr (.inr (h.discard_apart entry hentry hmem))
  discard_sent := by
    intro id hmem
    obtain ⟨command, hcommand, heq⟩ := h.discard_sent id hmem
    refine ⟨command, History.mem_inFlight_report.mpr ⟨hcommand, fun hc => hdiscard ?_⟩, heq⟩
    rwa [← hc, heq]
  inFlight_ids := h.inFlight_ids_report completion
  inFlight_held := by
    intro command hcommand
    rw [History.mem_inFlight_report] at hcommand
    exact h.inFlight_held command hcommand.1
  ready_sent := h.ready_sent_report completion
  ready_iff := h.ready_iff
  taken_released := h.taken_released
  taken_nodup := h.taken_nodup
  delivered_sent := h.delivered_sent_report completion
  abandoned_sent := by
    rw [History.requests_report]
    exact h.abandoned_sent

/-- A completion of an id that no command was accepted under. -/
lemma arrive_stray {completion : Completion} (hstray : ∀ command ∈ history.sent, command.id ≠ completion.id) :
    tracker.arrive completion = tracker ∧ history.report completion = history := by
  have hdiscard : completion.id ∉ tracker.discard := by
    intro hmem
    obtain ⟨command, hcommand, heq⟩ := h.discard_sent _ hmem
    exact hstray command (History.mem_inFlight.mp hcommand).1 heq
  have hany : ¬ tracker.inflight.any (·.id == completion.id) = true := by
    intro hmem
    obtain ⟨entry, hentry, heq⟩ := List.any_eq_true.mp hmem
    obtain ⟨command, hcommand, -, hid, -⟩ := h.inflight_sent entry hentry
    exact hstray command hcommand (hid.trans (beq_iff_eq.mp heq))
  constructor
  · unfold Tracker.arrive
    rw [if_neg hdiscard, if_neg hany]
  · have hsame : history.sent.map (Sent.report completion) = history.sent :=
      List.map_congr_left (fun command hcommand => Sent.report_of_ne (hstray command hcommand)) |>.trans
        (List.map_id _)
    unfold History.report
    rw [hsame]

/-- A completion of a command in flight. -/
lemma arrive_about {completion : Completion} (habout : ∃ command ∈ history.inFlight, command.id = completion.id) :
    Agrees (tracker.arrive completion) (history.report completion) := by
  obtain ⟨about, hflight, habout⟩ := habout
  unfold Tracker.arrive
  by_cases hdiscard : completion.id ∈ tracker.discard
  · rw [if_pos hdiscard]
    exact h.arrive_discarded hdiscard
  · obtain ⟨waiting, hwaiting, hrequest, hid⟩ :=
      (h.inFlight_held about hflight).resolve_right (habout ▸ hdiscard)
    have hany : tracker.inflight.any (·.id == completion.id) = true := by
      rw [List.any_eq_true]
      exact ⟨waiting, hwaiting, by simp [hid, habout]⟩
    rw [if_neg hdiscard, if_pos hany]
    exact h.arrive_waited hdiscard hflight habout hwaiting hrequest hid

lemma take_ready {request : RequestId} {completion : Completion}
    (hready : tracker.ready[request]? = some completion) :
    Agrees { tracker with ready := tracker.ready.erase request } (history.deliver request completion) := by
  have hmem : request ∈ tracker.ready := by
    rw [Std.ExtTreeMap.mem_iff_isSome_getElem?, hready]
    rfl
  obtain ⟨hreleased, habandoned, htaken⟩ := (h.ready_iff request).mp hmem
  have htaken' : (history.deliver request completion).taken = history.taken ++ [request] := by
    simp [History.taken, History.deliver]
  exact {
    requests_nodup := h.requests_nodup
    order := h.order
    inflight_ids := h.inflight_ids
    inflight_sent := h.inflight_sent
    arrived_inflight := h.arrived_inflight
    discard_apart := h.discard_apart
    discard_sent := h.discard_sent
    inFlight_ids := h.inFlight_ids
    inFlight_held := h.inFlight_held
    ready_sent := by
      intro other done hother
      rw [Std.ExtTreeMap.getElem?_erase] at hother
      split at hother
      · cases hother
      · exact h.ready_sent other done hother
    ready_iff := by
      intro other
      simp only [Std.ExtTreeMap.mem_erase, ne_eq, Std.compare_eq_iff_eq, h.ready_iff other, htaken',
        List.mem_append, List.mem_singleton, not_or]
      constructor
      · rintro ⟨hne, hrest⟩
        exact ⟨hrest.1, hrest.2.1, hrest.2.2, fun heq => hne heq.symm⟩
      · rintro ⟨hrel, hab, htak, hne⟩
        exact ⟨fun heq => hne heq.symm, hrel, hab, htak⟩
    taken_released := by
      intro other hother
      rw [htaken', List.mem_append, List.mem_singleton] at hother
      rcases hother with hold | heq
      · exact h.taken_released other hold
      · rw [heq]
        exact ⟨hreleased, habandoned⟩
    taken_nodup := by
      rw [htaken', List.nodup_append_comm]
      exact List.nodup_cons.mpr ⟨htaken, h.taken_nodup⟩
    delivered_sent := by
      intro other done hother
      rcases List.mem_append.mp hother with hold | hnew
      · exact h.delivered_sent other done hold
      · rw [List.mem_singleton, Prod.mk.injEq] at hnew
        obtain ⟨rfl, rfl⟩ := hnew
        exact h.ready_sent other done hready
    abandoned_sent := h.abandoned_sent }

/-- Giving up a request whose completion could have been taken. -/
lemma abandon_ready {request : RequestId} (hready : request ∈ tracker.ready) :
    Agrees { tracker with ready := tracker.ready.erase request } (history.abandon request) := by
  obtain ⟨hreleased, habandoned, htaken⟩ := (h.ready_iff request).mp hready
  have hrequest : request ∈ history.requests := by
    have hmem := List.mem_append_left (tracker.inflight.map Inflight.request) hreleased
    rw [h.order] at hmem
    exact (List.mem_filter.mp hmem).1
  exact {
    requests_nodup := h.requests_nodup
    order := by
      refine h.order.trans (List.filter_congr fun other _ => ?_)
      by_cases heq : other = request
      · simp [History.abandon, heq, hreleased]
      · simp [History.abandon, heq]
    inflight_ids := h.inflight_ids
    inflight_sent := h.inflight_sent
    arrived_inflight := h.arrived_inflight
    discard_apart := h.discard_apart
    discard_sent := h.discard_sent
    inFlight_ids := h.inFlight_ids
    inFlight_held := h.inFlight_held
    ready_sent := by
      intro other done hother
      rw [Std.ExtTreeMap.getElem?_erase] at hother
      split at hother
      · cases hother
      · exact h.ready_sent other done hother
    ready_iff := by
      intro other
      simp only [Std.ExtTreeMap.mem_erase, ne_eq, Std.compare_eq_iff_eq, h.ready_iff other, History.abandon,
        List.mem_append, List.mem_singleton, not_or]
      constructor
      · rintro ⟨hne, hrel, hab, htak⟩
        exact ⟨hrel, ⟨hab, fun heq => hne heq.symm⟩, htak⟩
      · rintro ⟨hrel, ⟨hab, hne⟩, htak⟩
        exact ⟨fun heq => hne heq.symm, hrel, hab, htak⟩
    taken_released := by
      intro other hother
      obtain ⟨hrel, hab⟩ := h.taken_released other hother
      refine ⟨hrel, fun hmem => ?_⟩
      rcases List.mem_append.mp hmem with hold | hnew
      · exact hab hold
      · rw [List.mem_singleton] at hnew
        exact htaken (hnew ▸ hother)
    taken_nodup := h.taken_nodup
    delivered_sent := h.delivered_sent
    abandoned_sent := by
      intro other hother
      rcases List.mem_append.mp hother with hold | hnew
      · exact h.abandoned_sent other hold
      · rw [List.mem_singleton] at hnew
        exact hnew ▸ hrequest }

section

variable {before behind : List Inflight} {entry : Inflight}
  (hsplit : tracker.inflight = before ++ entry :: behind)
include hsplit

lemma mem_around {other : Inflight} :
    other ∈ before ++ behind ↔ other ∈ tracker.inflight ∧ other.id ≠ entry.id := by
  have hids := h.inflight_ids
  rw [hsplit, List.map_append, List.map_cons, List.nodup_middle, ← List.map_append] at hids
  have hnew := (List.nodup_cons.mp hids).1
  rw [hsplit]
  constructor
  · intro hmem
    refine ⟨?_, fun heq => hnew (heq ▸ List.mem_map_of_mem hmem)⟩
    simp only [List.mem_append, List.mem_cons] at hmem ⊢
    exact hmem.imp_right .inr
  · rintro ⟨hmem, hne⟩
    simp only [List.mem_append, List.mem_cons] at hmem ⊢
    rcases hmem with hbefore | heq | hbehind
    · exact .inl hbefore
    · exact (hne (heq ▸ rfl)).elim
    · exact .inr hbehind

lemma waiting_split :
    entry.request ∉ history.released ∧ entry.request ∉ history.abandoned ∧ entry.request ∉ history.taken := by
  refine h.waiting ?_
  rw [hsplit]
  exact List.mem_append_right _ List.mem_cons_self

lemma order_without :
    history.released ++ (before ++ behind).map Inflight.request = history.requests.filter fun request =>
      request ∈ history.released ∨ request ∉ history.abandoned ++ [entry.request] := by
  have hnodup := h.order_nodup
  have horder := h.order
  obtain ⟨hreleased, -, -⟩ := h.waiting_split hsplit
  rw [hsplit, List.map_append, List.map_cons, ← List.append_assoc] at hnodup horder
  have hnew := (List.nodup_cons.mp (List.nodup_middle.mp hnodup)).1
  calc history.released ++ (before ++ behind).map Inflight.request
    _ = (history.released ++ before.map Inflight.request) ++ behind.map Inflight.request := by
      rw [List.map_append, List.append_assoc]
    _ = ((history.released ++ before.map Inflight.request) ++
          entry.request :: behind.map Inflight.request).filter (· ≠ entry.request) := by
      rw [List.filter_append, List.filter_cons_of_neg (by simp), ← List.filter_append, List.filter_eq_self.mpr]
      intro request hrequest
      rw [decide_eq_true_iff]
      exact fun heq => hnew (heq ▸ hrequest)
    _ = _ := by
      rw [horder, List.filter_filter]
      apply List.filter_congr
      intro request _
      by_cases heq : request = entry.request
      · simp [heq, hreleased]
      · simp [heq]

lemma inflight_ids_without : ((before ++ behind).map Inflight.id).Nodup := by
  have hids := h.inflight_ids
  rw [hsplit, List.map_append, List.map_cons, List.nodup_middle, ← List.map_append] at hids
  exact (List.nodup_cons.mp hids).2

lemma ready_iff_abandon (request : RequestId) : request ∈ tracker.ready ↔
    request ∈ history.released ∧ request ∉ history.abandoned ++ [entry.request] ∧ request ∉ history.taken := by
  obtain ⟨hreleased, -, -⟩ := h.waiting_split hsplit
  rw [h.ready_iff request, List.mem_append, List.mem_singleton, not_or]
  constructor
  · rintro ⟨hrel, hab, htak⟩
    exact ⟨hrel, ⟨hab, fun heq => hreleased (heq ▸ hrel)⟩, htak⟩
  · rintro ⟨hrel, ⟨hab, -⟩, htak⟩
    exact ⟨hrel, hab, htak⟩

lemma taken_released_abandon (request : RequestId) (htaken : request ∈ history.taken) :
    request ∈ history.released ∧ request ∉ history.abandoned ++ [entry.request] := by
  obtain ⟨-, -, hentry⟩ := h.waiting_split hsplit
  obtain ⟨hrel, hab⟩ := h.taken_released request htaken
  rw [List.mem_append, List.mem_singleton, not_or]
  exact ⟨hrel, hab, fun heq => hentry (heq ▸ htaken)⟩

lemma abandoned_sent_abandon (request : RequestId) (hrequest : request ∈ history.abandoned ++ [entry.request]) :
    request ∈ history.requests := by
  rcases List.mem_append.mp hrequest with hold | hnew
  · exact h.abandoned_sent request hold
  · obtain ⟨command, hcommand, hof, -⟩ := h.inflight_sent entry (by simp [hsplit])
    rw [List.mem_singleton.mp hnew]
    exact History.mem_requests.mpr ⟨command, hcommand, hof⟩

/-- Giving up a request whose completion is held back. -/
lemma abandon_arrived (harrived : entry.id ∈ tracker.arrived) :
    Agrees { tracker with inflight := before ++ behind, arrived := tracker.arrived.erase entry.id }
      (history.abandon entry.request) where
  requests_nodup := h.requests_nodup
  order := h.order_without hsplit
  inflight_ids := h.inflight_ids_without hsplit
  inflight_sent := by
    intro other hother
    obtain ⟨hmem, hne⟩ := (h.mem_around hsplit).mp hother
    obtain ⟨command, hcommand, hof, hid, hdone⟩ := h.inflight_sent other hmem
    refine ⟨command, hcommand, hof, hid, ?_⟩
    rw [hdone, Std.ExtTreeMap.getElem?_erase, if_neg]
    rw [Std.compare_eq_iff_eq]
    exact fun heq => hne heq.symm
  arrived_inflight := by
    intro id hid
    simp only [Std.ExtTreeMap.mem_erase, ne_eq, Std.compare_eq_iff_eq] at hid
    obtain ⟨other, hother, heq⟩ := h.arrived_inflight id hid.2
    exact ⟨other, (h.mem_around hsplit).mpr ⟨hother, fun hc => hid.1 (hc.symm.trans heq)⟩, heq⟩
  discard_apart := by
    intro other hother hdiscard
    obtain ⟨hmem, hne⟩ := (h.mem_around hsplit).mp hother
    simp only [Std.ExtTreeMap.mem_erase, ne_eq, Std.compare_eq_iff_eq]
    exact ⟨fun heq => hne heq.symm, h.discard_apart other hmem hdiscard⟩
  discard_sent := h.discard_sent
  inFlight_ids := h.inFlight_ids
  inFlight_held := by
    intro command hcommand
    rcases h.inFlight_held command hcommand with ⟨other, hother, hof, hid⟩ | hdiscard
    · refine .inl ⟨other, (h.mem_around hsplit).mpr ⟨hother, fun heq => ?_⟩, hof, hid⟩
      obtain ⟨hsent, hnone⟩ := History.mem_inFlight.mp hcommand
      obtain ⟨own, hown, hofOwn, -, hdone⟩ := h.inflight_sent other hother
      have hsame := History.eq_of_mem_of_request h.requests_nodup hsent hown hof hofOwn
      rw [← hsame, hnone, heq] at hdone
      rw [Std.ExtTreeMap.mem_iff_isSome_getElem?, ← hdone] at harrived
      cases harrived
    · exact .inr hdiscard
  ready_sent := h.ready_sent
  ready_iff := h.ready_iff_abandon hsplit
  taken_released := h.taken_released_abandon hsplit
  taken_nodup := h.taken_nodup
  delivered_sent := h.delivered_sent
  abandoned_sent := h.abandoned_sent_abandon hsplit

/-- Giving up a request whose command is in flight. -/
lemma abandon_inFlight (harrived : entry.id ∉ tracker.arrived) :
    Agrees { tracker with inflight := before ++ behind, discard := tracker.discard.insert entry.id }
      (history.abandon entry.request) where
  requests_nodup := h.requests_nodup
  order := h.order_without hsplit
  inflight_ids := h.inflight_ids_without hsplit
  inflight_sent := fun other hother => h.inflight_sent other ((h.mem_around hsplit).mp hother).1
  arrived_inflight := by
    intro id hid
    obtain ⟨other, hother, heq⟩ := h.arrived_inflight id hid
    exact ⟨other, (h.mem_around hsplit).mpr ⟨hother, fun hc => harrived (hc ▸ heq ▸ hid)⟩, heq⟩
  discard_apart := by
    intro other hother hdiscard
    obtain ⟨hmem, hne⟩ := (h.mem_around hsplit).mp hother
    simp only [Std.ExtTreeSet.mem_insert, Std.compare_eq_iff_eq] at hdiscard
    exact h.discard_apart other hmem (hdiscard.resolve_left fun heq => hne heq.symm)
  discard_sent := by
    intro id hid
    simp only [Std.ExtTreeSet.mem_insert, Std.compare_eq_iff_eq] at hid
    rcases hid with heq | hold
    · obtain ⟨command, hcommand, -, hcid, hdone⟩ := h.inflight_sent entry (by simp [hsplit])
      rw [Std.ExtTreeMap.getElem?_eq_none harrived] at hdone
      exact ⟨command, History.mem_inFlight.mpr ⟨hcommand, hdone⟩, hcid.trans heq⟩
    · exact h.discard_sent id hold
  inFlight_ids := h.inFlight_ids
  inFlight_held := by
    intro command hcommand
    simp only [Std.ExtTreeSet.mem_insert, Std.compare_eq_iff_eq]
    rcases h.inFlight_held command hcommand with ⟨other, hother, hof, hid⟩ | hdiscard
    · by_cases heq : other.id = entry.id
      · exact .inr (.inl (heq.symm.trans hid))
      · exact .inl ⟨other, (h.mem_around hsplit).mpr ⟨hother, heq⟩, hof, hid⟩
    · exact .inr (.inr hdiscard)
  ready_sent := h.ready_sent
  ready_iff := h.ready_iff_abandon hsplit
  taken_released := h.taken_released_abandon hsplit
  taken_nodup := h.taken_nodup
  delivered_sent := h.delivered_sent
  abandoned_sent := h.abandoned_sent_abandon hsplit

end

end

/-- The front has completed, and goes. -/
lemma release_first {front : Inflight} {rest : List Inflight} {arrived : Std.ExtTreeMap CommandId Completion}
    {ready : Std.ExtTreeMap RequestId Completion} {discard : Std.ExtTreeSet CommandId} {history : History}
    {completion : Completion} (h : Agrees ⟨front :: rest, arrived, ready, discard⟩ history)
    (harrived : arrived[front.id]? = some completion) :
    Agrees ⟨rest, arrived.erase front.id, ready.insert front.request completion, discard⟩
      (history.release [front.request]) := by
  have hfront : front ∈ front :: rest := List.mem_cons_self
  obtain ⟨hreleased, habandoned, htaken⟩ := h.waiting hfront
  have hids : (front.id :: rest.map Inflight.id).Nodup := h.inflight_ids
  have hne : ∀ other ∈ rest, other.id ≠ front.id := fun other hother heq =>
    (List.nodup_cons.mp hids).1 (heq ▸ List.mem_map_of_mem hother)
  obtain ⟨command, hcommand, hof, hid, hdone⟩ := h.inflight_sent front hfront
  exact {
    requests_nodup := h.requests_nodup
    order := by
      have horder : history.released ++ front.request :: rest.map Inflight.request = _ := h.order
      simp only [History.release, List.append_assoc, List.singleton_append]
      refine horder.trans (List.filter_congr fun other _ => ?_)
      by_cases heq : other = front.request
      · simp [heq, habandoned]
      · simp [heq]
    inflight_ids := (List.nodup_cons.mp hids).2
    inflight_sent := by
      intro other hother
      obtain ⟨own, hown, hofOwn, hidOwn, hdoneOwn⟩ := h.inflight_sent other (List.mem_cons_of_mem _ hother)
      refine ⟨own, hown, hofOwn, hidOwn, ?_⟩
      rw [hdoneOwn, Std.ExtTreeMap.getElem?_erase, if_neg]
      rw [Std.compare_eq_iff_eq]
      exact fun heq => hne other hother heq.symm
    arrived_inflight := by
      intro id hmem
      simp only [Std.ExtTreeMap.mem_erase, ne_eq, Std.compare_eq_iff_eq] at hmem
      obtain ⟨other, hother, heq⟩ := h.arrived_inflight id hmem.2
      rcases List.mem_cons.mp hother with hfirst | hrest
      · exact (hmem.1 (hfirst ▸ heq)).elim
      · exact ⟨other, hrest, heq⟩
    discard_apart := by
      intro other hother hdiscard
      simp only [Std.ExtTreeMap.mem_erase, ne_eq, Std.compare_eq_iff_eq]
      exact ⟨fun heq => hne other hother heq.symm,
        h.discard_apart other (List.mem_cons_of_mem _ hother) hdiscard⟩
    discard_sent := h.discard_sent
    inFlight_ids := h.inFlight_ids
    inFlight_held := by
      intro other hother
      refine (h.inFlight_held other hother).imp_left ?_
      rintro ⟨entry, hentry, hofOther, hidOther⟩
      rcases List.mem_cons.mp hentry with hfirst | hrest
      · -- the front has its completion, so the command in flight is another one
        obtain ⟨hsent, hnone⟩ := History.mem_inFlight.mp hother
        rw [hfirst] at hofOther
        have hsame := History.eq_of_mem_of_request h.requests_nodup hsent hcommand hofOther hof
        rw [← hsame, hnone, harrived] at hdone
        cases hdone
      · exact ⟨entry, hrest, hofOther, hidOther⟩
    ready_sent := by
      intro request done hready
      rw [Std.ExtTreeMap.getElem?_insert] at hready
      split at hready
      · rename_i heq
        rw [Std.compare_eq_iff_eq] at heq
        rw [Option.some.injEq] at hready
        exact ⟨command, hcommand, heq ▸ hof, by rw [hdone, harrived, hready]⟩
      · exact h.ready_sent request done hready
    ready_iff := by
      intro request
      simp only [Std.ExtTreeMap.mem_insert, Std.compare_eq_iff_eq, h.ready_iff request, History.release,
        List.mem_append, List.mem_singleton]
      constructor
      · rintro (heq | ⟨hrel, hab, htak⟩)
        · subst heq
          exact ⟨.inr rfl, habandoned, htaken⟩
        · exact ⟨.inl hrel, hab, htak⟩
      · rintro ⟨hrel | heq, hab, htak⟩
        · exact .inr ⟨hrel, hab, htak⟩
        · exact .inl heq.symm
    taken_released := by
      intro request hrequest
      obtain ⟨hrel, hab⟩ := h.taken_released request hrequest
      exact ⟨List.mem_append_left _ hrel, hab⟩
    taken_nodup := h.taken_nodup
    delivered_sent := h.delivered_sent
    abandoned_sent := h.abandoned_sent }

/-- What goes from the front is a stretch of the requests waited for, the first ones in order. -/
lemma releaseFront {inflight : List Inflight} {arrived : Std.ExtTreeMap CommandId Completion}
    {ready : Std.ExtTreeMap RequestId Completion} {discard : Std.ExtTreeSet CommandId} {history : History}
    (h : Agrees ⟨inflight, arrived, ready, discard⟩ history) :
    ∃ gone, inflight.map Inflight.request =
        gone ++ (Tracker.releaseFront inflight arrived ready).1.map Inflight.request ∧
      Agrees ⟨(Tracker.releaseFront inflight arrived ready).1, (Tracker.releaseFront inflight arrived ready).2.1,
        (Tracker.releaseFront inflight arrived ready).2.2, discard⟩ (history.release gone) := by
  fun_induction Tracker.releaseFront inflight arrived ready generalizing history with
  | case1 arrived ready =>
    refine ⟨[], rfl, ?_⟩
    rwa [History.release_nil]
  | case2 front rest arrived ready hnone =>
    refine ⟨[], rfl, ?_⟩
    rwa [History.release_nil]
  | case3 front rest arrived ready completion harrived ih =>
    obtain ⟨gone, hgone, hagrees⟩ := ih (h.release_first harrived)
    refine ⟨front.request :: gone, ?_, ?_⟩
    · rw [List.map_cons, hgone, List.cons_append]
    · rwa [History.release_release, List.singleton_append] at hagrees

end Agrees

/-- Sorting completions changes neither what is waited for nor what can be taken. -/
lemma Tracker.foldl_arrive (completions : List Completion) (tracker : Tracker) :
    (completions.foldl Tracker.arrive tracker).inflight = tracker.inflight ∧
      (completions.foldl Tracker.arrive tracker).ready = tracker.ready := by
  induction completions generalizing tracker with
  | nil => exact ⟨rfl, rfl⟩
  | cons completion rest ih =>
    have hone : (tracker.arrive completion).inflight = tracker.inflight ∧
        (tracker.arrive completion).ready = tracker.ready := by
      unfold Tracker.arrive
      split
      · exact ⟨rfl, rfl⟩
      · split <;> exact ⟨rfl, rfl⟩
    obtain ⟨hinflight, hready⟩ := ih (tracker.arrive completion)
    exact ⟨hinflight.trans hone.1, hready.trans hone.2⟩

namespace Agrees

lemma foldl_arrive (completions : List Completion) {tracker : Tracker} {history : History}
    (h : Agrees tracker history) (hreports : history.Reports completions) :
    Agrees (completions.foldl Tracker.arrive tracker) (completions.foldl History.report history) := by
  induction completions generalizing tracker history with
  | nil => exact h
  | cons completion rest ih =>
    refine ih ?_ hreports.2
    rcases hreports.1 with habout | hstray
    · exact h.arrive_about habout
    · obtain ⟨htracker, hhistory⟩ := h.arrive_stray hstray
      rwa [htracker, hhistory]

section

variable {tracker : Tracker} {history : History} (h : Agrees tracker history)
include h

/-- A reap reports about the commands, and lets the front go. -/
lemma absorb {completions : List Completion} (hreports : history.Reports completions) :
    Agrees (tracker.absorb completions) ((completions.foldl History.report history).release
      (tracker.newlyTakeable (tracker.absorb completions))) := by
  have harrived := h.foldl_arrive completions hreports
  obtain ⟨hinflight, hready⟩ := Tracker.foldl_arrive completions tracker
  obtain ⟨gone, hgone, hagrees⟩ := harrived.releaseFront
  have hgoes : Agrees (tracker.absorb completions)
      ((completions.foldl History.report history).release gone) := hagrees
  have hsplit : tracker.inflight.map Inflight.request =
      gone ++ (tracker.absorb completions).inflight.map Inflight.request := by
    rw [← hinflight]
    exact hgone
  have hwaited : ∀ request ∈ gone, request ∉ (completions.foldl History.report history).released ∧
      request ∉ (completions.foldl History.report history).abandoned ∧
      request ∉ (completions.foldl History.report history).taken := by
    intro request hrequest
    have hmem : request ∈ tracker.inflight.map Inflight.request := by
      rw [hsplit]
      exact List.mem_append_left _ hrequest
    obtain ⟨entry, hentry, rfl⟩ := List.mem_map.mp hmem
    exact harrived.waiting (hinflight.symm ▸ hentry)
  have hnew : tracker.newlyTakeable (tracker.absorb completions) = gone := by
    unfold Tracker.newlyTakeable
    rw [hsplit, List.filter_append, List.filter_eq_self.mpr, List.filter_eq_nil_iff.mpr, List.append_nil]
    · intro request hrequest
      obtain ⟨entry, hentry, rfl⟩ := List.mem_map.mp hrequest
      have hkept := (hgoes.waiting hentry).1
      rw [decide_eq_true_iff]
      exact fun hboth => hkept ((hgoes.ready_iff _).mp hboth.1).1
    · intro request hrequest
      obtain ⟨hreleased, habandoned, htaken⟩ := hwaited request hrequest
      rw [decide_eq_true_iff]
      refine ⟨(hgoes.ready_iff request).mpr ⟨List.mem_append_right _ hrequest, habandoned, htaken⟩, fun hmem => ?_⟩
      rw [← hready] at hmem
      exact hreleased ((harrived.ready_iff request).mp hmem).1
  rwa [hnew]

lemma take (request : RequestId) :
    Agrees (tracker.take request).2 (match (tracker.take request).1 with
      | some completion => history.deliver request completion
      | none => history) := by
  unfold Tracker.take
  cases hready : tracker.ready[request]? with
  | some completion => exact h.take_ready hready
  | none =>
    have hsame : tracker.ready.erase request = tracker.ready := by
      refine Std.ExtTreeMap.ext_getElem? fun other => ?_
      rw [Std.ExtTreeMap.getElem?_erase]
      split
      · rename_i heq
        rw [Std.compare_eq_iff_eq] at heq
        rw [← heq, hready]
      · rfl
    simp only [hsame]
    exact h

lemma abandon (request : RequestId) :
    Agrees (tracker.abandon request).2
      (if (tracker.abandon request).1 then history.abandon request else history) := by
  unfold Tracker.abandon
  by_cases hready : request ∈ tracker.ready
  · rw [if_pos (by simpa using hready)]
    exact h.abandon_ready hready
  · rw [if_neg (by simpa using hready)]
    cases hfind : tracker.inflight.find? (·.request == request) with
    | none => exact h
    | some entry =>
      obtain ⟨hof, before, behind, hsplit, hbefore⟩ := List.find?_eq_some_iff_append.mp hfind
      rw [beq_iff_eq] at hof
      subst hof
      have herase : tracker.inflight.eraseP (·.request == entry.request) = before ++ behind := by
        rw [hsplit, List.eraseP_append_right, List.eraseP_cons_of_pos (by simp)]
        simpa using hbefore
      by_cases harrived : entry.id ∈ tracker.arrived
      · simp only [herase, if_pos (show tracker.arrived.contains entry.id from harrived)]
        exact h.abandon_arrived hsplit harrived
      · simp only [herase, if_neg (show ¬ tracker.arrived.contains entry.id from harrived)]
        exact h.abandon_inFlight hsplit harrived

end

end Agrees

end FabricHost
