import FabricHost.Proofs.Queue.Agreement
import Mathlib.Data.List.Perm.Basic

/-!
# Batches of completions

What a tracker makes of completions of different commands depends neither on their order nor on how they are spread over
several reaps. Sorting one completion and sorting another one commute. What goes from the front early, after a reap,
would go as well after a later one, since a completion that is still expected comes behind it.
-/

namespace FabricHost.Tracker

section

variable {α β : Type} [Ord α] [Std.TransOrd α] [Std.LawfulEqOrd α] {first second : α}

lemma insert_insert_comm (map : Std.ExtTreeMap α β) (x y : β) (h : first ≠ second) :
    (map.insert first x).insert second y = (map.insert second y).insert first x := by
  refine Std.ExtTreeMap.ext_getElem? fun key => ?_
  simp only [Std.ExtTreeMap.getElem?_insert, Std.compare_eq_iff_eq]
  grind

lemma erase_insert_comm (map : Std.ExtTreeMap α β) (y : β) (h : first ≠ second) :
    (map.insert second y).erase first = (map.erase first).insert second y := by
  refine Std.ExtTreeMap.ext_getElem? fun key => ?_
  simp only [Std.ExtTreeMap.getElem?_insert, Std.ExtTreeMap.getElem?_erase, Std.compare_eq_iff_eq]
  grind

lemma erase_erase_comm (set : Std.ExtTreeSet α) : (set.erase first).erase second = (set.erase second).erase first := by
  refine Std.ExtTreeSet.ext_mem fun key => ?_
  simp only [Std.ExtTreeSet.mem_erase]
  grind

lemma erase_of_notMem {set : Std.ExtTreeSet α} (h : first ∉ set) : set.erase first = set := by
  refine Std.ExtTreeSet.ext_mem fun key => ?_
  rw [Std.ExtTreeSet.mem_erase, Std.compare_ne_eq_iff_ne]
  exact ⟨And.right, fun hkey => ⟨fun heq => h (heq ▸ hkey), hkey⟩⟩

end

variable {tracker : Tracker} {completion other : Completion} {id : CommandId}

/-- Whether a completion of this id is held back when it comes. -/
def HoldsBack (tracker : Tracker) (id : CommandId) : Prop :=
  id ∉ tracker.discard ∧ ∃ entry ∈ tracker.inflight, entry.id = id

instance (tracker : Tracker) (id : CommandId) : Decidable (tracker.HoldsBack id) :=
  inferInstanceAs (Decidable (_ ∧ _))

instance (tracker : Tracker) (id : CommandId) : Decidable (tracker.Expects id) :=
  inferInstanceAs (Decidable (_ ∨ _))

/-- The completion joins those held back, or not, and nobody waits to drop it any more. -/
lemma arrive_eq (tracker : Tracker) (completion : Completion) :
    tracker.arrive completion = { tracker with
      arrived := if tracker.HoldsBack completion.id then tracker.arrived.insert completion.id completion
        else tracker.arrived
      discard := tracker.discard.erase completion.id } := by
  have hany : tracker.inflight.any (·.id == completion.id) = true ↔
      ∃ entry ∈ tracker.inflight, entry.id = completion.id := by
    simp only [List.any_eq_true, beq_iff_eq]
  unfold arrive
  by_cases hdiscard : completion.id ∈ tracker.discard
  · rw [if_pos hdiscard, if_neg fun hback => hback.1 hdiscard]
  · rw [if_neg hdiscard, erase_of_notMem hdiscard]
    by_cases hwaiting : ∃ entry ∈ tracker.inflight, entry.id = completion.id
    · rw [if_pos (hany.mpr hwaiting), if_pos ⟨hdiscard, hwaiting⟩]
    · rw [if_neg (hany.not.mpr hwaiting), if_neg fun hback => hwaiting hback.2]

lemma holdsBack_arrive (h : completion.id ≠ id) : (tracker.arrive completion).HoldsBack id ↔ tracker.HoldsBack id := by
  simp [arrive_eq tracker completion, HoldsBack, Std.ExtTreeSet.mem_erase, h]

/-- Completions of two commands can be sorted in either order. -/
lemma arrive_comm (tracker : Tracker) (h : completion.id ≠ other.id) :
    (tracker.arrive completion).arrive other = (tracker.arrive other).arrive completion := by
  rw [arrive_eq (tracker.arrive completion), arrive_eq (tracker.arrive other)]
  simp only [holdsBack_arrive h, holdsBack_arrive h.symm]
  rw [arrive_eq tracker completion, arrive_eq tracker other]
  simp only [Tracker.mk.injEq, true_and]
  refine ⟨?_, erase_erase_comm tracker.discard⟩
  by_cases hcompletion : tracker.HoldsBack completion.id
  · by_cases hother : tracker.HoldsBack other.id
    · simp only [if_pos hcompletion, if_pos hother]
      exact insert_insert_comm tracker.arrived completion other h
    · simp only [if_neg hother]
  · simp only [if_neg hcompletion]

lemma foldl_arrive_perm {batch batch' : List Completion} (h : batch.Perm batch')
    (hnodup : (batch.map Completion.id).Nodup) (tracker : Tracker) :
    batch.foldl arrive tracker = batch'.foldl arrive tracker := by
  refine h.foldl_eq' (fun completion hcompletion other hother tracker => ?_) tracker
  by_cases hid : completion.id = other.id
  · rw [List.inj_on_of_nodup_map hnodup hcompletion hother hid]
  · exact arrive_comm tracker hid

/-- A tracker makes the same of a batch in any order. -/
theorem absorb_perm {batch batch' : List Completion} (h : batch.Perm batch')
    (hnodup : (batch.map Completion.id).Nodup) (tracker : Tracker) : tracker.absorb batch = tracker.absorb batch' := by
  rw [absorb, absorb, foldl_arrive_perm h hnodup]

section

variable (inflight : List Inflight) {arrived : Std.ExtTreeMap CommandId Completion}
  (ready : Std.ExtTreeMap RequestId Completion)

lemma ne_of_getElem?_arrived {done : Completion} {front : CommandId} (hid : id ∉ arrived)
    (hdone : arrived[front]? = some done) : front ≠ id := by
  rintro rfl
  exact hid (Std.ExtTreeMap.mem_iff_isSome_getElem?.mpr (by rw [hdone]; rfl))

/-- What has gone from the front would have gone behind a later completion as well. -/
lemma releaseFront_insert (completion : Completion) (hid : id ∉ arrived) :
    releaseFront inflight (arrived.insert id completion) ready =
      releaseFront (releaseFront inflight arrived ready).1
        ((releaseFront inflight arrived ready).2.1.insert id completion) (releaseFront inflight arrived ready).2.2 := by
  fun_induction releaseFront inflight arrived ready with
  | case1 arrived ready => rfl
  | case2 front rest arrived ready hnone => rfl
  | case3 front rest arrived ready done hdone ih =>
    have hne := ne_of_getElem?_arrived hid hdone
    rw [releaseFront, Std.ExtTreeMap.getElem?_insert, if_neg (by simpa using hne.symm), hdone]
    simp only
    rw [erase_insert_comm arrived completion hne]
    exact ih fun hmem => hid (Std.ExtTreeMap.mem_of_mem_erase hmem)

lemma releaseFront_releaseFront :
    releaseFront (releaseFront inflight arrived ready).1 (releaseFront inflight arrived ready).2.1
      (releaseFront inflight arrived ready).2.2 = releaseFront inflight arrived ready := by
  fun_induction releaseFront inflight arrived ready with
  | case1 arrived ready => rfl
  | case2 front rest arrived ready hnone => rw [releaseFront, hnone]
  | case3 front rest arrived ready done hdone ih => exact ih

/-- A command that has not completed stays where it is. -/
lemma releaseFront_awaited (hid : id ∉ arrived) :
    id ∉ (releaseFront inflight arrived ready).2.1 ∧
      ((∃ entry ∈ (releaseFront inflight arrived ready).1, entry.id = id) ↔ ∃ entry ∈ inflight, entry.id = id) := by
  fun_induction releaseFront inflight arrived ready with
  | case1 arrived ready => exact ⟨hid, Iff.rfl⟩
  | case2 front rest arrived ready hnone => exact ⟨hid, Iff.rfl⟩
  | case3 front rest arrived ready done hdone ih =>
    obtain ⟨hstill, hentries⟩ := ih fun hmem => hid (Std.ExtTreeMap.mem_of_mem_erase hmem)
    refine ⟨hstill, hentries.trans ?_⟩
    have hne := ne_of_getElem?_arrived hid hdone
    simp [hne]

end

lemma Expects.released (h : tracker.Expects id) : tracker.released.Expects id := by
  rcases h with ⟨entry, hentry, hid, harrived⟩ | hdiscard
  · obtain ⟨hstill, hentries⟩ := releaseFront_awaited tracker.inflight tracker.ready harrived
    obtain ⟨entry', hentry', hid'⟩ := hentries.mpr ⟨entry, hentry, hid⟩
    exact .inl ⟨entry', hentry', hid', hstill⟩
  · exact .inr hdiscard

lemma Expects.arrive (h : tracker.Expects id) (hne : completion.id ≠ id) : (tracker.arrive completion).Expects id := by
  rw [arrive_eq]
  rcases h with ⟨entry, hentry, hid, harrived⟩ | hdiscard
  · refine .inl ⟨entry, hentry, hid, ?_⟩
    simp only
    split
    · simp [Std.ExtTreeMap.mem_insert, hne, harrived]
    · exact harrived
  · exact .inr (by simp [Std.ExtTreeSet.mem_erase, hne, hdiscard])

/-- Letting the front go before a completion comes makes no difference. -/
lemma released_arrive_released (h : tracker.Expects completion.id) :
    (tracker.released.arrive completion).released = (tracker.arrive completion).released := by
  rw [arrive_eq tracker.released, arrive_eq tracker]
  by_cases hdiscard : completion.id ∈ tracker.discard
  · have hback : ∀ other : Tracker, other.discard = tracker.discard → ¬ other.HoldsBack completion.id :=
      fun other hother hback => hback.1 (hother ▸ hdiscard)
    rw [if_neg (hback tracker.released rfl), if_neg (hback tracker rfl)]
    simp only [released, releaseFront_releaseFront]
  · rcases h with ⟨entry, hentry, hid, harrived⟩ | hdiscard'
    · have hentries := (releaseFront_awaited tracker.inflight tracker.ready harrived).2
      have hwaiting : tracker.HoldsBack completion.id := ⟨hdiscard, entry, hentry, hid⟩
      have hwaiting' : tracker.released.HoldsBack completion.id := ⟨hdiscard, hentries.mpr hwaiting.2⟩
      rw [if_pos hwaiting', if_pos hwaiting]
      simp only [released, releaseFront_insert tracker.inflight tracker.ready completion harrived]
    · exact absurd hdiscard' hdiscard

lemma released_foldl_released {batch : List Completion} (hnodup : (batch.map Completion.id).Nodup)
    (h : ∀ completion ∈ batch, tracker.Expects completion.id) :
    (batch.foldl arrive tracker.released).released = (batch.foldl arrive tracker).released := by
  induction batch generalizing tracker with
  | nil => simp only [List.foldl_nil, released, releaseFront_releaseFront]
  | cons completion rest ih =>
    obtain ⟨hapart, hrest⟩ := List.nodup_cons.mp hnodup
    have hexpects := h completion List.mem_cons_self
    have hothers : ∀ tracker' : Tracker, (∀ id, tracker.Expects id → tracker'.Expects id) →
        ∀ other ∈ rest, (tracker'.arrive completion).Expects other.id := by
      intro tracker' hkept other hother
      refine Expects.arrive (hkept _ (h other (List.mem_cons_of_mem _ hother))) fun hid => hapart ?_
      exact List.mem_map.mpr ⟨other, hother, hid.symm⟩
    calc (rest.foldl Tracker.arrive (tracker.released.arrive completion)).released
      _ = (rest.foldl Tracker.arrive (tracker.released.arrive completion).released).released :=
        (ih hrest (hothers _ fun _ hid => hid.released)).symm
      _ = (rest.foldl Tracker.arrive (tracker.arrive completion).released).released := by
        rw [released_arrive_released hexpects]
      _ = (rest.foldl Tracker.arrive (tracker.arrive completion)).released := ih hrest (hothers _ fun _ hid => hid)

lemma Expects.foldl_arrive {batch : List Completion} (hapart : id ∉ batch.map Completion.id) (h : tracker.Expects id) :
    (batch.foldl Tracker.arrive tracker).Expects id := by
  induction batch generalizing tracker with
  | nil => exact h
  | cons completion rest ih =>
    rw [List.map_cons, List.mem_cons, not_or] at hapart
    exact ih hapart.2 (h.arrive (Ne.symm hapart.1))

/-- Two reaps are one reap of both batches. -/
lemma absorb_absorb {first second : List Completion} (hnodup : ((first ++ second).map Completion.id).Nodup)
    (h : ∀ completion ∈ second, tracker.Expects completion.id) :
    (tracker.absorb first).absorb second = tracker.absorb (first ++ second) := by
  rw [List.map_append, List.nodup_append'] at hnodup
  obtain ⟨-, hsecond, hdisjoint⟩ := hnodup
  rw [absorb, absorb, absorb, List.foldl_append, released_foldl_released hsecond]
  intro completion hcompletion
  refine (h completion hcompletion).foldl_arrive fun hmem => ?_
  exact hdisjoint hmem (List.mem_map_of_mem hcompletion)

lemma foldl_absorb_absorb {later : List (List Completion)} {first : List Completion}
    (hnodup : ((first ++ later.flatten).map Completion.id).Nodup)
    (h : ∀ completion ∈ later.flatten, tracker.Expects completion.id) :
    later.foldl absorb (tracker.absorb first) = tracker.absorb (first ++ later.flatten) := by
  induction later generalizing first with
  | nil => simp
  | cons second later ih =>
    rw [List.flatten_cons] at hnodup h ⊢
    rw [← List.append_assoc] at hnodup ⊢
    rw [List.foldl_cons, absorb_absorb]
    · exact ih hnodup fun completion hcompletion => h completion (List.mem_append_right _ hcompletion)
    · exact hnodup.sublist ((List.sublist_append_left _ _).map _)
    · exact fun completion hcompletion => h completion (List.mem_append_left _ hcompletion)

/-- A batch spread over several reaps, in any order, is one reap of it. -/
theorem foldl_absorb {batch : List Completion} {reaps : List (List Completion)} (hreaps : reaps ≠ [])
    (hperm : reaps.flatten.Perm batch) (hnodup : (batch.map Completion.id).Nodup)
    (h : ∀ completion ∈ batch, tracker.Expects completion.id) : reaps.foldl absorb tracker = tracker.absorb batch := by
  have hflat := (hperm.map Completion.id).nodup_iff.mpr hnodup
  have hexpects : ∀ completion ∈ reaps.flatten, tracker.Expects completion.id :=
    fun completion hcompletion => h completion (hperm.mem_iff.mp hcompletion)
  rw [← absorb_perm hperm hflat]
  obtain ⟨first, later, rfl⟩ := List.exists_cons_of_ne_nil hreaps
  rw [List.flatten_cons] at hflat hexpects ⊢
  exact foldl_absorb_absorb hflat fun completion hcompletion =>
    hexpects completion (List.mem_append_right _ hcompletion)

end FabricHost.Tracker
