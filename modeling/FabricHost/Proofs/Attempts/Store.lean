import FabricHost.AttemptStore.Persistence
import FabricHost.Proofs.Attempts.Rules
import Mathlib.Data.List.Nodup

/-!
# Stores stay sound

However a store came about, its attempts are valid, no two of them have the same name, and the count among its defaults
is the number of its attempts, as far as it can be counted.
-/

namespace FabricHost.AttemptStore

/-- The stores that come from a fresh or a loaded one by changes that were accepted. -/
inductive Reachable : AttemptStore → Prop
  | fresh (hostId : Uuid) : Reachable (fresh hostId)
  | loaded {S : Type} [VariableStore S] {freshId : Uuid} {vars : S} {store : AttemptStore} :
    load freshId vars = .ok store → Reachable store
  | added {store store' : AttemptStore} {attempt : Attempt} :
    Reachable store → store.add attempt = .ok store' → Reachable store'
  | updated {store store' : AttemptStore} {name : String} {attempt : Attempt} :
    Reachable store → store.update name attempt = .ok store' → Reachable store'
  | removed {store store' : AttemptStore} {name : String} {attempt : Attempt} :
    Reachable store → store.remove name = .ok (attempt, store') → Reachable store'
  | changed {store : AttemptStore} (change : HostDefaults → HostDefaults) :
    Reachable store → Reachable (store.updateDefaults change)

/-- Attempts of which each is valid, under names of their own. -/
structure Wellnamed (attempts : List Attempt) : Prop where
  valid : ∀ a ∈ attempts, a.Valid
  nodup : (attempts.map Attempt.name).Nodup

structure Sound (store : AttemptStore) : Prop extends Wellnamed store.attempts where
  count : store.defaults.targetCount = UInt16.ofNat (min store.attempts.length Limits.setCount)

lemma sound_recount {store : AttemptStore} (h : Wellnamed store.attempts) : store.recount.Sound where
  toWellnamed := h
  count := rfl

lemma Sound.recount_eq {store : AttemptStore} (sound : store.Sound) : store.recount = store := by
  obtain ⟨defaults, attempts⟩ := store
  have hcount := sound.count
  simp only at hcount
  simp only [recount, ← hcount]

/-- Names are not shared, so each leads to its attempt. -/
lemma Sound.get?_of_mem {store : AttemptStore} {attempt : Attempt} (sound : store.Sound) (h : attempt ∈ store.attempts) :
    store.get? attempt.name = some attempt := by
  have hsome : (store.get? attempt.name).isSome = true := List.find?_isSome.mpr ⟨attempt, h, by simp⟩
  obtain ⟨found, hfound⟩ := Option.isSome_iff_exists.mp hsome
  have hname : found.name = attempt.name := by simpa using List.find?_some hfound
  rw [hfound, List.inj_on_of_nodup_map sound.nodup (List.mem_of_find?_eq_some hfound) h hname]

lemma sound_fresh (hostId : Uuid) : (fresh hostId).Sound where
  valid _ h := absurd h List.not_mem_nil
  nodup := List.nodup_nil
  count := rfl

/-- Stored attempts pass when they are valid, under names of their own that are not the names of earlier ones. -/
lemma checkStored_eq_ok_iff {earlier later : List Attempt} : checkStored earlier later = .ok () ↔
    Wellnamed later ∧ ∀ a ∈ later, a.name ∉ earlier.map Attempt.name := by
  induction later generalizing earlier with
  | nil => exact iff_of_true rfl ⟨⟨by simp, List.nodup_nil⟩, by simp⟩
  | cons attempt later ih =>
    rw [checkStored, rules_bind_eq_ok_iff, mapError_eq_ok_iff, Attempt.check_eq_ok_iff, ih]
    constructor
    · rintro ⟨⟨hname, hvalid⟩, wellnamed, hapart⟩
      refine ⟨⟨?_, ?_⟩, ?_⟩
      · exact List.forall_mem_cons.mpr ⟨hvalid, wellnamed.valid⟩
      · rw [List.map_cons, List.nodup_cons]
        refine ⟨fun hmem => ?_, wellnamed.nodup⟩
        obtain ⟨other, hother, heq⟩ := List.mem_map.mp hmem
        apply hapart other hother
        rw [List.map_append, heq]
        simp
      · rw [List.forall_mem_cons]
        refine ⟨hname, fun other hother hmem => hapart other hother ?_⟩
        rw [List.map_append]
        exact List.mem_append_left _ hmem
    · rintro ⟨wellnamed, hapart⟩
      have hnodup := wellnamed.nodup
      rw [List.map_cons, List.nodup_cons] at hnodup
      rw [List.forall_mem_cons] at hapart
      have hvalid := List.forall_mem_cons.mp wellnamed.valid
      refine ⟨⟨hapart.1, hvalid.1⟩, ⟨hvalid.2, hnodup.2⟩, fun other hother hmem => ?_⟩
      rw [List.map_append, List.mem_append, List.map_singleton, List.mem_singleton] at hmem
      rcases hmem with hmem | heq
      · exact hapart.2 other hother hmem
      · exact hnodup.1 (heq ▸ List.mem_map_of_mem hother)

/-- A loaded store is a fresh one or holds stored attempts that passed. -/
lemma load_cases {S : Type} [VariableStore S] {freshId : Uuid} {vars : S} {store : AttemptStore}
    (h : load freshId vars = .ok store) : store = fresh freshId ∨
      ∃ defaults attempts, checkStored [] attempts = .ok () ∧ store = recount { defaults, attempts } := by
  unfold load at h
  obtain ⟨raw, -, h⟩ := bind_eq_ok_iff.mp h
  cases raw with
  | none =>
    cases h
    exact .inl rfl
  | some raw =>
    obtain ⟨defaults, -, h⟩ := bind_eq_ok_iff.mp h
    obtain ⟨stored, -, h⟩ := bind_eq_ok_iff.mp h
    have hchecked : ∀ attempts, (checkStored [] attempts >>= fun _ => .ok (recount { defaults, attempts })) = .ok store →
        ∃ defaults attempts, checkStored [] attempts = .ok () ∧ store = recount { defaults, attempts } := by
      intro attempts h
      obtain ⟨hcheck, heq⟩ := rules_bind_eq_ok_iff.mp h
      cases heq
      exact ⟨defaults, attempts, hcheck, rfl⟩
    right
    cases stored with
    | none => exact hchecked [] h
    | some stored =>
      obtain ⟨attempts, -, h⟩ := bind_eq_ok_iff.mp h
      exact hchecked attempts h

lemma Sound.add {store store' : AttemptStore} {attempt : Attempt} (sound : store.Sound)
    (h : store.add attempt = .ok store') : store'.Sound := by
  obtain ⟨hcheck, heq⟩ := rules_bind_eq_ok_iff.mp h
  obtain ⟨hname, hvalid⟩ := Attempt.check_eq_ok_iff.mp hcheck
  cases heq
  apply sound_recount
  constructor
  · intro a ha
    rcases List.mem_append.mp ha with ha | ha
    · exact sound.valid a ha
    · rw [List.mem_singleton.mp ha]
      exact hvalid
  · rw [List.map_append, List.nodup_append_comm]
    exact List.nodup_cons.mpr ⟨hname, sound.nodup⟩

lemma Sound.remove {store store' : AttemptStore} {name : String} {attempt : Attempt} (sound : store.Sound)
    (h : store.remove name = .ok (attempt, store')) : store'.Sound := by
  unfold AttemptStore.remove at h
  split at h
  · cases h
  · cases h
    apply sound_recount
    constructor
    · intro a ha
      exact sound.valid a (List.mem_of_mem_eraseP ha)
    · exact sound.nodup.sublist (List.eraseP_sublist.map _)

/-- A name that no other entry has can stand in the place of any entry. -/
lemma nodup_set {names : List String} {i : Nat} {name : String} (hnodup : names.Nodup)
    (hname : name ∉ names.eraseIdx i) : (names.set i name).Nodup := by
  by_cases hi : i < names.length
  · have herased := hnodup.sublist (List.eraseIdx_sublist names i)
    rw [List.eraseIdx_eq_take_drop_succ] at hname herased
    rw [List.set_eq_take_append_cons_drop, if_pos hi, List.nodup_middle]
    exact List.nodup_cons.mpr ⟨hname, herased⟩
  · rw [List.set_eq_of_length_le (by omega)]
    exact hnodup

lemma Sound.update {store store' : AttemptStore} {name : String} {attempt : Attempt} (sound : store.Sound)
    (h : store.update name attempt = .ok store') : store'.Sound := by
  unfold AttemptStore.update at h
  split at h
  · cases h
  · rename_i i _
    obtain ⟨hcheck, heq⟩ := rules_bind_eq_ok_iff.mp h
    obtain ⟨hname, hvalid⟩ := Attempt.check_eq_ok_iff.mp hcheck
    cases heq
    refine ⟨⟨?_, ?_⟩, ?_⟩
    · intro a ha
      rcases List.mem_or_eq_of_mem_set ha with ha | rfl
      · exact sound.valid a ha
      · exact hvalid
    · rw [List.map_set]
      exact nodup_set sound.nodup hname
    · simp only [List.length_set]
      exact sound.count

theorem Reachable.sound {store : AttemptStore} (reachable : Reachable store) : store.Sound := by
  induction reachable with
  | fresh hostId => exact sound_fresh hostId
  | loaded h =>
    rcases load_cases h with rfl | ⟨defaults, attempts, hcheck, rfl⟩
    · exact sound_fresh _
    · exact sound_recount (checkStored_eq_ok_iff.mp hcheck).1
  | added _ h sound => exact sound.add h
  | updated _ h sound => exact sound.update h
  | removed _ h sound => exact sound.remove h
  | changed change _ sound => exact sound_recount sound.toWellnamed

end FabricHost.AttemptStore
