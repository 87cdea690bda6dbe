import FabricHost.Proofs.Attempts.Store

/-!
# Calls of a store

A store is changed by calls. One that is refused leaves the store alone; one that is accepted makes a single edit of the
list: it appends an attempt, puts one in the place of another, or takes one out. Whatever is called, names stay distinct,
every attempt passes the check against the names of the others, and the count is right.
-/

namespace FabricHost

/-- What is asked of a store. -/
inductive StoreCall where
  | add (attempt : Attempt)
  | update (name : String) (attempt : Attempt)
  | remove (name : String)
  | updateDefaults (change : HostDefaults → HostDefaults)

namespace StoreCall

/-- Whether a call is accepted by a store with attempts of these names. -/
def Suits (names : List String) : StoreCall → Prop
  | add attempt => attempt.Valid ∧ attempt.name ∉ names
  | update name attempt => name ∈ names ∧ attempt.Valid ∧ attempt.name ∉ names.erase name
  | remove name => name ∈ names
  | updateDefaults _ => True

/-- What an accepted call makes of the attempts. What it takes out, it answers. -/
inductive Edits : StoreCall → List Attempt → Option Attempt → List Attempt → Prop
  | append (attempt : Attempt) (attempts : List Attempt) :
    Edits (.add attempt) attempts none (attempts ++ [attempt])
  | replace {old : Attempt} (attempt : Attempt) (before after : List Attempt) :
    Edits (.update old.name attempt) (before ++ old :: after) none (before ++ attempt :: after)
  | delete (gone : Attempt) (before after : List Attempt) :
    Edits (.remove gone.name) (before ++ gone :: after) (some gone) (before ++ after)
  | keep (change : HostDefaults → HostDefaults) (attempts : List Attempt) :
    Edits (.updateDefaults change) attempts none attempts

/-- What a call makes of the defaults, apart from their count. -/
def defaults : StoreCall → HostDefaults → HostDefaults
  | updateDefaults change => change
  | _ => id

end StoreCall

namespace AttemptStore

/-- Answers a call, and gives the store after it. The answer to a removal is the attempt that was taken out. -/
def perform (store : AttemptStore) (call : StoreCall) : Except AttemptError (Option Attempt) × AttemptStore :=
  let changed (result : Except AttemptError (Option Attempt × AttemptStore)) :=
    match result with
    | .error error => (.error error, store)
    | .ok (answer, store) => (.ok answer, store)
  match call with
  | .add attempt => changed ((store.add attempt).map fun store => (none, store))
  | .update name attempt => changed ((store.update name attempt).map fun store => (none, store))
  | .remove name => changed ((store.remove name).map fun (gone, store) => (some gone, store))
  | .updateDefaults change => (.ok none, store.updateDefaults change)

/-- The store after several calls. -/
def run (store : AttemptStore) (calls : List StoreCall) : AttemptStore :=
  calls.foldl (fun store call => (store.perform call).2) store

variable {store : AttemptStore} {name : String} {attempt : Attempt}

/-- A name that is found splits the attempts at the first one that has it. -/
lemma position?_split {i : Nat} (h : store.position? name = some i) : ∃ before old after,
    store.attempts = before ++ old :: after ∧ before.length = i ∧ old.name = name ∧ name ∉ before.map Attempt.name := by
  obtain ⟨hi, hname, hbefore⟩ := List.findIdx?_eq_some_iff_getElem.mp h
  refine ⟨store.attempts.take i, store.attempts[i], store.attempts.drop (i + 1), ?_, ?_, ?_, ?_⟩
  · rw [List.getElem_cons_drop, List.take_append_drop]
  · rw [List.length_take]
    omega
  · exact of_decide_eq_true hname
  · intro hmem
    obtain ⟨other, hother, heq⟩ := List.mem_map.mp hmem
    obtain ⟨j, hj, rfl⟩ := List.mem_iff_getElem.mp hother
    rw [List.length_take] at hj
    rw [List.getElem_take] at heq
    exact hbefore j (by omega) (decide_eq_true heq)

lemma position?_eq_none_iff : store.position? name = none ↔ name ∉ store.names := by
  rw [position?, List.findIdx?_eq_none_iff, names, List.mem_map]
  constructor
  · rintro h ⟨a, ha, hname⟩
    exact absurd hname (of_decide_eq_false (h a ha))
  · intro h a ha
    exact decide_eq_false fun hname => h ⟨a, ha, hname⟩

lemma mem_names_of_split {before after : List Attempt} (h : store.attempts = before ++ attempt :: after) :
    attempt.name ∈ store.names := by
  rw [names, h]
  simp

/-- The first name of its kind, taken out of the names of a split list. -/
lemma erase_names {before after : List Attempt} {old : Attempt} (hname : old.name ∉ before.map Attempt.name) :
    ((before ++ old :: after).map Attempt.name).erase old.name = (before ++ after).map Attempt.name := by
  rw [List.map_append, List.map_cons, List.erase_append_right _ hname, List.erase_cons_head, List.map_append]

/-- An update is refused, or puts the attempt in the place of the first one of the name. -/
lemma update_cases (store : AttemptStore) (name : String) (attempt : Attempt) :
    (∃ error, store.update name attempt = .error error ∧ ¬ (StoreCall.update name attempt).Suits store.names) ∨
      (StoreCall.update name attempt).Suits store.names ∧ ∃ before old after, old.name = name ∧
        store.attempts = before ++ old :: after ∧
        store.update name attempt = .ok { store with attempts := before ++ attempt :: after } := by
  unfold AttemptStore.update
  split
  · rename_i hnone
    exact .inl ⟨_, rfl, fun suits => position?_eq_none_iff.mp hnone suits.1⟩
  · rename_i i hfound
    obtain ⟨before, old, after, hsplit, rfl, rfl, hbefore⟩ := position?_split hfound
    have herase : store.names.eraseIdx before.length = store.names.erase old.name := by
      rw [names, hsplit, erase_names hbefore, List.map_append, List.map_cons]
      rw [List.eraseIdx_append_of_length_le (by simp), List.length_map, Nat.sub_self, List.map_append]
      rfl
    have hset : store.attempts.set before.length attempt = before ++ attempt :: after := by
      rw [hsplit, List.set_append_right _ _ (Nat.le_refl _), Nat.sub_self]
      rfl
    rw [herase, hset]
    cases hcheck : attempt.check (store.names.erase old.name) with
    | error error =>
      refine .inl ⟨error, rfl, fun suits => ?_⟩
      rw [Attempt.check_eq_ok_iff.mpr ⟨suits.2.2, suits.2.1⟩] at hcheck
      cases hcheck
    | ok u =>
      obtain ⟨hname, hvalid⟩ := Attempt.check_eq_ok_iff.mp hcheck
      exact .inr ⟨⟨mem_names_of_split hsplit, hvalid, hname⟩, before, old, after, rfl, hsplit, rfl⟩

/-- A removal is refused, or takes the first attempt of the name out. -/
lemma remove_cases (store : AttemptStore) (name : String) :
    (∃ error, store.remove name = .error error ∧ name ∉ store.names) ∨
      name ∈ store.names ∧ ∃ before gone after, gone.name = name ∧ store.attempts = before ++ gone :: after ∧
        store.remove name = .ok (gone, recount { store with attempts := before ++ after }) := by
  unfold AttemptStore.remove
  split
  · rename_i hnone
    refine .inl ⟨_, rfl, fun hmem => ?_⟩
    obtain ⟨a, ha, hname⟩ := List.mem_map.mp hmem
    exact List.find?_eq_none.mp hnone a ha (decide_eq_true hname)
  · rename_i gone hfound
    obtain ⟨hname, before, after, hsplit, hbefore⟩ := List.find?_eq_some_iff_append.mp hfound
    rw [decide_eq_true_iff] at hname
    subst hname
    have herase : store.attempts.eraseP (·.name = gone.name) = before ++ after := by
      rw [hsplit, List.eraseP_append_right, List.eraseP_cons_of_pos (by simp)]
      intro a ha
      simpa using hbefore a ha
    exact .inr ⟨mem_names_of_split hsplit, before, gone, after, rfl, hsplit, by rw [herase]⟩

/-- A call is refused and changes nothing, or it suits and makes its edit, after which the count is right. -/
lemma Sound.perform_cases (sound : store.Sound) (call : StoreCall) :
    (∃ error, store.perform call = (.error error, store) ∧ ¬ call.Suits store.names) ∨
      call.Suits store.names ∧ ∃ answer attempts, call.Edits store.attempts answer attempts ∧
        store.perform call = (.ok answer, recount { defaults := call.defaults store.defaults, attempts }) := by
  cases call with
  | add attempt =>
    cases hcheck : attempt.check store.names with
    | error error =>
      refine .inl ⟨error, ?_, fun suits => ?_⟩
      · simp only [perform, AttemptStore.add, hcheck]
        rfl
      · rw [Attempt.check_eq_ok_iff.mpr ⟨suits.2, suits.1⟩] at hcheck
        cases hcheck
    | ok u =>
      obtain ⟨hname, hvalid⟩ := Attempt.check_eq_ok_iff.mp hcheck
      refine .inr ⟨⟨hvalid, hname⟩, none, store.attempts ++ [attempt], .append attempt store.attempts, ?_⟩
      simp only [perform, AttemptStore.add, hcheck]
      rfl
  | update name attempt =>
    rcases store.update_cases name attempt with ⟨error, heq, hnot⟩ | ⟨suits, before, old, after, rfl, hsplit, heq⟩
    · refine .inl ⟨error, ?_, hnot⟩
      simp only [perform, heq]
      rfl
    · refine .inr ⟨suits, none, before ++ attempt :: after, ?_, ?_⟩
      · rw [hsplit]
        exact .replace attempt before after
      · -- an update counts nothing, and the count it leaves is right
        have hcount := (sound.update heq).recount_eq
        simp only [perform, heq]
        exact Prod.ext rfl hcount.symm
  | remove name =>
    rcases store.remove_cases name with ⟨error, heq, hnot⟩ | ⟨suits, before, gone, after, rfl, hsplit, heq⟩
    · refine .inl ⟨error, ?_, hnot⟩
      simp only [perform, heq]
      rfl
    · refine .inr ⟨suits, some gone, before ++ after, ?_, ?_⟩
      · rw [hsplit]
        exact .delete gone before after
      · simp only [perform, heq]
        rfl
  | updateDefaults change => exact .inr ⟨trivial, none, store.attempts, .keep change store.attempts, rfl⟩

lemma Reachable.perform (reachable : Reachable store) (call : StoreCall) : Reachable (store.perform call).2 := by
  cases call with
  | add attempt =>
    cases hadd : store.add attempt with
    | error error => simpa only [AttemptStore.perform, hadd, Except.map] using reachable
    | ok store' => simpa only [AttemptStore.perform, hadd, Except.map] using Reachable.added reachable hadd
  | update name attempt =>
    cases hupdate : store.update name attempt with
    | error error => simpa only [AttemptStore.perform, hupdate, Except.map] using reachable
    | ok store' => simpa only [AttemptStore.perform, hupdate, Except.map] using Reachable.updated reachable hupdate
  | remove name =>
    cases hremove : store.remove name with
    | error error => simpa only [AttemptStore.perform, hremove, Except.map] using reachable
    | ok result => simpa only [AttemptStore.perform, hremove, Except.map] using Reachable.removed reachable hremove
  | updateDefaults change => exact .changed change reachable

lemma Reachable.run (reachable : Reachable store) (calls : List StoreCall) : Reachable (store.run calls) := by
  induction calls generalizing store with
  | nil => exact reachable
  | cons call rest ih => exact ih (reachable.perform call)

/-- An attempt of a sound store passes the check against the names of the others. -/
lemma Sound.check_others (sound : store.Sound) {before after : List Attempt}
    (h : store.attempts = before ++ attempt :: after) :
    attempt.check ((before ++ after).map Attempt.name) = .ok () := by
  have hnodup := sound.nodup
  rw [h, List.map_append, List.map_cons, List.nodup_middle, ← List.map_append, List.nodup_cons] at hnodup
  have hmem : attempt ∈ store.attempts := by
    rw [h]
    simp
  exact Attempt.check_eq_ok_iff.mpr ⟨hnodup.1, sound.valid attempt hmem⟩

/-- However a store came about, after any calls its names are distinct, each of its attempts passes the check against the
names of the others, and its count is the number of attempts as far as it can be counted. The next call is refused and
changes nothing, exactly if it does not suit the names; else it makes its edit, and the count follows. -/
theorem run_keeps_names {start : AttemptStore} (reachable : Reachable start) (calls : List StoreCall) :
    let store := start.run calls
    store.names.Nodup ∧
    (∀ before attempt after, store.attempts = before ++ attempt :: after →
      attempt.check ((before ++ after).map Attempt.name) = .ok ()) ∧
    store.defaults.targetCount.toNat = min store.attempts.length 65535 ∧
    ∀ call : StoreCall,
      (¬ call.Suits store.names → ∃ error, store.perform call = (.error error, store)) ∧
      (call.Suits store.names → ∃ answer attempts, call.Edits store.attempts answer attempts ∧
        store.perform call = (.ok answer, recount { defaults := call.defaults store.defaults, attempts })) := by
  intro store
  have sound : store.Sound := (reachable.run calls).sound
  refine ⟨sound.nodup, fun before attempt after h => sound.check_others h, ?_, fun call => ?_⟩
  · rw [sound.count, UInt16.toNat_ofNat']
    have hlimit : Limits.setCount = 65535 := rfl
    omega
  · rcases sound.perform_cases call with ⟨error, heq, hnot⟩ | ⟨suits, hedit⟩
    · exact ⟨fun _ => ⟨error, heq⟩, fun suits => absurd suits hnot⟩
    · exact ⟨fun hnot => absurd suits hnot, fun _ => hedit⟩

/-- Two attempts are added, one of them again, which is refused. The first is given another name, the second taken out,
and a count is set by hand. -/
def moves : List StoreCall :=
  [.add { name := "boot0", targetAddress := "192.168.100.29" }, .add { name := "boot1" }, .add { name := "boot0" },
    .update "boot0" { name := "disk0" }, .remove "boot1", .updateDefaults fun defaults => { defaults with targetCount := 9 }]

theorem run_keeps_names_moves :
    Reachable (fresh .nil) ∧
      let store := (fresh .nil).run moves
      store.names = ["disk0"] ∧ store.names.Nodup ∧ store.defaults.targetCount.toNat = min store.attempts.length 65535 ∧
        ¬ (StoreCall.remove "boot1").Suits store.names ∧
        ∃ error, store.perform (.remove "boot1") = (.error error, store) := by
  have hkeeps := run_keeps_names (.fresh .nil) moves
  have hnames : ((fresh .nil).run moves).names = ["disk0"] := by decide +kernel
  have hgone : ¬ (StoreCall.remove "boot1").Suits ((fresh .nil).run moves).names := by
    rw [hnames]
    exact show "boot1" ∉ ["disk0"] by decide
  exact ⟨.fresh .nil, hnames, hkeeps.1, hkeeps.2.2.1, hgone, (hkeeps.2.2.2 (.remove "boot1")).1 hgone⟩

end AttemptStore

end FabricHost
