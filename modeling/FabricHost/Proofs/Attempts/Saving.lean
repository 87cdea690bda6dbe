import FabricHost.Proofs.Attempts.Store
import FabricHost.Proofs.Variables.Laws

/-!
# Saved stores load again

A save encodes both records before it writes either. It fails in encoding only for a store with more attempts than can
be counted or with defaults that do not fit, and then nothing is written; else the variables load as the same store.
-/

namespace FabricHost.AttemptStore

variable {S : Type} [VariableStore S]

/-- The two writes of a save succeed, if it gets as far as making them. -/
def WritesSucceed (store : AttemptStore) (vars : S) : Prop :=
  ∀ defaults attempts, store.encode = .ok (defaults, attempts) →
    let first := VariableStore.set attemptsVariable attempts vars
    first.1 = .ok () ∧ (VariableStore.set defaultsVariable defaults first.2).1 = .ok ()

lemma encode_eq_ok_iff {store : AttemptStore} {defaults attempts : Bytes} : store.encode = .ok (defaults, attempts) ↔
    store.defaults.encode = .ok defaults ∧ Attempt.encodeSet store.attempts = .ok attempts := by
  simp only [encode, bind_eq_ok_iff, mapError_eq_ok_iff, pure, Except.pure, Except.ok.injEq, Prod.mk.injEq]
  constructor
  · rintro ⟨_, hdefaults, _, hattempts, rfl, rfl⟩
    exact ⟨hdefaults, hattempts⟩
  · rintro ⟨hdefaults, hattempts⟩
    exact ⟨_, hdefaults, _, hattempts, rfl, rfl⟩

/-- No attempt of a sound store keeps it from being encoded. -/
lemma Sound.encodes_iff {store : AttemptStore} (sound : store.Sound) : (∃ images, store.encode = .ok images) ↔
    store.attempts.length ≤ Limits.setCount ∧ store.defaults.Storable := by
  have hset := Attempt.encodesSet_iff store.attempts
  have hdefaults := HostDefaults.encodes_iff store.defaults
  constructor
  · rintro ⟨⟨defaults, attempts⟩, h⟩
    obtain ⟨hd, ha⟩ := encode_eq_ok_iff.mp h
    exact ⟨(hset.mp ⟨_, ha⟩).1, hdefaults.mp ⟨_, hd⟩⟩
  · rintro ⟨hcount, hstorable⟩
    obtain ⟨defaults, hd⟩ := hdefaults.mpr hstorable
    obtain ⟨attempts, ha⟩ := hset.mpr ⟨hcount, fun a hmem => (sound.valid a hmem).storable⟩
    exact ⟨_, encode_eq_ok_iff.mpr ⟨hd, ha⟩⟩

/-- Nothing is written of a store that cannot be encoded. -/
lemma save_of_error {store : AttemptStore} {error : PersistenceError} (h : store.encode = .error error) (vars : S) :
    save store vars = (.error error, vars) := by
  rw [save, h]

/-- A save that succeeds has encoded the store and made both writes. -/
lemma save_eq_ok {store : AttemptStore} {vars vars' : S} (h : save store vars = (.ok (), vars')) :
    ∃ defaults attempts between, store.encode = .ok (defaults, attempts) ∧
      VariableStore.set attemptsVariable attempts vars = (.ok (), between) ∧
      VariableStore.set defaultsVariable defaults between = (.ok (), vars') := by
  unfold save at h
  rcases hencode : store.encode with error | ⟨defaults, attempts⟩
  · rw [hencode] at h
    cases h
  · rcases hfirst : VariableStore.set attemptsVariable attempts vars with ⟨_ | ⟨⟩, between⟩
    · simp only [hencode, hfirst] at h
      cases h
    · rcases hsecond : VariableStore.set defaultsVariable defaults between with ⟨_ | ⟨⟩, last⟩
      · simp only [hencode, hfirst, hsecond] at h
        cases h
      · simp only [hencode, hfirst, hsecond] at h
        cases h
        exact ⟨defaults, attempts, between, rfl, hfirst, hsecond⟩

lemma save_of_writes {store : AttemptStore} {defaults attempts : Bytes} {vars between vars' : S}
    (hencode : store.encode = .ok (defaults, attempts))
    (hfirst : VariableStore.set attemptsVariable attempts vars = (.ok (), between))
    (hsecond : VariableStore.set defaultsVariable defaults between = (.ok (), vars')) :
    save store vars = (.ok (), vars') := by
  simp only [save, hencode, hfirst, hsecond]
  rfl

lemma WritesSucceed.save_ok {store : AttemptStore} {vars : S} (succeed : store.WritesSucceed vars)
    {images : Bytes × Bytes} (h : store.encode = .ok images) : (save store vars).1 = .ok () := by
  obtain ⟨defaults, attempts⟩ := images
  obtain ⟨hfirst, hsecond⟩ := succeed defaults attempts h
  unfold save
  rcases hset : VariableStore.set attemptsVariable attempts vars with ⟨answer, between⟩
  rw [hset] at hfirst hsecond
  simp only at hfirst hsecond
  simp only [h, hset, hfirst, hsecond]
  rfl

/-- Records that can be read load as the store that they describe. -/
lemma load_of_stored {vars : S} {raw raw' : Bytes} {defaults : HostDefaults} {attempts : List Attempt}
    (hget : VariableStore.get defaultsVariable vars = .ok (some raw)) (hdecode : HostDefaults.decode raw = .ok defaults)
    (hget' : VariableStore.get attemptsVariable vars = .ok (some raw'))
    (hdecode' : Attempt.decodeSet raw' = .ok attempts) (wellnamed : Wellnamed attempts) (freshId : Uuid) :
    load freshId vars = .ok (recount { defaults, attempts }) := by
  have hcheck : checkStored [] attempts = .ok () := checkStored_eq_ok_iff.mpr ⟨wellnamed, by simp⟩
  simp only [load, hget, hdecode, hget', hdecode', hcheck, Except.mapError, bind, Except.bind, pure, Except.pure]

/-- Without stored defaults nothing counts as stored. -/
lemma load_of_absent {vars : S} (hget : VariableStore.get defaultsVariable vars = .ok none) (freshId : Uuid) :
    load freshId vars = .ok (fresh freshId) := by
  simp only [load, hget, Except.mapError, bind, Except.bind, pure, Except.pure]

/-- The variables hold the records of a store, or were never written. -/
def Holds (vars : S) : Option AttemptStore → Prop
  | none => VariableStore.get defaultsVariable vars = .ok none ∧ VariableStore.get attemptsVariable vars = .ok none
  | some store => ∃ defaults attempts, store.encode = .ok (defaults, attempts) ∧
      VariableStore.get defaultsVariable vars = .ok (some defaults) ∧
      VariableStore.get attemptsVariable vars = .ok (some attempts)

lemma holds_save [LawfulVariableStore S] {store : AttemptStore} {vars vars' : S}
    (h : save store vars = (.ok (), vars')) : Holds vars' (some store) := by
  obtain ⟨defaults, attempts, between, hencode, hfirst, hsecond⟩ := save_eq_ok h
  have hkept := LawfulVariableStore.get_set_of_ne hsecond (show attemptsVariable ≠ defaultsVariable by decide)
  exact ⟨defaults, attempts, hencode, LawfulVariableStore.get_set hsecond,
    hkept.trans (LawfulVariableStore.get_set hfirst)⟩

lemma Holds.congr {vars vars' : S} {stored : Option AttemptStore} (holds : Holds vars stored)
    (hsame : ∀ name, VariableStore.get name vars' = VariableStore.get name vars) : Holds vars' stored := by
  cases stored with
  | none => exact ⟨(hsame _).trans holds.1, (hsame _).trans holds.2⟩
  | some store =>
    obtain ⟨defaults, attempts, hencode, hdefaults, hattempts⟩ := holds
    exact ⟨defaults, attempts, hencode, (hsame _).trans hdefaults, (hsame _).trans hattempts⟩

/-- What is held loads as the store that it is of. -/
lemma Holds.load {vars : S} {stored : Option AttemptStore} (holds : Holds vars stored)
    (sound : ∀ store ∈ stored, store.Sound) (freshId : Uuid) :
    AttemptStore.load freshId vars = .ok (stored.getD (fresh freshId)) := by
  cases stored with
  | none => exact load_of_absent holds.1 freshId
  | some store =>
    obtain ⟨defaults, attempts, hencode, hget, hget'⟩ := holds
    obtain ⟨hdefaults, hattempts⟩ := encode_eq_ok_iff.mp hencode
    have hsound : store.Sound := sound store rfl
    rw [load_of_stored hget (HostDefaults.decode_encode hdefaults) hget' (Attempt.decodeSet_encodeSet hattempts)
      hsound.toWellnamed freshId]
    exact congrArg Except.ok hsound.recount_eq

/-- Saving a store where the writes succeed succeeds exactly when its attempts can be counted and its defaults fit: no
attempt stands in the way. After a save that succeeded the store loads again. One that fails in encoding asks for no
write. -/
theorem saved_store_loads [LawfulVariableStore S] {store : AttemptStore} (reachable : Reachable store) (vars : S)
    (freshId : Uuid) :
    (store.WritesSucceed vars →
      ((save store vars).1 = .ok () ↔ store.attempts.length ≤ Limits.setCount ∧
        Fits Limits.nqn store.defaults.hostNqn ∧ Fits Limits.keyPath store.defaults.credentialPath)) ∧
    ((save store vars).1 = .ok () → load freshId (save store vars).2 = .ok store) ∧
    ∀ error, store.encode = .error error → ∀ writes,
      save store (LoggedVariables.mk vars writes) = (.error error, LoggedVariables.mk vars writes) := by
  have sound := reachable.sound
  refine ⟨fun succeed => ?_, fun h => ?_, fun error h writes => save_of_error h _⟩
  · have hfits : store.defaults.Storable ↔
        Fits Limits.nqn store.defaults.hostNqn ∧ Fits Limits.keyPath store.defaults.credentialPath :=
      ⟨fun storable => ⟨storable.hostNqn, storable.credentialPath⟩, fun fits => ⟨fits.1, fits.2⟩⟩
    rw [← hfits, ← sound.encodes_iff]
    constructor
    · intro h
      obtain ⟨defaults, attempts, -, hencode, -⟩ := save_eq_ok (Prod.ext h rfl : save store vars = (.ok (), _))
      exact ⟨_, hencode⟩
    · rintro ⟨images, hencode⟩
      exact succeed.save_ok hencode
  · have holds : Holds (save store vars).2 (some store) := holds_save (Prod.ext h rfl)
    exact holds.load (by rintro _ ⟨⟩; exact sound) freshId

/-- A store with one attempt and a host name of its own. -/
def bootStore : AttemptStore where
  defaults := { enabled := true, targetCount := 1, hostNqn := "nqn.2014-08.org.example:host" }
  attempts := [{ name := "boot0", enabled := true, targetAddress := "192.168.100.29", subsystemNqn := "nvmet-test" }]

lemma bootStore_reachable : Reachable bootStore := by
  have hadd : (fresh .nil).add
      { name := "boot0", enabled := true, targetAddress := "192.168.100.29", subsystemNqn := "nvmet-test" } =
      .ok { bootStore with defaults := { enabled := true, targetCount := 1 } } := by decide +kernel
  exact .changed (fun defaults => { defaults with hostNqn := "nqn.2014-08.org.example:host" }) (.added (.fresh .nil) hadd)

theorem saved_store_loads_boot : Reachable bootStore ∧ (save bootStore ({} : MemoryVariables)).1 = .ok () ∧
    load .nil (save bootStore ({} : MemoryVariables)).2 = .ok bootStore := by
  have hall := saved_store_loads bootStore_reachable ({} : MemoryVariables) .nil
  have hsaved : (save bootStore ({} : MemoryVariables)).1 = .ok () :=
    (hall.1 fun _ _ _ => ⟨rfl, rfl⟩).mpr (by decide +kernel)
  exact ⟨bootStore_reachable, hsaved, hall.2.1 hsaved⟩

end FabricHost.AttemptStore
