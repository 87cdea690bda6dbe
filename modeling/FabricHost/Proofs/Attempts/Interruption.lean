import FabricHost.Proofs.Attempts.Saving

/-!
# Saves that are interrupted

A save writes the attempts and then the defaults. When one of the two writes fails and leaves the variables alone, what
loads next was written as a whole: the store of the save before, or the attempts of this save under the defaults of the
one before, whose count follows. Without defaults from before there is a fresh store.
-/

namespace FabricHost

/-- A write that fails with an error, after which every variable reads as before. -/
structure VariableError.Spares {S : Type} [VariableStore S] (error : VariableError) (name : String) (value : Bytes)
    (vars vars' : S) : Prop where
  failed : VariableStore.set name value vars = (.error error, vars')
  kept : ∀ other, VariableStore.get other vars' = VariableStore.get other vars

namespace Directory

/-- In a directory a failed write leaves at most a temporary file behind. -/
lemma spares_of_error {error : VariableError} {name : String} {value : Bytes} {d d' : Directory}
    (h : VariableStore.set name value d = (.error error, d')) : error.Spares name value d d' := by
  refine ⟨h, fun other => ?_⟩
  change d.setVariable name value = _ at h
  change d'.getVariable other = d.getVariable other
  unfold setVariable at h
  split at h
  · rcases hwrite : d.write (temporaryFileOf name) value with ⟨_ | ⟨⟩, written⟩
    · rw [hwrite] at h
      cases h
      rw [write_eq_error hwrite]
    · rcases hrename : written.rename (temporaryFileOf name) (fileOf name) with ⟨_ | ⟨⟩, renamed⟩
      · simp only [hwrite, hrename] at h
        cases h
        rw [rename_eq_error hrename, write_eq_ok hwrite]
        exact d.getVariable_insert_temporary name _ other
      · simp only [hwrite, hrename] at h
        cases h
  · cases h
    rfl

end Directory

namespace AttemptStore

variable {S : Type} [VariableStore S]

/-- A count that fits is the number of attempts. -/
lemma recount_of_le {store : AttemptStore} (h : store.attempts.length ≤ Limits.setCount) : store.recount =
    { store with defaults := { store.defaults with targetCount := UInt16.ofNat store.attempts.length } } := by
  rw [recount, Nat.min_eq_left h]

/-- New attempts load with the defaults from before. -/
lemma Holds.load_attempts [LawfulVariableStore S] {vars between : S} {stored : Option AttemptStore}
    (holds : Holds vars stored) {store : AttemptStore} (sound : store.Sound) {attempts : Bytes}
    (hencode : Attempt.encodeSet store.attempts = .ok attempts)
    (hset : VariableStore.set attemptsVariable attempts vars = (.ok (), between)) (freshId : Uuid) :
    AttemptStore.load freshId between = .ok (match stored with
      | none => fresh freshId
      | some old => recount { old with attempts := store.attempts }) := by
  have hkept := LawfulVariableStore.get_set_of_ne hset (show defaultsVariable ≠ attemptsVariable by decide)
  cases stored with
  | none => exact load_of_absent (hkept.trans holds.1) freshId
  | some old =>
    obtain ⟨defaults, _, hold, hget, -⟩ := holds
    have hdefaults := HostDefaults.decode_encode (encode_eq_ok_iff.mp hold).1
    exact load_of_stored (hkept.trans hget) hdefaults (LawfulVariableStore.get_set hset)
      (Attempt.decodeSet_encodeSet hencode) sound.toWellnamed freshId

/-- After a save that could not write the attempts, the store from before loads. After one that could not write the
defaults, its attempts load with the defaults from before, whose count is theirs. In both cases a fresh store loads where
nothing was stored before. -/
theorem interrupted_save_loads [LawfulVariableStore S] {stored : Option AttemptStore}
    (hstored : ∀ old ∈ stored, Reachable old) {store : AttemptStore} (reachable : Reachable store) {vars : S}
    (holds : Holds vars stored) {defaults attempts : Bytes} (hencode : store.encode = .ok (defaults, attempts))
    (freshId : Uuid) :
    (∀ (error : VariableError) (after : S), error.Spares attemptsVariable attempts vars after →
      save store vars = (.error (.storage error), after) ∧ load freshId after = .ok (stored.getD (fresh freshId))) ∧
    ∀ (between : S) (error : VariableError) (after : S),
      VariableStore.set attemptsVariable attempts vars = (.ok (), between) →
      error.Spares defaultsVariable defaults between after →
        save store vars = (.error (.storage error), after) ∧
          load freshId after = .ok (match stored with
            | none => fresh freshId
            | some old => {
                defaults := { old.defaults with targetCount := UInt16.ofNat store.attempts.length }
                attempts := store.attempts }) := by
  have sound : ∀ old ∈ stored, old.Sound := fun old hold => (hstored old hold).sound
  have hcount : store.attempts.length ≤ Limits.setCount := (reachable.sound.encodes_iff.mp ⟨_, hencode⟩).1
  constructor
  · intro error after spares
    constructor
    · simp only [save, hencode, spares.failed]
    · exact (holds.congr spares.kept).load sound freshId
  · intro between error after hset spares
    constructor
    · simp only [save, hencode, hset, spares.failed, Except.mapError]
    · have hload := holds.load_attempts reachable.sound (encode_eq_ok_iff.mp hencode).2 hset freshId
      have hsame : load freshId after = load freshId between := by
        simp only [load, spares.kept]
      rw [hsame, hload]
      cases stored with
      | none => rfl
      | some old => exact congrArg Except.ok (recount_of_le hcount)

lemma attemptsVariable_valid : Directory.ValidName attemptsVariable := ⟨by decide, List.all_eq_true.mp (by decide)⟩

lemma defaultsVariable_valid : Directory.ValidName defaultsVariable := ⟨by decide, List.all_eq_true.mp (by decide)⟩

/-- The boot store under another host name, with one attempt more. -/
def grownStore : AttemptStore where
  defaults := { enabled := true, targetCount := 2, hostNqn := "nqn.2014-08.org.example:other" }
  attempts := bootStore.attempts ++
    [{ name := "boot1", enabled := true, targetAddress := "192.168.100.30", subsystemNqn := "nvmet-test" }]

/-- A directory in which the boot store was saved, with a folder in the way of new defaults. -/
def blockedDirectory : Directory := (save bootStore ({} : Directory)).2.block defaultsVariable

lemma bootStore_saved : ∃ saved : Directory, save bootStore ({} : Directory) = (.ok (), saved) ∧
    Directory.Clear attemptsVariable saved := by
  obtain ⟨⟨defaults, attempts⟩, hencode⟩ :=
    bootStore_reachable.sound.encodes_iff.mpr ⟨by decide, by decide +kernel, by decide +kernel⟩
  have hattempts : Directory.Clear attemptsVariable {} := Directory.clear_empty attemptsVariable_valid (by decide)
  have hdefaults : Directory.Clear defaultsVariable {} := Directory.clear_empty defaultsVariable_valid (by decide)
  obtain ⟨between, hfirst⟩ := hattempts.set attempts
  obtain ⟨saved, hsecond⟩ := (hdefaults.after hfirst).set defaults
  exact ⟨saved, save_of_writes hencode hfirst hsecond, (hattempts.after hfirst).after hsecond⟩

theorem interrupted_save_loads_boot :
    Reachable bootStore ∧ Reachable grownStore ∧ Holds blockedDirectory (some bootStore) ∧
      (save grownStore blockedDirectory).1 = .error (.storage (.io (Directory.fileOf defaultsVariable))) ∧
      load .nil (save grownStore blockedDirectory).2 = .ok {
        defaults := { bootStore.defaults with targetCount := 2 }
        attempts := grownStore.attempts } := by
  have hadd : bootStore.add
      { name := "boot1", enabled := true, targetAddress := "192.168.100.30", subsystemNqn := "nvmet-test" } =
      .ok { grownStore with defaults := { bootStore.defaults with targetCount := 2 } } := by decide +kernel
  have hgrown : Reachable grownStore :=
    .changed (fun defaults => { defaults with hostNqn := "nqn.2014-08.org.example:other" })
      (.added bootStore_reachable hadd)
  obtain ⟨saved, hsaved, hclear⟩ := bootStore_saved
  have hblocked : blockedDirectory = saved.block defaultsVariable := by rw [blockedDirectory, hsaved]
  have holds : Holds (saved.block defaultsVariable) (some bootStore) :=
    (holds_save hsaved).congr (saved.getVariable_insert_temporary defaultsVariable .folder)
  have hne : Directory.temporaryFileOf attemptsVariable ≠ Directory.temporaryFileOf defaultsVariable := by decide
  obtain ⟨⟨defaults, attempts⟩, hencode⟩ :=
    hgrown.sound.encodes_iff.mpr ⟨by decide, by decide +kernel, by decide +kernel⟩
  obtain ⟨between, hfirst⟩ := (hclear.block hne).set attempts
  have hfolder := (Directory.entries_setVariable_of_ne hfirst (Directory.fileOf_ne_temporaryFileOf _ _).symm
    hne.symm).trans (Directory.entries_block defaultsVariable saved)
  have hspares := Directory.spares_of_error (Directory.set_blocked defaultsVariable_valid hfolder defaults)
  obtain ⟨hsave, hload⟩ := (interrupted_save_loads (by rintro _ ⟨⟩; exact bootStore_reachable) hgrown holds hencode
    .nil).2 _ _ _ hfirst hspares
  rw [hblocked, hsave]
  exact ⟨bootStore_reachable, hgrown, holds, rfl, hload⟩

end AttemptStore

end FabricHost
