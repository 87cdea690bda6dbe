import FabricHost.Proofs.Variables.Laws
import Mathlib.Data.Set.Defs

/-!
# Files hold what memory would

Calls on variables get the same answers from a directory as from memory, as long as nothing is in the way of the variables
they are about: the two hold the same values before and after every call, and a directory that is opened again is the one
that was left. No file of one variable is a file of another. A name that cannot be a file is refused before any file is
looked at, and a write whose rename fails leaves every variable at its value, so that the calls after it go on in step.
-/

namespace FabricHost

/-- What is asked of a place that keeps variables. -/
inductive VariableCall where
  | get (name : String)
  | set (name : String) (value : Bytes)
  | remove (name : String)
  | reopen

/-- Whether a call is about one of these variables, if it is about any. -/
def VariableCall.Within (names : Set String) : VariableCall → Prop
  | get name => name ∈ names
  | set name _ => name ∈ names
  | remove name => name ∈ names
  | reopen => True

lemma VariableCall.Within.mono {names names' : Set String} {call : VariableCall} (within : call.Within names)
    (h : names ⊆ names') : call.Within names' := by
  cases call with
  | get name => exact h within
  | set name value => exact h within
  | remove name => exact h within
  | reopen => trivial

inductive VariableAnswer where
  | value (result : Except VariableError (Option Bytes))
  | done (result : Except VariableError Unit)
  | opened

/-- A place that can be left and opened again. -/
class Reopened (S : Type) where
  /-- What is found where `store` was left. -/
  reopen : (store : S) → S

/-- Memory is not left as long as it lasts. -/
instance : Reopened MemoryVariables where
  reopen := id

/-- Opens the directory at a path, of which `found` is what stands there. A directory that is there is taken with all its
files; where none is, one is made. -/
def Directory.openAt (found : Option Directory) : Directory := found.getD {}

/-- Of a directory nothing is kept but its path, where it is found again. -/
instance : Reopened Directory where
  reopen d := Directory.openAt (some d)

section

variable {S : Type} [VariableStore S] [Reopened S]

/-- Answers a call, and gives the place after it. -/
def VariableCall.perform (store : S) : VariableCall → VariableAnswer × S
  | get name => (.value (VariableStore.get name store), store)
  | set name value => (VariableStore.set name value store).map .done id
  | remove name => (VariableStore.remove name store).map .done id
  | reopen => (.opened, Reopened.reopen store)

/-- Answers calls one after the other. -/
def VariableCall.run (store : S) : List VariableCall → List VariableAnswer × S
  | [] => ([], store)
  | call :: rest =>
    let (answer, store) := call.perform store
    let (answers, store) := VariableCall.run store rest
    (answer :: answers, store)

end

/-- A variable that was deleted is as if it were never written, and the others hold what they held. -/
class LawfulRemoval (S : Type) [VariableStore S] : Prop where
  get_remove : ∀ {name : String} {store store' : S},
    VariableStore.remove name store = (.ok (), store') → VariableStore.get name store' = .ok none
  get_remove_of_ne : ∀ {name other : String} {store store' : S},
    VariableStore.remove name store = (.ok (), store') → other ≠ name →
      VariableStore.get other store' = VariableStore.get other store

instance : LawfulRemoval MemoryVariables where
  get_remove h := by
    cases h
    simp [VariableStore.get]
  get_remove_of_ne {name other store store'} h hne := by
    cases h
    simp only [VariableStore.get]
    rw [getElem?_erase_of_ne hne]

namespace Directory

variable {name other : String} {value : Bytes} {d d' : Directory}

lemma temporaryFileOf_ne (h : other ≠ name) : temporaryFileOf other ≠ temporaryFileOf name := by
  intro heq
  apply h
  have hlist := congrArg String.toList heq
  simp only [temporaryFileOf, String.toList_append] at hlist
  exact String.toList_injective (List.append_cancel_right hlist)

/-- A removal that succeeds leaves no file of the variable, and touches no other one. -/
lemma removeVariable_eq_ok (h : d.removeVariable name = (.ok (), d')) :
    ValidName name ∧ (fileOf name).utf8ByteSize ≤ d.nameLimit ∧ d'.nameLimit = d.nameLimit ∧
      d'.entries[fileOf name]? = none ∧ ∀ file, file ≠ fileOf name → d'.entries[file]? = d.entries[file]? := by
  unfold removeVariable at h
  by_cases hname : ValidName name
  · rw [if_pos hname] at h
    unfold delete at h
    by_cases hlimit : d.nameLimit < (fileOf name).utf8ByteSize
    · rw [if_pos hlimit] at h
      cases h
    · rw [if_neg hlimit] at h
      have hfits := Nat.le_of_not_lt hlimit
      rcases hentry : d.entries[fileOf name]? with _ | _ | _
      · simp only [hentry] at h
        cases h
        exact ⟨hname, hfits, rfl, hentry, fun _ _ => rfl⟩
      · simp only [hentry] at h
        cases h
        exact ⟨hname, hfits, rfl, Std.ExtTreeMap.getElem?_erase_self, fun file hfile => getElem?_erase_of_ne hfile _⟩
      · simp only [hentry] at h
        cases h
  · rw [if_neg hname] at h
    cases h

instance : LawfulRemoval Directory where
  get_remove {name d d'} h := by
    obtain ⟨hname, hlimit, hsame, hgone, -⟩ := removeVariable_eq_ok h
    have hread : d'.read (fileOf name) = .error .missing := by
      rw [read, hsame, if_neg (Nat.not_lt_of_le hlimit), hgone]
    change getVariable name d' = _
    rw [getVariable, if_pos hname, hread]
  get_remove_of_ne h hne := by
    obtain ⟨-, -, hsame, -, hkept⟩ := removeVariable_eq_ok h
    exact getVariable_congr hsame (hkept _ (fileOf_ne hne))

/-- What nothing is in the way of can be deleted, whether it is there or not. -/
lemma Clear.remove (clear : Clear name d) : ∃ d', VariableStore.remove name d = (.ok (), d') := by
  have hlimit := Nat.not_lt_of_le clear.fileOf_le
  change ∃ d', d.removeVariable name = (.ok (), d')
  unfold removeVariable delete
  rw [if_pos clear.valid, if_neg hlimit]
  rcases hentry : d.entries[fileOf name]? with _ | _ | _
  · exact ⟨_, rfl⟩
  · exact ⟨_, rfl⟩
  · exact absurd hentry clear.file

/-- No removal puts a folder in the way. -/
lemma Clear.after_remove (clear : Clear other d) (h : VariableStore.remove name d = (.ok (), d')) : Clear other d' := by
  obtain ⟨-, -, hlimit, hgone, hkept⟩ := removeVariable_eq_ok h
  have hfolder : ∀ file : String, d.entries[file]? ≠ some DirectoryEntry.folder →
      d'.entries[file]? ≠ some DirectoryEntry.folder := by
    intro file hd
    by_cases hfile : file = fileOf name
    · rw [hfile, hgone]
      nofun
    · rwa [hkept file hfile]
  exact ⟨clear.valid, hlimit ▸ clear.limit, hfolder _ clear.file, hfolder _ clear.temporary⟩

/-- Nothing is in the way of these variables, and they hold in the directory what they hold in memory. -/
structure Mirrors (names : Set String) (d : Directory) (memory : MemoryVariables) : Prop where
  clear : ∀ name ∈ names, Clear name d
  same : ∀ name ∈ names, VariableStore.get name d = VariableStore.get name memory

variable {names : Set String} {memory memory' : MemoryVariables}

/-- A call that leaves one variable alike in both places, and the others as they were, leaves the places alike. -/
lemma Mirrors.moved (mirrors : Mirrors names d memory) (name : String)
    (hclear : ∀ other ∈ names, Clear other d → Clear other d')
    (hthis : VariableStore.get name d' = VariableStore.get name memory')
    (hfiles : ∀ other, other ≠ name → VariableStore.get other d' = VariableStore.get other d)
    (hmemory : ∀ other, other ≠ name → VariableStore.get other memory' = VariableStore.get other memory) :
    Mirrors names d' memory' where
  clear other hother := hclear other hother (mirrors.clear other hother)
  same other hother := by
    by_cases hne : other = name
    · rw [hne, hthis]
    · rw [hfiles other hne, hmemory other hne, mirrors.same other hother]

/-- One call, answered alike. -/
lemma Mirrors.perform (mirrors : Mirrors names d memory) {call : VariableCall} (within : call.Within names) :
    (call.perform d).1 = (call.perform memory).1 ∧ Mirrors names (call.perform d).2 (call.perform memory).2 := by
  cases call with
  | get name => exact ⟨congrArg VariableAnswer.value (mirrors.same name within), mirrors⟩
  | set name value =>
    obtain ⟨d', hset⟩ := (mirrors.clear name within).set value
    have hmemory : VariableStore.set name value memory = (.ok (), (VariableStore.set name value memory).2) := rfl
    simp only [VariableCall.perform, hset]
    refine ⟨rfl, mirrors.moved name ?_ ?_ ?_ ?_⟩
    · exact fun other _ clear => clear.after hset
    · exact (LawfulVariableStore.get_set hset).trans (LawfulVariableStore.get_set hmemory).symm
    · exact fun other hne => LawfulVariableStore.get_set_of_ne hset hne
    · exact fun other hne => LawfulVariableStore.get_set_of_ne hmemory hne
  | remove name =>
    obtain ⟨d', hremove⟩ := (mirrors.clear name within).remove
    have hmemory : VariableStore.remove name memory = (.ok (), (VariableStore.remove name memory).2) := rfl
    simp only [VariableCall.perform, hremove]
    refine ⟨rfl, mirrors.moved name ?_ ?_ ?_ ?_⟩
    · exact fun other _ clear => clear.after_remove hremove
    · exact (LawfulRemoval.get_remove hremove).trans (LawfulRemoval.get_remove hmemory).symm
    · exact fun other hne => LawfulRemoval.get_remove_of_ne hremove hne
    · exact fun other hne => LawfulRemoval.get_remove_of_ne hmemory hne
  | reopen => exact ⟨rfl, mirrors⟩

/-- Calls one after the other, answered alike. -/
lemma Mirrors.run (mirrors : Mirrors names d memory) {calls : List VariableCall}
    (within : ∀ call ∈ calls, call.Within names) :
    (VariableCall.run d calls).1 = (VariableCall.run memory calls).1 ∧
      Mirrors names (VariableCall.run d calls).2 (VariableCall.run memory calls).2 := by
  induction calls generalizing d memory with
  | nil => exact ⟨rfl, mirrors⟩
  | cons call rest ih =>
    rw [List.forall_mem_cons] at within
    obtain ⟨hanswer, hafter⟩ := mirrors.perform within.1
    obtain ⟨hanswers, hlast⟩ := ih hafter within.2
    refine ⟨?_, hlast⟩
    simp only [VariableCall.run]
    rw [hanswer, hanswers]

/-- Writes a variable with a rename that is given, and may fail where the directory's own would not. -/
def setVariableBy (rename : String → String → Directory → Except Fault Unit × Directory) (name : String) (value : Bytes)
    (d : Directory) : Except VariableError Unit × Directory :=
  if ValidName name then
    match d.write (temporaryFileOf name) value with
    | (.error _, d) => (.error (.io (fileOf name)), d)
    | (.ok (), d) =>
      match rename (temporaryFileOf name) (fileOf name) d with
      | (.error _, d) => (.error (.io (fileOf name)), d)
      | (.ok (), d) => (.ok (), d)
  else (.error (.invalidName name), d)

/-- A write of a variable that gets as far as its rename, which fails and changes nothing. -/
structure Interrupted (rename : String → String → Directory → Except Fault Unit × Directory) (name : String)
    (value : Bytes) (d written : Directory) (fault : Fault) : Prop where
  valid : ValidName name
  write_eq : d.write (temporaryFileOf name) value = (.ok (), written)
  rename_eq : rename (temporaryFileOf name) (fileOf name) written = (.error fault, written)

section

variable {move : String → String → Directory → Except Fault Unit × Directory} {written : Directory} {fault : Fault}
  (interrupted : Interrupted move name value d written fault)
include interrupted

lemma Interrupted.set_eq : setVariableBy move name value d = (.error (.io (fileOf name)), written) := by
  simp only [setVariableBy, if_pos interrupted.valid, interrupted.write_eq, interrupted.rename_eq]

lemma Interrupted.getVariable_eq (other : String) : written.getVariable other = d.getVariable other := by
  rw [write_eq_ok interrupted.write_eq]
  exact d.getVariable_insert_temporary name _ other

lemma Interrupted.clear (clear : Clear other d) : Clear other written := by
  rw [write_eq_ok interrupted.write_eq]
  refine ⟨clear.valid, clear.limit, ?_, ?_⟩
  · rw [getElem?_insert_of_ne (fileOf_ne_temporaryFileOf name other)]
    exact clear.file
  · rw [Std.ExtTreeMap.getElem?_insert]
    split
    · nofun
    · exact clear.temporary

lemma Interrupted.mirrors (mirrors : Mirrors names d memory) : Mirrors names written memory where
  clear other hother := interrupted.clear (mirrors.clear other hother)
  same other hother := (interrupted.getVariable_eq other).trans (mirrors.same other hother)

end

/-- The names whose files, the temporary ones too, have names of at most so many bytes. -/
def namesUpTo (limit : Nat) : Set String := {name | ValidName name ∧ (temporaryFileOf name).utf8ByteSize ≤ limit}

lemma namesUpTo_mono {limit limit' : Nat} (h : limit ≤ limit') : namesUpTo limit ⊆ namesUpTo limit' :=
  fun _ hname => ⟨hname.1, Nat.le_trans hname.2 h⟩

/-- A directory that takes long enough file names takes those of a call. -/
lemma exists_namesUpTo {call : VariableCall} (within : call.Within {name | ValidName name}) :
    ∃ limit, call.Within (namesUpTo limit) := by
  cases call with
  | get name => exact ⟨_, within, Nat.le_refl _⟩
  | set name value => exact ⟨_, within, Nat.le_refl _⟩
  | remove name => exact ⟨_, within, Nat.le_refl _⟩
  | reopen => exact ⟨0, trivial⟩

/-- The longest file name of all calls bounds the others. -/
lemma exists_within_namesUpTo {calls : List VariableCall} (h : ∀ call ∈ calls, call.Within {name | ValidName name}) :
    ∃ limit, ∀ call ∈ calls, call.Within (namesUpTo limit) := by
  induction calls with
  | nil => exact ⟨0, by simp⟩
  | cons call rest ih =>
    rw [List.forall_mem_cons] at h
    obtain ⟨size, hcall⟩ := exists_namesUpTo h.1
    obtain ⟨limit, hrest⟩ := ih h.2
    refine ⟨max size limit, List.forall_mem_cons.mpr ⟨?_, fun later hlater => ?_⟩⟩
    · exact hcall.mono (namesUpTo_mono (Nat.le_max_left size limit))
    · exact (hrest later hlater).mono (namesUpTo_mono (Nat.le_max_right size limit))

/-- An empty directory mirrors empty memory, as far as its names go. -/
lemma mirrors_empty (limit : Nat) : Mirrors (namesUpTo limit) { nameLimit := limit } {} where
  clear name h := ⟨h.1, h.2, by simp, by simp⟩
  same name h := by
    have hclear : Clear name { nameLimit := limit } := ⟨h.1, h.2, by simp, by simp⟩
    have hread : ({ nameLimit := limit } : Directory).read (fileOf name) = .error .missing := by
      simp only [read, if_neg (Nat.not_lt_of_le hclear.fileOf_le), Std.ExtTreeMap.getElem?_empty]
    change getVariable name _ = _
    rw [getVariable, if_pos h.1, hread]
    simp [VariableStore.get]

/-- The files of different variables are different files, the temporary ones too. -/
lemma files_apart (h : other ≠ name) : fileOf other ≠ fileOf name ∧ temporaryFileOf other ≠ fileOf name ∧
    temporaryFileOf other ≠ temporaryFileOf name :=
  ⟨fileOf_ne h, (fileOf_ne_temporaryFileOf other name).symm, temporaryFileOf_ne h⟩

/-- A name that cannot be a file is refused, whatever there is in the directory, and nothing in it changes. -/
lemma refused_of_not_validName (hname : ¬ValidName name) (value : Bytes) (d : Directory) :
    VariableStore.get name d = .error (.invalidName name) ∧
      VariableStore.set name value d = (.error (.invalidName name), d) ∧
      VariableStore.remove name d = (.error (.invalidName name), d) :=
  ⟨if_neg hname, if_neg hname, if_neg hname⟩

/-- Wherever a directory and memory hold the same, as an empty directory and empty memory do, they give the same answers to
calls on names that nothing is in the way of, and hold the same afterwards. For calls on any names that can be files there
is an empty directory that takes them all. Different variables have different files. Names that cannot be files are
refused without looking at any file. A write whose rename fails changes no variable, and the directory still mirrors what
it mirrored. -/
theorem files_refine_memory :
    (∀ {names : Set String} {d : Directory} {memory : MemoryVariables}, Mirrors names d memory →
      ∀ calls : List VariableCall, (∀ call ∈ calls, call.Within names) →
        (VariableCall.run d calls).1 = (VariableCall.run memory calls).1 ∧
          Mirrors names (VariableCall.run d calls).2 (VariableCall.run memory calls).2) ∧
    (∀ limit, Mirrors (namesUpTo limit) { nameLimit := limit } {}) ∧
    (∀ {calls : List VariableCall}, (∀ call ∈ calls, call.Within {name | ValidName name}) →
      ∃ limit, ∀ call ∈ calls, call.Within (namesUpTo limit)) ∧
    (∀ {name other : String}, other ≠ name → fileOf other ≠ fileOf name ∧ temporaryFileOf other ≠ fileOf name ∧
      temporaryFileOf other ≠ temporaryFileOf name) ∧
    (∀ {name : String}, ¬ValidName name → ∀ value (d : Directory),
      VariableStore.get name d = .error (.invalidName name) ∧
      VariableStore.set name value d = (.error (.invalidName name), d) ∧
      VariableStore.remove name d = (.error (.invalidName name), d)) ∧
    (∀ name value d, setVariableBy rename name value d = VariableStore.set name value d) ∧
    ∀ {move name value d written fault}, Interrupted move name value d written fault →
      setVariableBy move name value d = (.error (.io (fileOf name)), written) ∧
      (∀ other, VariableStore.get other written = VariableStore.get other d) ∧
      ∀ {names memory}, Mirrors names d memory → Mirrors names written memory := by
  refine ⟨?_, mirrors_empty, exists_within_namesUpTo, files_apart, refused_of_not_validName, fun _ _ _ => rfl, ?_⟩
  · intro names d memory mirrors calls within
    exact mirrors.run within
  · intro move name value d written fault interrupted
    exact ⟨interrupted.set_eq, interrupted.getVariable_eq, interrupted.mirrors⟩

/-- Two variables are written, one of them is deleted twice, and the directory is opened again in between. -/
def bootCalls : List VariableCall :=
  [.get "boot", .set "boot" [1, 2, 3], .reopen, .get "boot", .set "disk-1" [4], .remove "boot", .remove "boot",
    .get "boot", .get "disk-1"]

theorem files_refine_memory_boot :
    (∀ call ∈ bootCalls, call.Within (namesUpTo 255)) ∧
    (VariableCall.run ({} : Directory) bootCalls).1 =
      [.value (.ok none), .done (.ok ()), .opened, .value (.ok (some [1, 2, 3])), .done (.ok ()), .done (.ok ()),
        .done (.ok ()), .value (.ok none), .value (.ok (some [4]))] ∧
    temporaryFileOf "boot" ≠ fileOf "disk-1" ∧
    VariableStore.set "../boot" [1] ({} : Directory) = (.error (.invalidName "../boot"), {}) ∧
    ∃ written, setVariableBy (fun _ _ d => (.error .refused, d)) "boot" [1, 2, 3] {} = (.error (.io "boot.var"), written) ∧
      Mirrors (namesUpTo 255) written {} := by
  obtain ⟨hrun, hempty, -, hapart, hrefused, -, hinterrupted⟩ := files_refine_memory
  have hboot : "boot" ∈ namesUpTo 255 := ⟨⟨by decide, List.all_eq_true.mp (by decide)⟩, by decide⟩
  have hdisk : "disk-1" ∈ namesUpTo 255 := ⟨⟨by decide, List.all_eq_true.mp (by decide)⟩, by decide⟩
  have within : ∀ call ∈ bootCalls, call.Within (namesUpTo 255) := by
    simp [bootCalls, VariableCall.Within, hboot, hdisk]
  have hinvalid : ¬ValidName "../boot" := fun valid => absurd (List.all_eq_true.mpr valid.2) (by decide)
  have interrupted : Interrupted (fun _ _ d => (.error .refused, d)) "boot" [1, 2, 3] {}
      { entries := (∅ : Std.ExtTreeMap String DirectoryEntry).insert "boot.var.tmp" (.file [1, 2, 3]) } .refused :=
    ⟨hboot.1, rfl, rfl⟩
  obtain ⟨hset, -, hmirrors⟩ := hinterrupted interrupted
  exact ⟨within, (hrun (hempty 255) bootCalls within).1, (hapart (by decide)).2.1, (hrefused hinvalid [1] {}).2.1,
    _, hset, hmirrors (hempty 255)⟩

end Directory

end FabricHost
