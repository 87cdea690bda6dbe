import FabricHost.Variables.Directory
import Mathlib.Tactic.Lemma

/-!
# Laws of variables

A successful write is what later reads see, and no other variable changes with it. Both laws hold in memory and in a
directory, where the files of different variables and the temporary ones are different files. There a variable is written
unless something is in the way of its files, and a write that fails leaves at most a temporary file behind.
-/

namespace FabricHost

/-- A variable that was written holds what was written, and the others hold what they held. -/
class LawfulVariableStore (S : Type) [VariableStore S] : Prop where
  get_set : ∀ {name : String} {value : Bytes} {store store' : S},
    VariableStore.set name value store = (.ok (), store') → VariableStore.get name store' = .ok (some value)
  get_set_of_ne : ∀ {name other : String} {value : Bytes} {store store' : S},
    VariableStore.set name value store = (.ok (), store') → other ≠ name →
      VariableStore.get other store' = VariableStore.get other store

lemma getElem?_insert_of_ne {β : Type} {name other : String} (h : other ≠ name) (entries : Std.ExtTreeMap String β)
    (value : β) : (entries.insert name value)[other]? = entries[other]? := by
  rw [Std.ExtTreeMap.getElem?_insert, if_neg]
  intro heq
  exact h (Std.LawfulEqCmp.eq_of_compare heq).symm

lemma getElem?_erase_of_ne {β : Type} {name other : String} (h : other ≠ name) (entries : Std.ExtTreeMap String β) :
    (entries.erase name)[other]? = entries[other]? := by
  rw [Std.ExtTreeMap.getElem?_erase, if_neg]
  intro heq
  exact h (Std.LawfulEqCmp.eq_of_compare heq).symm

instance : LawfulVariableStore MemoryVariables where
  get_set h := by
    cases h
    simp [VariableStore.get]
  get_set_of_ne {name other value store store'} h hne := by
    cases h
    simp only [VariableStore.get]
    rw [getElem?_insert_of_ne hne]

namespace Directory

lemma fileOf_ne {name other : String} (h : other ≠ name) : fileOf other ≠ fileOf name := by
  intro heq
  apply h
  have hlist := congrArg String.toList heq
  simp only [fileOf, String.toList_append] at hlist
  exact String.toList_injective (List.append_cancel_right hlist)

/-- No file of a variable is a temporary one: their names end differently. -/
lemma fileOf_ne_temporaryFileOf (name other : String) : fileOf other ≠ temporaryFileOf name := by
  intro heq
  have hlist := congrArg (fun s => s.toList.getLast?) heq
  simp [fileOf, temporaryFileOf, String.toList_append] at hlist

/-- A variable's value is what is in its own file. -/
lemma getVariable_congr {name : String} {d d' : Directory} (hlimit : d'.nameLimit = d.nameLimit)
    (hfile : d'.entries[fileOf name]? = d.entries[fileOf name]?) : d'.getVariable name = d.getVariable name := by
  have hread : d'.read (fileOf name) = d.read (fileOf name) := by
    simp only [read, hlimit, hfile]
  rw [getVariable, getVariable, hread]

lemma write_eq_ok {file : String} {content : Bytes} {d d' : Directory} (h : d.write file content = (.ok (), d')) :
    d' = { d with entries := d.entries.insert file (.file content) } := by
  unfold write at h
  split at h
  · cases h
  · split at h
    · cases h
    · cases h
      rfl

lemma rename_eq_ok {source target : String} {d d' : Directory} (h : d.rename source target = (.ok (), d')) :
    target.utf8ByteSize ≤ d.nameLimit ∧ ∃ content, d.entries[source]? = some (.file content) ∧
      d' = { d with entries := (d.entries.erase source).insert target (.file content) } := by
  unfold rename at h
  split at h
  · cases h
  · rename_i hlimit
    split at h
    · cases h
    · cases h
    · cases h
    · rename_i content hsource _
      cases h
      exact ⟨Nat.le_of_not_lt hlimit, content, hsource, rfl⟩

/-- What a successful write of a variable leaves behind: its file with the new value, and no temporary file. -/
lemma setVariable_eq_ok {name : String} {value : Bytes} {d d' : Directory}
    (h : d.setVariable name value = (.ok (), d')) :
    ValidName name ∧ (fileOf name).utf8ByteSize ≤ d.nameLimit ∧ d'.nameLimit = d.nameLimit ∧
      d'.entries = ((d.entries.insert (temporaryFileOf name) (.file value)).erase (temporaryFileOf name)).insert
        (fileOf name) (.file value) := by
  unfold setVariable at h
  by_cases hname : ValidName name
  · rw [if_pos hname] at h
    rcases hwrite : d.write (temporaryFileOf name) value with ⟨_ | ⟨⟩, written⟩
    · rw [hwrite] at h
      cases h
    · rcases hrename : written.rename (temporaryFileOf name) (fileOf name) with ⟨_ | ⟨⟩, renamed⟩
      · simp only [hwrite, hrename] at h
        cases h
      · simp only [hwrite, hrename] at h
        cases h
        have hwritten := write_eq_ok hwrite
        obtain ⟨hlimit, content, hsource, hrenamed⟩ := rename_eq_ok hrename
        subst hwritten
        have hcontent : content = value := by
          rw [Std.ExtTreeMap.getElem?_insert_self] at hsource
          cases hsource
          rfl
        rw [hcontent] at hrenamed
        subst hrenamed
        exact ⟨hname, hlimit, rfl, rfl⟩
  · rw [if_neg hname] at h
    cases h

/-- A write of a variable touches its own file and its temporary file only. -/
lemma entries_setVariable_of_ne {name file : String} {value : Bytes} {d d' : Directory}
    (h : d.setVariable name value = (.ok (), d')) (hfile : file ≠ fileOf name) (htemporary : file ≠ temporaryFileOf name) :
    d'.entries[file]? = d.entries[file]? := by
  obtain ⟨-, -, -, hentries⟩ := setVariable_eq_ok h
  rw [hentries, getElem?_insert_of_ne hfile, getElem?_erase_of_ne htemporary, getElem?_insert_of_ne htemporary]

instance : LawfulVariableStore Directory where
  get_set {name value d d'} h := by
    obtain ⟨hname, hlimit, hsame, hentries⟩ := setVariable_eq_ok h
    have hread : d'.read (fileOf name) = .ok value := by
      unfold read
      rw [hsame, if_neg (Nat.not_lt_of_le hlimit), hentries, Std.ExtTreeMap.getElem?_insert_self]
    change getVariable name d' = _
    rw [getVariable, if_pos hname, hread]
  get_set_of_ne {name other value d d'} h hne := by
    obtain ⟨-, -, hsame, -⟩ := setVariable_eq_ok h
    have hfile : d'.entries[fileOf other]? = d.entries[fileOf other]? :=
      entries_setVariable_of_ne h (fileOf_ne hne) (fileOf_ne_temporaryFileOf name other)
    exact getVariable_congr hsame hfile

lemma write_eq_error {file : String} {content : Bytes} {d d' : Directory} {fault : Fault}
    (h : d.write file content = (.error fault, d')) : d' = d := by
  unfold write at h
  split at h
  · cases h
    rfl
  · split at h
    · cases h
      rfl
    · cases h

lemma rename_eq_error {source target : String} {d d' : Directory} {fault : Fault}
    (h : d.rename source target = (.error fault, d')) : d' = d := by
  unfold rename at h
  split at h
  · cases h
    rfl
  · split at h
    · cases h
      rfl
    · cases h
      rfl
    · cases h
      rfl
    · cases h

/-- Temporary files are no variables. -/
lemma getVariable_insert_temporary (d : Directory) (name : String) (entry : DirectoryEntry) (other : String) :
    ({ d with entries := d.entries.insert (temporaryFileOf name) entry } : Directory).getVariable other =
      d.getVariable other := by
  have hfile : (d.entries.insert (temporaryFileOf name) entry)[fileOf other]? = d.entries[fileOf other]? :=
    getElem?_insert_of_ne (fileOf_ne_temporaryFileOf name other) _ _
  exact getVariable_congr rfl hfile

/-- Nothing is in the way of a variable: its files can have their names, and no folder has one of them. -/
structure Clear (name : String) (d : Directory) : Prop where
  valid : ValidName name
  limit : (temporaryFileOf name).utf8ByteSize ≤ d.nameLimit
  file : d.entries[fileOf name]? ≠ some .folder
  temporary : d.entries[temporaryFileOf name]? ≠ some .folder

lemma clear_empty {name : String} (hname : ValidName name) (hlimit : (temporaryFileOf name).utf8ByteSize ≤ 255) :
    Clear name {} where
  valid := hname
  limit := hlimit
  file := by simp
  temporary := by simp

lemma write_clear {file : String} {d : Directory} (hlimit : file.utf8ByteSize ≤ d.nameLimit)
    (h : d.entries[file]? ≠ some .folder) (content : Bytes) :
    d.write file content = (.ok (), { d with entries := d.entries.insert file (.file content) }) := by
  unfold write
  rw [if_neg (Nat.not_lt_of_le hlimit)]
  split
  · exact absurd ‹_› h
  · rfl

lemma rename_clear {source target : String} {content : Bytes} {d : Directory}
    (hlimit : target.utf8ByteSize ≤ d.nameLimit) (hsource : d.entries[source]? = some (.file content))
    (htarget : d.entries[target]? ≠ some .folder) : d.rename source target =
      (.ok (), { d with entries := (d.entries.erase source).insert target (.file content) }) := by
  unfold rename
  rw [if_neg (Nat.not_lt_of_le hlimit), hsource]
  rcases hentry : d.entries[target]? with _ | _ | _
  · rfl
  · rfl
  · exact absurd hentry htarget

lemma Clear.fileOf_le {name : String} {d : Directory} (clear : Clear name d) :
    (fileOf name).utf8ByteSize ≤ d.nameLimit := by
  have hlonger := clear.limit
  have hends : ".var".utf8ByteSize ≤ ".var.tmp".utf8ByteSize := by decide +kernel
  simp only [temporaryFileOf, fileOf, String.utf8ByteSize_append] at hlonger ⊢
  omega

/-- What can be written is written. -/
lemma Clear.set {name : String} {d : Directory} (clear : Clear name d) (value : Bytes) :
    ∃ d', VariableStore.set name value d = (.ok (), d') := by
  let between : Directory := { d with entries := d.entries.insert (temporaryFileOf name) (.file value) }
  have hwrite : d.write (temporaryFileOf name) value = (.ok (), between) :=
    write_clear clear.limit clear.temporary value
  have htarget : between.entries[fileOf name]? ≠ some .folder := by
    rw [getElem?_insert_of_ne (fileOf_ne_temporaryFileOf name name)]
    exact clear.file
  have hsource : between.entries[temporaryFileOf name]? = some (DirectoryEntry.file value) :=
    Std.ExtTreeMap.getElem?_insert_self
  obtain ⟨d', hrename⟩ : ∃ d', between.rename (temporaryFileOf name) (fileOf name) = (.ok (), d') :=
    ⟨_, rename_clear clear.fileOf_le hsource htarget⟩
  refine ⟨d', ?_⟩
  change d.setVariable name value = _
  simp only [setVariable, if_pos clear.valid, hwrite, hrename]

/-- No write puts a folder in the way. -/
lemma Clear.after {name other : String} {value : Bytes} {d d' : Directory} (clear : Clear other d)
    (h : VariableStore.set name value d = (.ok (), d')) : Clear other d' := by
  obtain ⟨-, -, hlimit, hentries⟩ := setVariable_eq_ok h
  have hfolder : ∀ file : String, d.entries[file]? ≠ some DirectoryEntry.folder →
      d'.entries[file]? ≠ some DirectoryEntry.folder := by
    intro file hd
    rw [hentries, Std.ExtTreeMap.getElem?_insert]
    split
    · nofun
    · rw [Std.ExtTreeMap.getElem?_erase]
      split
      · nofun
      · rw [Std.ExtTreeMap.getElem?_insert, if_neg ‹_›]
        exact hd
  exact ⟨clear.valid, hlimit ▸ clear.limit, hfolder _ clear.file, hfolder _ clear.temporary⟩

/-- A directory with a folder in the way of a variable. -/
def block (name : String) (d : Directory) : Directory :=
  { d with entries := d.entries.insert (temporaryFileOf name) .folder }

lemma entries_block (name : String) (d : Directory) : (d.block name).entries[temporaryFileOf name]? = some .folder :=
  Std.ExtTreeMap.getElem?_insert_self

lemma Clear.block {name other : String} {d : Directory} (clear : Clear other d)
    (hne : temporaryFileOf other ≠ temporaryFileOf name) : Clear other (d.block name) where
  valid := clear.valid
  limit := clear.limit
  file := by
    rw [Directory.block, getElem?_insert_of_ne (fileOf_ne_temporaryFileOf name other)]
    exact clear.file
  temporary := by
    rw [Directory.block, getElem?_insert_of_ne hne]
    exact clear.temporary

/-- A folder in place of the temporary file keeps a variable from being written. -/
lemma set_blocked {name : String} {d : Directory} (hname : ValidName name)
    (h : d.entries[temporaryFileOf name]? = some .folder) (value : Bytes) :
    VariableStore.set name value d = (.error (.io (fileOf name)), d) := by
  have hwrite : d.write (temporaryFileOf name) value = (.error .refused, d) := by
    simp only [write, h, ite_self]
  change d.setVariable name value = _
  rw [setVariable, if_pos hname, hwrite]

end Directory

/-- Variables together with the writes that were asked for. -/
structure LoggedVariables (S : Type) where
  store : S
  writes : List (String × Bytes) := []

namespace LoggedVariables

variable {S : Type} [VariableStore S]

instance : VariableStore (LoggedVariables S) where
  get name logged := VariableStore.get name logged.store
  set name value logged :=
    let (answer, store) := VariableStore.set name value logged.store
    (answer, { store, writes := logged.writes ++ [(name, value)] })
  remove name logged :=
    let (answer, store) := VariableStore.remove name logged.store
    (answer, { logged with store })

end LoggedVariables

end FabricHost
