import FabricHost.Text.Quoted
import FabricHost.Variables.Basic

/-!
# Variables kept as files

Each variable is one file of a directory. A write goes to a temporary file that is then renamed over the old one, so an
interrupted write leaves the old value. Only letters, digits, `_` and `-` may stand in a name, which keeps the files of
two variables, and the temporary ones, apart.
-/

namespace FabricHost

namespace VariableError

def message : VariableError → String
  | io file => s!"Variable store I/O on {file}"
  | invalidName name => s!"Invalid variable name {Quoted.render name}"

end VariableError

/-- What a directory holds under one name. -/
inductive DirectoryEntry where
  | file (content : Bytes)
  | folder

/-- A directory, by the names in it. -/
structure Directory where
  entries : Std.ExtTreeMap String DirectoryEntry := ∅
  /-- Files whose names have more bytes than this are refused. -/
  nameLimit : Nat := 255

namespace Directory

/-- Why an operation on a file did not take place. -/
inductive Fault where
  | missing
  | refused
deriving DecidableEq, Repr

def read (file : String) (d : Directory) : Except Fault Bytes :=
  if d.nameLimit < file.utf8ByteSize then .error .refused
  else match d.entries[file]? with
    | none => .error .missing
    | some (.file content) => .ok content
    | some .folder => .error .refused

def write (file : String) (content : Bytes) (d : Directory) : Except Fault Unit × Directory :=
  if d.nameLimit < file.utf8ByteSize then (.error .refused, d)
  else match d.entries[file]? with
    | some .folder => (.error .refused, d)
    | _ => (.ok (), { d with entries := d.entries.insert file (.file content) })

/-- Gives a file another name, in place of the file of that name if there is one. -/
def rename (source target : String) (d : Directory) : Except Fault Unit × Directory :=
  if d.nameLimit < target.utf8ByteSize then (.error .refused, d)
  else match d.entries[source]?, d.entries[target]? with
    | none, _ => (.error .missing, d)
    | some .folder, _ => (.error .refused, d)
    | _, some .folder => (.error .refused, d)
    | some (.file content), _ => (.ok (), { d with entries := (d.entries.erase source).insert target (.file content) })

def delete (file : String) (d : Directory) : Except Fault Unit × Directory :=
  if d.nameLimit < file.utf8ByteSize then (.error .refused, d)
  else match d.entries[file]? with
    | none => (.error .missing, d)
    | some (.file _) => (.ok (), { d with entries := d.entries.erase file })
    | some .folder => (.error .refused, d)

/-- Makes a folder under a name that is free. -/
def makeFolder (name : String) (d : Directory) : Directory :=
  if name ∈ d.entries then d else { d with entries := d.entries.insert name .folder }

/-- Opens a new directory below something: it can be made in a folder, not in a file. -/
def openBelow : DirectoryEntry → Except VariableError Directory
  | .folder => .ok {}
  | .file _ => .error (.io "")

/-- The characters of variable names. -/
def isNameChar (c : Char) : Bool := c.isAlphanum || c == '_' || c == '-'

/-- Names that can be files. -/
def ValidName (name : String) : Prop := name ≠ "" ∧ ∀ c ∈ name.toList, isNameChar c

instance (name : String) : Decidable (ValidName name) := inferInstanceAs (Decidable (_ ∧ _))

/-- The file of a variable. -/
def fileOf (name : String) : String := name ++ ".var"

/-- The file that a variable's next value is written to. -/
def temporaryFileOf (name : String) : String := name ++ ".var.tmp"

/-- The value in a variable's file, none if there is no such file. -/
def getVariable (name : String) (d : Directory) : Except VariableError (Option Bytes) :=
  if ValidName name then
    match d.read (fileOf name) with
    | .ok content => .ok (some content)
    | .error .missing => .ok none
    | .error .refused => .error (.io (fileOf name))
  else .error (.invalidName name)

/-- Writes the temporary file and renames it. -/
def setVariable (name : String) (value : Bytes) (d : Directory) : Except VariableError Unit × Directory :=
  if ValidName name then
    match d.write (temporaryFileOf name) value with
    | (.error _, d) => (.error (.io (fileOf name)), d)
    | (.ok (), d) =>
      match d.rename (temporaryFileOf name) (fileOf name) with
      | (.error _, d) => (.error (.io (fileOf name)), d)
      | (.ok (), d) => (.ok (), d)
  else (.error (.invalidName name), d)

/-- Deletes a variable's file; there need not be one. -/
def removeVariable (name : String) (d : Directory) : Except VariableError Unit × Directory :=
  if ValidName name then
    match d.delete (fileOf name) with
    | (.error .refused, d) => (.error (.io (fileOf name)), d)
    | (_, d) => (.ok (), d)
  else (.error (.invalidName name), d)

instance : VariableStore Directory where
  get := getVariable
  set := setVariable
  remove := removeVariable

end Directory

end FabricHost
