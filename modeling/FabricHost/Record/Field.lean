import FabricHost.Record.Capacity
import FabricHost.Uuid.Basic

/-!
# Fields of fixed width

A field says how a value becomes a fixed number of bytes and how those bytes are read. Fields are put side by side by
`Field.pair`, so a record's layout is one expression that serves both directions.
-/

namespace FabricHost

/-- Why a record cannot be written or read. -/
inductive RecordError where
  | unsupportedVersion (found : Nat)
  | truncated (needed available : Nat)
  | capacity (error : CapacityError)
  | invalidText (field : String)
  | invalidValue (field : String) (value : UInt8)
  | trailingData (length : Nat)
deriving DecidableEq, Repr

/-- A value at a fixed width. -/
structure Field (α : Type) where
  width : Nat
  /-- The bytes of a value, or why it has none. -/
  write : α → Except RecordError Bytes
  /-- The value of exactly as many bytes as the field is wide. -/
  read : (bytes : Bytes) → bytes.length = width → Except RecordError α

namespace Field

variable {α β : Type}

/-- One field after another. Both directions stop at the first field that fails. -/
def pair (first : Field α) (second : Field β) : Field (α × β) where
  width := first.width + second.width
  write value := do return (← first.write value.1) ++ (← second.write value.2)
  read bytes h := do
    let a ← first.read (bytes.take first.width) (by simp; omega)
    let b ← second.read (bytes.drop first.width) (by simp; omega)
    return (a, b)

/-- The same bytes for another form of the value. -/
def as (field : Field α) (pack : α → β) (unpack : β → α) : Field β where
  width := field.width
  write value := field.write (unpack value)
  read bytes h := (field.read bytes h).map pack

def byte : Field UInt8 where
  width := 1
  write value := .ok [value]
  read bytes h := .ok bytes[0]

/-- A byte that is written as zero and skipped. -/
def reserved : Field Unit where
  width := 1
  write _ := .ok [0]
  read _ _ := .ok ()

/-- A byte that is one for true; any value but zero reads as true. -/
def flag : Field Bool := byte.as (· != 0) (fun b => if b then 1 else 0)

/-- A byte that stands for one of a few values. -/
def choice (name : String) (toByte : α → UInt8) (ofByte? : UInt8 → Option α) : Field α where
  width := 1
  write value := .ok [toByte value]
  read bytes h :=
    match ofByte? bytes[0] with
    | some value => .ok value
    | none => .error (.invalidValue name bytes[0])

/-- Two bytes, the low one first. -/
def word : Field UInt16 where
  width := 2
  write value := .ok (Bytes.ofNatLE 2 value.toNat)
  read bytes _ := .ok (UInt16.ofNat (Bytes.toNatLE bytes))

def uuid : Field Uuid where
  width := 16
  write value := .ok value.toBytes
  read bytes h := .ok ⟨⟨bytes.toArray, h⟩⟩

/-- A text padded with NUL bytes to its capacity. What follows the first NUL is not read. -/
def text (name : String) (capacity : Nat) : Field String where
  width := capacity
  write value := do
    (checkCapacity name capacity value).mapError .capacity
    return Utf8.encode value ++ Bytes.zeros (capacity - value.utf8ByteSize)
  read bytes _ :=
    match Utf8.decode? (bytes.takeWhile (· != 0)) with
    | some value => .ok value
    | none => .error (.invalidText name)

end Field

end FabricHost
