import FabricHost.Text.Decimal
import FabricHost.Uuid.NameBased

/-!
# Session keys

A key is three bytes of a hash of what the session is connected to, and a suffix that tells sessions to the same place
apart. Its text is eight lower-case hexadecimal digits.
-/

namespace FabricHost

/-- The short name of a session. -/
structure SessionKey where
  hash : Vector UInt8 3
  suffix : UInt8
deriving DecidableEq, Repr

namespace SessionKey

/-- How many keys there are for one hash. -/
def variants : Nat := 256

/-- The namespace of the identifiers that keys are cut from. -/
def space : Uuid :=
  ⟨#v[0x6e, 0x76, 0x6d, 0x66, 0x2d, 0x6b, 0x65, 0x79, 0x80, 0x00, 0x6e, 0x76, 0x6d, 0x66, 0x2d, 0x6b]⟩

def hashOf (address : String) (port : UInt16) (subsystemNqn : String) : Vector UInt8 3 :=
  let id := Uuid.ofName space s!"{address}:{port}/{subsystemNqn}"
  #v[id.bytes[0], id.bytes[1], id.bytes[2]]

/-- All keys of a hash, by rising suffix. -/
def candidates (hash : Vector UInt8 3) : List SessionKey :=
  (List.range variants).map fun i => ⟨hash, UInt8.ofNat i⟩

/-- The first key of a hash that is not taken. -/
def firstFree? (hash : Vector UInt8 3) (taken : SessionKey → Bool) : Option SessionKey :=
  (candidates hash).find? fun key => !taken key

/-- The first key for an address, a port and a subsystem that is not taken. -/
def derive? (address : String) (port : UInt16) (subsystemNqn : String) (taken : SessionKey → Bool) :
    Option SessionKey :=
  firstFree? (hashOf address port subsystemNqn) taken

/-- The four bytes that the digits spell. -/
def bytes (key : SessionKey) : Bytes := key.hash.toList ++ [key.suffix]

def chars (key : SessionKey) : List Char := Hex.ofBytes key.bytes

def text (key : SessionKey) : String := String.ofList key.chars

/-- Reads a key. Only the digits that are written are read, so none of them is an upper-case letter. -/
def parse? (s : String) : Option SessionKey :=
  match Hex.toBytes? s.toList with
  | some [a, b, c, suffix] =>
    let key : SessionKey := ⟨#v[a, b, c], suffix⟩
    if key.chars = s.toList then some key else none
  | _ => none

end SessionKey

end FabricHost
