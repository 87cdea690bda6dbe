import FabricHost.Text.Hex
import FabricHost.Text.Separated

/-!
# Universally unique identifiers

Sixteen bytes, their hyphenated text, and the four textual forms that are read: plain digits, hyphenated, hyphenated in
braces, and hyphenated behind `urn:uuid:` in letters of either case.
-/

namespace FabricHost

/-- A universally unique identifier. -/
structure Uuid where
  bytes : Vector UInt8 16
deriving DecidableEq, Repr

namespace Uuid

/-- The identifier of sixteen zero bytes, which stands for an absent one. -/
def nil : Uuid := ⟨Vector.replicate 16 0⟩

instance : Inhabited Uuid := ⟨nil⟩

def isNil (u : Uuid) : Bool := u = nil

def toBytes (u : Uuid) : Bytes := u.bytes.toList

/-- The identifier with these bytes, if there are sixteen. -/
def ofBytes? (bytes : Bytes) : Option Uuid :=
  if h : bytes.length = 16 then some ⟨⟨bytes.toArray, by simpa using h⟩⟩ else none

/-- The version number in the seventh byte. -/
def version (u : Uuid) : Nat := u.bytes[6].toNat / 16

/-- The identifier with its version number set, and marked as laid out by the current standard. -/
def withVersion (version : UInt8) (u : Uuid) : Uuid :=
  let high : UInt8 := (u.bytes[6] &&& (0x0F : UInt8)) ||| (version <<< 4)
  let layout : UInt8 := (u.bytes[8] &&& (0x3F : UInt8)) ||| (0x80 : UInt8)
  ⟨(u.bytes.set 6 high).set 8 layout⟩

/-- A random identifier made of sixteen random bytes. -/
def random (entropy : Vector UInt8 16) : Uuid := withVersion 4 ⟨entropy⟩

/-- The lower-case hyphenated digits. -/
def chars (u : Uuid) : List Char :=
  let digits := Hex.ofBytes u.toBytes
  Separated.join '-' [digits.take 8, (digits.drop 8).take 4, (digits.drop 12).take 4, (digits.drop 16).take 4,
    digits.drop 20]

def text (u : Uuid) : String := String.ofList u.chars

def ofDigits? (digits : List Char) : Option Uuid := (Hex.toBytes? digits).bind ofBytes?

/-- Reads groups of 8, 4, 4, 4 and 12 digits with hyphens between them. -/
def ofHyphenated? (cs : List Char) : Option Uuid :=
  let groups := Separated.parts '-' cs
  if groups.map List.length = [8, 4, 4, 4, 12] then ofDigits? groups.flatten else none

/-- What a resource name starts with. -/
def urnPrefix : List Char := "urn:uuid:".toList

/-- The hyphenated form inside braces or behind the resource name prefix, where either is present. The prefix may have
letters of either case. -/
def unwrap (cs : List Char) : List Char :=
  match cs with
  | '\x7b' :: rest => if rest.getLast? = some '\x7d' then rest.dropLast else cs
  | _ => if urnPrefix.isPrefixOf (cs.map Char.toLower) then cs.drop urnPrefix.length else cs

/-- Reads any of the four textual forms, with digits of either case. -/
def parse? (s : String) : Option Uuid :=
  let cs := s.toList
  if cs.length = 32 then ofDigits? cs else ofHyphenated? (unwrap cs)

@[simp] theorem length_toBytes (u : Uuid) : u.toBytes.length = 16 := by simp [toBytes]

theorem ofBytes?_toBytes (u : Uuid) : ofBytes? u.toBytes = some u := by
  have h : u.toBytes.length = 16 := length_toBytes u
  simp only [ofBytes?, h, dite_true, Option.some.injEq]
  obtain ⟨⟨_, _⟩⟩ := u
  rfl

theorem toBytes_of_ofBytes? {bytes : Bytes} {u : Uuid} (h : ofBytes? bytes = some u) : u.toBytes = bytes := by
  simp only [ofBytes?] at h
  split at h
  · cases h; simp [toBytes]
  · cases h

end Uuid

end FabricHost
