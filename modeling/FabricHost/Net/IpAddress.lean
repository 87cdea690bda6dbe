import FabricHost.Text.Decimal
import FabricHost.Text.Hex
import FabricHost.Text.Separated

/-!
# IP addresses

Addresses of both families with their textual forms. A version 4 address is four decimal octets without leading zeros.
A version 6 address is eight hexadecimal groups; one gap of zero groups may be left out as `::`, and the last two groups
may be spelt as a version 4 address. The written form leaves out the longest run of at least two zero groups, the first
of equally long ones, and spells an embedded version 4 address only behind `::ffff:`.
-/

namespace FabricHost

structure Ipv4 where
  octets : Vector UInt8 4
deriving DecidableEq, Repr

structure Ipv6 where
  groups : Vector UInt16 8
deriving DecidableEq, Repr

inductive IpAddress where
  | v4 (address : Ipv4)
  | v6 (address : Ipv6)
deriving DecidableEq, Repr

inductive IpFamily where
  | v4
  | v6
deriving DecidableEq, Repr

namespace Ipv4

/-- Reads an octet: one to three digits below 256, with no leading zero. -/
def octet? (cs : List Char) : Option UInt8 :=
  if cs.length ≤ 3 ∧ (cs.length = 1 ∨ cs.head? ≠ some '0') then
    ((Decimal.toNat? cs).filter (· < 256)).map UInt8.ofNat
  else none

/-- Reads four octets with dots between them. -/
def ofChars? (cs : List Char) : Option Ipv4 :=
  match Separated.parts '.' cs with
  | [a, b, c, d] => do return ⟨#v[← octet? a, ← octet? b, ← octet? c, ← octet? d]⟩
  | _ => none

def parse? (s : String) : Option Ipv4 := ofChars? s.toList

def chars (address : Ipv4) : List Char :=
  Separated.join '.' (address.octets.toList.map fun octet => Decimal.digits octet.toNat)

end Ipv4

namespace Ipv6

/-- Reads a group: one to four hexadecimal digits. -/
def group? (cs : List Char) : Option UInt16 :=
  if 0 < cs.length ∧ cs.length ≤ 4 then
    (cs.foldlM (fun n c => (Hex.value? c).map (16 * n + ·)) 0).map UInt16.ofNat
  else none

/-- The two groups that a version 4 address fills. -/
def ofIpv4 (address : Ipv4) : List UInt16 :=
  let pair (high low : UInt8) := UInt16.ofNat (256 * high.toNat + low.toNat)
  [pair address.octets[0] address.octets[1], pair address.octets[2] address.octets[3]]

/-- Reads groups of which the last may be a version 4 address. -/
def mixedGroups? : List (List Char) → Option (List UInt16)
  | [] => some []
  | [last] => ((group? last).map ([·])).or ((Ipv4.ofChars? last).map ofIpv4)
  | part :: more => do return (← group? part) :: (← mixedGroups? more)

/-- The parts between colons, none for an empty text. -/
def colonParts (cs : List Char) : List (List Char) :=
  if cs = [] then [] else Separated.parts ':' cs

/-- The texts before and after the first `::`. -/
def splitGap : List Char → Option (List Char × List Char)
  | [] => none
  | ':' :: ':' :: rest => some ([], rest)
  | c :: rest => (splitGap rest).map fun (before, after) => (c :: before, after)

/-- The groups that a text spells, with a gap filled up to eight by at least one zero group. -/
def groupList? (cs : List Char) : Option (List UInt16) :=
  match splitGap cs with
  | none => mixedGroups? (colonParts cs)
  | some (before, after) => do
    let front ← (colonParts before).mapM group?
    let back ← mixedGroups? (colonParts after)
    if front.length + back.length ≤ 7 then
      return front ++ List.replicate (8 - front.length - back.length) 0 ++ back
    else none

def ofChars? (cs : List Char) : Option Ipv6 := do
  let groups ← groupList? cs
  if h : groups.length = 8 then some ⟨⟨groups.toArray, by simpa using h⟩⟩ else none

def parse? (s : String) : Option Ipv6 := ofChars? s.toList

/-- How many groups at the front are zero. -/
def leadingZeros (groups : List UInt16) : Nat := (groups.takeWhile (· == 0)).length

/-- Where the first of the longest runs of zero groups starts, and how long it is. -/
def longestZeros : List UInt16 → Nat × Nat
  | [] => (0, 0)
  | group :: rest =>
    let here := leadingZeros (group :: rest)
    let (start, n) := longestZeros rest
    if n ≤ here then (0, here) else (start + 1, n)

/-- Groups in hexadecimal without leading zeros, with colons between them. -/
def groupChars (groups : List UInt16) : List Char :=
  Separated.join ':' (groups.map fun group => Nat.toDigits 16 group.toNat)

/-- The version 4 address behind the prefix `::ffff`, if this address has that form. -/
def mapped? (address : Ipv6) : Option Ipv4 :=
  match address.groups.toList with
  | [0, 0, 0, 0, 0, 0xFFFF, high, low] =>
    some ⟨#v[UInt8.ofNat (high.toNat / 256), UInt8.ofNat high.toNat,
      UInt8.ofNat (low.toNat / 256), UInt8.ofNat low.toNat]⟩
  | _ => none

/-- The canonical form. -/
def chars (address : Ipv6) : List Char :=
  match address.mapped? with
  | some embedded => "::ffff:".toList ++ embedded.chars
  | none =>
    let groups := address.groups.toList
    let (start, n) := longestZeros groups
    if 1 < n then groupChars (groups.take start) ++ [':', ':'] ++ groupChars (groups.drop (start + n))
    else groupChars groups

end Ipv6

namespace IpAddress

def family : IpAddress → IpFamily
  | v4 _ => .v4
  | v6 _ => .v6

def parseAs? : IpFamily → String → Option IpAddress
  | .v4, s => (Ipv4.parse? s).map v4
  | .v6, s => (Ipv6.parse? s).map v6

def parse? (s : String) : Option IpAddress := (parseAs? .v4 s).or (parseAs? .v6 s)

def chars : IpAddress → List Char
  | v4 address => address.chars
  | v6 address => address.chars

def text (address : IpAddress) : String := String.ofList address.chars

/-- A successful reading has the family that was asked for. -/
theorem family_of_parseAs? {family : IpFamily} {s : String} {address : IpAddress}
    (h : parseAs? family s = some address) : address.family = family := by
  cases family <;> simp only [parseAs?, Option.map_eq_some_iff] at h <;> obtain ⟨_, _, rfl⟩ := h <;> rfl

end IpAddress

end FabricHost
