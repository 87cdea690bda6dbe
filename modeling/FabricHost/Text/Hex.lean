import FabricHost.Bytes

/-!
# Hexadecimal text

Every byte is written as two lower-case digits; reading takes digits of either case.
-/

namespace FabricHost.Hex

/-- The lower-case digit of a number below sixteen. -/
def digit (n : Nat) : Char :=
  if n < 10 then Char.ofNat (48 + n) else Char.ofNat (87 + n)

/-- The value of a digit of either case. -/
def value? (c : Char) : Option Nat :=
  if '0' ≤ c ∧ c ≤ '9' then some (c.toNat - 48)
  else if 'a' ≤ c ∧ c ≤ 'f' then some (c.toNat - 87)
  else if 'A' ≤ c ∧ c ≤ 'F' then some (c.toNat - 55)
  else none

def ofByte (b : UInt8) : List Char := [digit (b.toNat / 16), digit (b.toNat % 16)]

def ofBytes (bytes : Bytes) : List Char := bytes.flatMap ofByte

/-- The byte string whose digits these are; none for an odd count or another character. -/
def toBytes? : List Char → Option Bytes
  | [] => some []
  | [_] => none
  | high :: low :: rest => do
    let h ← value? high
    let l ← value? low
    let bytes ← toBytes? rest
    return UInt8.ofNat (16 * h + l) :: bytes

@[simp] theorem value?_digit (n : Nat) (h : n < 16) : value? (digit n) = some n := by
  revert n
  decide

@[simp] theorem length_ofBytes (bytes : Bytes) : (ofBytes bytes).length = 2 * bytes.length := by
  induction bytes with
  | nil => rfl
  | cons b rest ih => simp_all [ofBytes, ofByte]; omega

/-- Reading the digits of a byte string gives it back. -/
theorem toBytes?_ofBytes (bytes : Bytes) : toBytes? (ofBytes bytes) = some bytes := by
  induction bytes with
  | nil => rfl
  | cons b rest ih =>
    have hb := b.toNat_lt
    have hdigits : UInt8.ofNat (16 * (b.toNat / 16) + b.toNat % 16) = b := by
      rw [Nat.div_add_mod]; exact UInt8.ofNat_toNat
    rw [ofBytes] at ih
    simp only [ofBytes, ofByte, List.flatMap_cons, List.cons_append, List.nil_append, toBytes?]
    rw [value?_digit _ (by omega), value?_digit _ (by omega), ih]
    simp only [Option.bind_eq_bind, Option.bind_some, hdigits]
    rfl

end FabricHost.Hex
