/-!
# Byte strings

Records, identify pages and block data are lists of bytes. Numbers enter them digit by digit in base 256, least
significant digit first unless a format says otherwise.
-/

namespace FabricHost

/-- A byte string. -/
abbrev Bytes := List UInt8

namespace Bytes

def zeros (n : Nat) : Bytes := List.replicate n 0

/-- The `n` bytes from position `start`, or fewer where the byte string ends. -/
def slice (bytes : Bytes) (start n : Nat) : Bytes := (bytes.drop start).take n

/-- The byte string with `part` written over it from position `start`. -/
def overwrite (bytes : Bytes) (start : Nat) (part : Bytes) : Bytes :=
  bytes.take start ++ part ++ bytes.drop (start + part.length)

/-- The lowest `width` base-256 digits of `n`, least significant first. -/
def ofNatLE : (width : Nat) → (n : Nat) → Bytes
  | 0, _ => []
  | width + 1, n => UInt8.ofNat n :: ofNatLE width (n / 256)

/-- The number whose base-256 digits are `bytes`, least significant first. -/
def toNatLE : Bytes → Nat
  | [] => 0
  | digit :: rest => digit.toNat + 256 * toNatLE rest

/-- How many numbers can be spelt in `width` digits. -/
def reach : (width : Nat) → Nat
  | 0 => 1
  | width + 1 => 256 * reach width

/-- The lowest `width` base-256 digits of `n`, most significant first. -/
def ofNatBE (width n : Nat) : Bytes := (ofNatLE width n).reverse

def toNatBE (bytes : Bytes) : Nat := toNatLE bytes.reverse

@[simp] theorem length_zeros (n : Nat) : (zeros n).length = n := by simp [zeros]

@[simp] theorem length_ofNatLE (width n : Nat) : (ofNatLE width n).length = width := by
  induction width generalizing n with
  | zero => rfl
  | succ width ih => simp [ofNatLE, ih]

@[simp] theorem length_ofNatBE (width n : Nat) : (ofNatBE width n).length = width := by simp [ofNatBE]

/-- Reading the digits back gives the number, cut to the digits that were written. -/
theorem toNatLE_ofNatLE (width n : Nat) : toNatLE (ofNatLE width n) = n % reach width := by
  induction width generalizing n with
  | zero => simp [ofNatLE, toNatLE, reach, Nat.mod_one]
  | succ width ih =>
    rw [ofNatLE, toNatLE, ih, reach, Nat.mod_mul]
    simp

theorem toNatLE_lt (bytes : Bytes) : toNatLE bytes < reach bytes.length := by
  induction bytes with
  | nil => simp [toNatLE, reach]
  | cons digit rest ih =>
    have := digit.toNat_lt
    simp only [toNatLE, List.length_cons, reach]
    omega

/-- Writing a number that was read gives its bytes back. -/
theorem ofNatLE_toNatLE (bytes : Bytes) : ofNatLE bytes.length (toNatLE bytes) = bytes := by
  induction bytes with
  | nil => rfl
  | cons digit rest ih =>
    have h := digit.toNat_lt
    have hdiv : (digit.toNat + 256 * toNatLE rest) / 256 = toNatLE rest := by omega
    simp only [toNatLE, List.length_cons, ofNatLE, hdiv, ih, List.cons.injEq, and_true]
    apply UInt8.toNat_inj.mp
    simp only [UInt8.toNat_ofNat']
    omega

end Bytes

end FabricHost
