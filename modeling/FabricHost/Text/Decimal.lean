/-!
# Decimal text

Unsigned numbers in ASCII digits, without grouping.
-/

namespace FabricHost.Decimal

def digits (n : Nat) : List Char := Nat.toDigits 10 n

def value? (c : Char) : Option Nat :=
  if '0' ≤ c ∧ c ≤ '9' then some (c.toNat - 48) else none

/-- The number that non-empty digits spell. Leading zeros are allowed. -/
def toNat? (cs : List Char) : Option Nat :=
  if cs = [] then none
  else cs.foldlM (fun n c => (value? c).map (10 * n + ·)) 0

/-- The number below `bound` that the digits spell, after an optional plus sign. -/
def unsigned? (bound : Nat) (cs : List Char) : Option Nat :=
  let body := match cs with
    | '+' :: rest => rest
    | _ => cs
  (toNat? body).filter (· < bound)

end FabricHost.Decimal
