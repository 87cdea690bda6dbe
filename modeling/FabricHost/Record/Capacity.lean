import FabricHost.Text.Utf8

/-!
# Text that fits a fixed field

Fixed fields are padded with NUL bytes, so a text fits one when its UTF-8 bytes are at most the field's capacity and
none of them is NUL.
-/

namespace FabricHost

/-- Why a text does not fit a field. -/
inductive CapacityError where
  | fieldTooLong (field : String) (length capacity : Nat)
  | embeddedNul (field : String)
deriving DecidableEq, Repr

namespace CapacityError

def message : CapacityError → String
  | fieldTooLong field length capacity => s!"Field {field} is {length} bytes (capacity {capacity})"
  | embeddedNul field => s!"Field {field} contains a NUL byte"

end CapacityError

/-- Accepts a text that fits a field; a text that is too long is refused for that before its characters are looked
at. -/
def checkCapacity (field : String) (capacity : Nat) (s : String) : Except CapacityError Unit :=
  if capacity < s.utf8ByteSize then .error (.fieldTooLong field s.utf8ByteSize capacity)
  else if '\x00' ∈ s.toList then .error (.embeddedNul field)
  else .ok ()

/-- Whether a text fits a field. -/
def Fits (capacity : Nat) (s : String) : Prop := s.utf8ByteSize ≤ capacity ∧ '\x00' ∉ s.toList

instance (capacity : Nat) (s : String) : Decidable (Fits capacity s) := inferInstanceAs (Decidable (_ ∧ _))

/-- The check accepts exactly the texts that fit. -/
theorem checkCapacity_eq_ok_iff (field : String) (capacity : Nat) (s : String) :
    checkCapacity field capacity s = .ok () ↔ Fits capacity s := by
  unfold checkCapacity Fits
  by_cases hlength : s.utf8ByteSize ≤ capacity
  · have hnot : ¬capacity < s.utf8ByteSize := by omega
    by_cases hnul : '\x00' ∈ s.toList <;> simp [hlength, hnot, hnul]
  · have hlong : capacity < s.utf8ByteSize := by omega
    simp [hlength, hlong]

theorem utf8ByteSize_ofList {cs : List Char} (h : ∀ c ∈ cs, c.utf8Size = 1) :
    (String.ofList cs).utf8ByteSize = cs.length := by
  induction cs with
  | nil => rfl
  | cons c rest ih =>
    rw [List.forall_mem_cons] at h
    rw [String.ofList_cons, String.utf8ByteSize_append, String.utf8ByteSize_singleton, h.1, ih h.2, List.length_cons,
      Nat.add_comm]

/-- A text of single-byte characters without NUL fits wherever there is room for as many bytes. -/
theorem fits_ofList {capacity : Nat} {cs : List Char} (h : ∀ c ∈ cs, c.utf8Size = 1 ∧ c ≠ '\x00')
    (hlength : cs.length ≤ capacity) : Fits capacity (String.ofList cs) := by
  constructor
  · rw [utf8ByteSize_ofList fun c hc => (h c hc).1]
    exact hlength
  · rw [String.toList_ofList]
    exact fun hmem => (h _ hmem).2 rfl

end FabricHost
