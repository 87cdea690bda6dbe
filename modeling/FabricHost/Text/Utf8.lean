import FabricHost.Bytes

/-!
# Text as UTF-8

`Utf8.encode` and `Utf8.decode?` are inverse to one another on well-formed byte strings. `Utf8.decodeLossy` reads any
byte string: each maximal part of an ill-formed sequence that could still have begun a character becomes one
replacement character.
-/

namespace FabricHost.Utf8

def encode (s : String) : Bytes := s.toByteArray.data.toList

/-- The text that a byte string spells in UTF-8, if it is well formed. -/
def decode? (bytes : Bytes) : Option String := String.fromUTF8? ⟨bytes.toArray⟩

theorem length_encode (s : String) : (encode s).length = s.utf8ByteSize := rfl

theorem decode?_encode (s : String) : decode? (encode s) = some s := by
  simp [decode?, encode, String.fromUTF8?, s.isValidUTF8, String.fromUTF8]

theorem encode_of_decode? {bytes : Bytes} {s : String} (h : decode? bytes = some s) : encode s = bytes := by
  simp only [decode?, String.fromUTF8?] at h
  split at h
  · cases h; simp [encode, String.fromUTF8]
  · cases h

/-- Reading succeeds exactly on the bytes of a text. -/
theorem decode?_eq_some_iff {bytes : Bytes} {s : String} : decode? bytes = some s ↔ bytes = encode s :=
  ⟨fun h => (encode_of_decode? h).symm, fun h => h ▸ decode?_encode s⟩

/-- The range of second bytes after a first byte of a sequence of at least two bytes, with the number of bytes that
follow the first; `none` for a byte that begins no such sequence. -/
def continuation (first : UInt8) : Option (UInt8 × UInt8 × Nat) :=
  if 0xC2 ≤ first ∧ first ≤ 0xDF then some (0x80, 0xBF, 1)
  else if first = 0xE0 then some (0xA0, 0xBF, 2)
  else if first = 0xED then some (0x80, 0x9F, 2)
  else if 0xE1 ≤ first ∧ first ≤ 0xEF then some (0x80, 0xBF, 2)
  else if first = 0xF0 then some (0x90, 0xBF, 3)
  else if first = 0xF4 then some (0x80, 0x8F, 3)
  else if 0xF1 ≤ first ∧ first ≤ 0xF3 then some (0x80, 0xBF, 3)
  else none

/-- How many of at most `n` bytes continue a sequence. -/
def continuationRun : (n : Nat) → Bytes → Nat
  | n + 1, byte :: rest => if 0x80 ≤ byte ∧ byte ≤ 0xBF then continuationRun n rest + 1 else 0
  | _, _ => 0

/-- How many bytes after `first` belong to the sequence that `first` begins, up to where it stops being one. -/
def sequenceTail (first : UInt8) (rest : Bytes) : Nat :=
  match continuation first, rest with
  | some (low, high, n), second :: more =>
    if low ≤ second ∧ second ≤ high then continuationRun (n - 1) more + 1 else 0
  | _, _ => 0

/-- Reads character by character; what does not spell one becomes U+FFFD. -/
def substituteInvalid : Bytes → List Char
  | [] => []
  | first :: rest =>
    let n := sequenceTail first rest
    let text := ((decode? (first :: rest.take n)).map String.toList).getD ['\uFFFD']
    text ++ substituteInvalid (rest.drop n)
termination_by bytes => bytes.length
decreasing_by simp only [List.length_drop, List.length_cons]; omega

/-- Reads any byte string: well-formed text as itself, each ill-formed part as U+FFFD. -/
def decodeLossy (bytes : Bytes) : String :=
  (decode? bytes).getD (String.ofList (substituteInvalid bytes))

@[simp] theorem decodeLossy_encode (s : String) : decodeLossy (encode s) = s := by
  simp [decodeLossy, decode?_encode]

end FabricHost.Utf8
