import FabricHost.Record.Field
import FabricHost.Rule
import Mathlib.Tactic.Lemma

/-!
# What fields carry

A field carries some values of its type: these it can write, each at the field's width, and it reads back what it wrote.
What two fields carry, the pair of them carries side by side.
-/

namespace FabricHost

namespace Utf8

lemma ofNat_ne_zero {n : Nat} (hpos : 0 < n) (hlt : n < 256) : (0 : UInt8) ≠ UInt8.ofNat n := by
  intro h
  have hnat := congrArg UInt8.toNat h
  rw [UInt8.toNat_ofNat', UInt8.toNat_zero] at hnat
  omega

/-- Only the character NUL has a zero byte. -/
lemma zero_mem_utf8EncodeChar {c : Char} (h : (0 : UInt8) ∈ String.utf8EncodeChar c) : c = '\x00' := by
  apply Char.ext
  apply UInt32.toNat_inj.mp
  apply Nat.eq_zero_of_not_pos
  intro hpos
  simp only [String.utf8EncodeChar] at h
  by_cases hone : c.val.toNat ≤ 127
  · rw [if_pos hone, List.mem_singleton] at h
    exact ofNat_ne_zero hpos (by omega) h
  · rw [if_neg hone] at h
    -- every byte of a longer sequence has its highest bit set
    by_cases htwo : c.val.toNat ≤ 2047
    · rw [if_pos htwo] at h
      simp only [List.mem_cons, List.not_mem_nil, or_false] at h
      rcases h with h | h <;> exact ofNat_ne_zero (by omega) (by omega) h
    · rw [if_neg htwo] at h
      by_cases hthree : c.val.toNat ≤ 65535
      · rw [if_pos hthree] at h
        simp only [List.mem_cons, List.not_mem_nil, or_false] at h
        rcases h with h | h | h <;> exact ofNat_ne_zero (by omega) (by omega) h
      · rw [if_neg hthree] at h
        simp only [List.mem_cons, List.not_mem_nil, or_false] at h
        rcases h with h | h | h | h <;> exact ofNat_ne_zero (by omega) (by omega) h

lemma encode_eq_flatMap (s : String) : encode s = s.toList.flatMap String.utf8EncodeChar := by
  rw [encode, ← String.utf8Encode_toList, List.utf8Encode]
  simp

/-- The bytes of a text without NUL are not zero. -/
lemma zero_notMem_encode {s : String} (h : '\x00' ∉ s.toList) : (0 : UInt8) ∉ encode s := by
  rw [encode_eq_flatMap]
  intro hmem
  obtain ⟨c, hc, hzero⟩ := List.mem_flatMap.mp hmem
  apply h
  rwa [← zero_mem_utf8EncodeChar hzero]

end Utf8

namespace Field

variable {α β : Type}

/-- A field carries the values of `Good`: it writes these and no others, at its width, and reads back what it wrote. -/
structure Carries (field : Field α) (Good : α → Prop) : Prop where
  writes_iff : ∀ value, (∃ bytes, field.write value = .ok bytes) ↔ Good value
  length_write : ∀ {value bytes}, field.write value = .ok bytes → bytes.length = field.width
  read_write : ∀ {value bytes}, field.write value = .ok bytes → ∀ h, field.read bytes h = .ok value

lemma byte_carries : byte.Carries fun _ => True where
  writes_iff value := iff_of_true ⟨_, rfl⟩ trivial
  length_write h := by cases h; rfl
  read_write h _ := by cases h; rfl

lemma reserved_carries : reserved.Carries fun _ => True where
  writes_iff value := iff_of_true ⟨_, rfl⟩ trivial
  length_write h := by cases h; rfl
  read_write h _ := rfl

lemma word_carries : word.Carries fun _ => True where
  writes_iff value := iff_of_true ⟨_, rfl⟩ trivial
  length_write h := by cases h; exact Bytes.length_ofNatLE 2 _
  read_write {value bytes} h _ := by
    have hlt := value.toNat_lt
    cases h
    simp only [word, Bytes.toNatLE_ofNatLE, Bytes.reach, Except.ok.injEq]
    rw [Nat.mod_eq_of_lt (by omega)]
    exact UInt16.ofNat_toNat

lemma uuid_carries : uuid.Carries fun _ => True where
  writes_iff value := iff_of_true ⟨_, rfl⟩ trivial
  length_write h := by cases h; exact Uuid.length_toBytes _
  read_write h _ := by cases h; rfl

lemma choice_carries {name : String} {toByte : α → UInt8} {ofByte? : UInt8 → Option α}
    (h : ∀ value, ofByte? (toByte value) = some value) : (choice name toByte ofByte?).Carries fun _ => True where
  writes_iff value := iff_of_true ⟨_, rfl⟩ trivial
  length_write hwrite := by cases hwrite; rfl
  read_write {value bytes} hwrite _ := by
    cases hwrite
    simp [choice, h value]

lemma write_text_eq_ok_iff {name : String} {capacity : Nat} {value : String} {bytes : Bytes} :
    (text name capacity).write value = .ok bytes ↔
      Fits capacity value ∧ Utf8.encode value ++ Bytes.zeros (capacity - value.utf8ByteSize) = bytes := by
  simp only [text, rules_bind_eq_ok_iff, mapError_eq_ok_iff, checkCapacity_eq_ok_iff, pure, Except.pure, Except.ok.injEq]

/-- A text is carried when it fits. Its end is where the padding starts, or the end of the field. -/
lemma text_carries (name : String) (capacity : Nat) : (text name capacity).Carries (Fits capacity) := by
  constructor
  · intro value
    constructor
    · rintro ⟨bytes, h⟩
      exact (write_text_eq_ok_iff.mp h).1
    · intro fits
      exact ⟨_, write_text_eq_ok_iff.mpr ⟨fits, rfl⟩⟩
  · intro value bytes h
    obtain ⟨fits, rfl⟩ := write_text_eq_ok_iff.mp h
    have hsize := fits.1
    rw [List.length_append, Utf8.length_encode, Bytes.length_zeros]
    exact Nat.add_sub_of_le hsize
  · intro value bytes h hlength
    obtain ⟨fits, rfl⟩ := write_text_eq_ok_iff.mp h
    have hnonzero : ∀ byte ∈ Utf8.encode value, (byte != 0) = true := by
      intro byte hbyte
      rw [bne_iff_ne]
      intro hzero
      exact Utf8.zero_notMem_encode fits.2 (hzero ▸ hbyte)
    have hpadding : (Bytes.zeros (capacity - value.utf8ByteSize)).takeWhile (· != 0) = [] := by
      rw [Bytes.zeros, List.takeWhile_replicate]
      rfl
    simp only [text]
    rw [List.takeWhile_append_of_pos hnonzero, hpadding, List.append_nil, Utf8.decode?_encode]

lemma write_pair_eq_ok_iff {first : Field α} {second : Field β} {value : α × β} {bytes : Bytes} :
    (first.pair second).write value = .ok bytes ↔
      ∃ front, first.write value.1 = .ok front ∧ ∃ back, second.write value.2 = .ok back ∧ front ++ back = bytes := by
  simp only [pair, bind_eq_ok_iff, pure, Except.pure, Except.ok.injEq]

lemma Carries.pair {first : Field α} {second : Field β} {Good : α → Prop} {Good' : β → Prop}
    (h : first.Carries Good) (h' : second.Carries Good') :
    (first.pair second).Carries fun value => Good value.1 ∧ Good' value.2 := by
  constructor
  · intro value
    rw [← h.writes_iff, ← h'.writes_iff]
    constructor
    · rintro ⟨bytes, hwrite⟩
      obtain ⟨front, hfront, back, hback, -⟩ := write_pair_eq_ok_iff.mp hwrite
      exact ⟨⟨front, hfront⟩, ⟨back, hback⟩⟩
    · rintro ⟨⟨front, hfront⟩, ⟨back, hback⟩⟩
      exact ⟨front ++ back, write_pair_eq_ok_iff.mpr ⟨front, hfront, back, hback, rfl⟩⟩
  · intro value bytes hwrite
    obtain ⟨front, hfront, back, hback, rfl⟩ := write_pair_eq_ok_iff.mp hwrite
    rw [List.length_append, h.length_write hfront, h'.length_write hback]
    rfl
  · intro value bytes hwrite hlength
    obtain ⟨front, hfront, back, hback, rfl⟩ := write_pair_eq_ok_iff.mp hwrite
    have hwidth := h.length_write hfront
    simp only [Field.pair, List.take_left' hwidth, List.drop_left' hwidth]
    rw [h.read_write hfront, h'.read_write hback]
    rfl

lemma Carries.as {field : Field α} {Good : α → Prop} (h : field.Carries Good) {pack : α → β} {unpack : β → α}
    (hpack : ∀ value, pack (unpack value) = value) : (field.as pack unpack).Carries fun value => Good (unpack value) where
  writes_iff value := h.writes_iff (unpack value)
  length_write hwrite := h.length_write hwrite
  read_write {value bytes} hwrite hlength := by
    simp only [Field.as, h.read_write hwrite, Except.map, hpack]

lemma flag_carries : flag.Carries fun _ => True :=
  byte_carries.as fun b => by cases b <;> rfl

end Field

end FabricHost
