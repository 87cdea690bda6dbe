import FabricHost.Proofs.Record.Grammar
import Mathlib.Data.List.TakeWhile

/-!
# Writing again what was read

Whatever is read can be written, in as many bytes as it was read from. These are the same bytes unless something was
dropped on reading: what stands behind the end of a text, which of its values but zero a flag has, and reserved bytes.
-/

namespace FabricHost

/-- A part of a record, by what reading it keeps. -/
inductive Part where
  /-- Bytes that are kept. -/
  | kept (width : Nat)
  /-- A text with its padding. -/
  | text (capacity : Nat)
  | flag
  | reserved

namespace Part

def width : Part → Nat
  | kept width => width
  | text capacity => capacity
  | flag | reserved => 1

/-- Nothing is dropped by reading the part: a text is zero from its first NUL on, a flag is zero or one, and a reserved
byte is zero. -/
def Plain : Part → Bytes → Prop
  | kept _, _ => True
  | text _, bytes => ∀ byte ∈ bytes.dropWhile (· != 0), byte = 0
  | flag, bytes => ∀ byte ∈ bytes, byte = 0 ∨ byte = 1
  | reserved, bytes => ∀ byte ∈ bytes, byte = 0

/-- Nothing is dropped by reading parts one after another. -/
def AllPlain : List Part → Bytes → Prop
  | [], _ => True
  | part :: parts, bytes => part.Plain (bytes.take part.width) ∧ AllPlain parts (bytes.drop part.width)

end Part

/-- The parts of a stored attempt, its version first. -/
def Attempt.parts : List Part :=
  [.kept 2, .text Limits.attemptName, .flag, .flag, .kept 1, .flag, .kept 1, .flag, .kept 1, .reserved, .kept 2, .kept 2,
    .text Limits.ipText, .text Limits.ipText, .text Limits.ipText, .text Limits.transportType, .text Limits.targetAddress,
    .text Limits.nqn, .text Limits.nqn, .kept 16, .text Limits.keyPath]

/-- The parts of the stored host defaults, their version first. -/
def HostDefaults.parts : List Part :=
  [.kept 2, .flag, .reserved, .kept 2, .text Limits.nqn, .kept 16, .text Limits.keyPath]

namespace Utf8

/-- The end of a text is no byte of it. -/
lemma nul_notMem_of_zero_notMem {s : String} (h : (0 : UInt8) ∉ encode s) : '\x00' ∉ s.toList := by
  intro hnul
  apply h
  rw [encode_eq_flatMap, List.mem_flatMap]
  exact ⟨'\x00', hnul, by decide⟩

end Utf8

namespace Field

variable {α β : Type}

/-- What the field reads it can write, and it writes the bytes that were read exactly when they are plain. -/
def Rewrites (field : Field α) (Plain : Bytes → Prop) : Prop :=
  ∀ bytes h value, field.read bytes h = .ok value →
    ∃ written, field.write value = .ok written ∧ written.length = field.width ∧ (written = bytes ↔ Plain bytes)

lemma byte_rewrites : byte.Rewrites (Part.kept 1).Plain := by
  intro bytes h value hread
  cases hread
  match bytes, h with
  | [_], _ => exact ⟨_, rfl, rfl, iff_of_true rfl trivial⟩

lemma reserved_rewrites : reserved.Rewrites Part.reserved.Plain := by
  intro bytes h value hread
  match bytes, h with
  | [byte], _ => exact ⟨[0], rfl, rfl, by simp [Part.Plain, eq_comm]⟩

lemma flag_rewrites : flag.Rewrites Part.flag.Plain := by
  intro bytes h value hread
  cases hread
  match bytes, h with
  | [byte], _ =>
    refine ⟨_, rfl, rfl, ?_⟩
    simp only [Part.Plain, List.mem_singleton, forall_eq, List.getElem_cons_zero, List.cons.injEq, and_true]
    by_cases hzero : byte = 0
    · subst hzero
      exact iff_of_true rfl (.inl rfl)
    · rw [if_pos (bne_iff_ne.mpr hzero)]
      exact ⟨fun h => .inr h.symm, fun h => (h.resolve_left hzero).symm⟩

lemma word_rewrites : word.Rewrites (Part.kept 2).Plain := by
  intro bytes h value hread
  cases hread
  have hlength : bytes.length = 2 := h
  have hlt := Bytes.toNatLE_lt bytes
  have hdigits := Bytes.ofNatLE_toNatLE bytes
  rw [hlength] at hlt hdigits
  have hnumber : (UInt16.ofNat bytes.toNatLE).toNat = bytes.toNatLE := UInt16.toNat_ofNat_of_lt' hlt
  refine ⟨_, rfl, Bytes.length_ofNatLE 2 _, iff_of_true ?_ trivial⟩
  rw [hnumber, hdigits]

lemma uuid_rewrites : uuid.Rewrites (Part.kept 16).Plain := by
  intro bytes h value hread
  cases hread
  exact ⟨_, rfl, h, iff_of_true rfl trivial⟩

lemma choice_rewrites {name : String} {toByte : α → UInt8} {ofByte? : UInt8 → Option α}
    (hbyte : ∀ {byte value}, ofByte? byte = some value → toByte value = byte) :
    (choice name toByte ofByte?).Rewrites (Part.kept 1).Plain := by
  intro bytes h value hread
  match bytes, h with
  | [byte], _ =>
    simp only [choice, List.getElem_cons_zero] at hread
    split at hread
    · next found hfound =>
      cases hread
      exact ⟨_, rfl, rfl, iff_of_true (by rw [hbyte hfound]) trivial⟩
    · cases hread

lemma text_rewrites (name : String) (capacity : Nat) : (text name capacity).Rewrites (Part.text capacity).Plain := by
  intro bytes h value hread
  have hlength : bytes.length = capacity := h
  simp only [text] at hread
  split at hread
  · next found hfound =>
    cases hread
    have hused := Utf8.encode_of_decode? hfound
    have hsplit : bytes.takeWhile (· != 0) ++ bytes.dropWhile (· != 0) = bytes := List.takeWhile_append_dropWhile
    have hsize : value.utf8ByteSize + (bytes.dropWhile (· != 0)).length = capacity := by
      rw [← Utf8.length_encode, hused, ← List.length_append, hsplit, hlength]
    have hnul : '\x00' ∉ value.toList := by
      apply Utf8.nul_notMem_of_zero_notMem
      rw [hused]
      intro hzero
      simpa using List.mem_takeWhile_imp hzero
    have hwrite : (text name capacity).write value = .ok _ :=
      write_text_eq_ok_iff.mpr ⟨⟨Nat.le.intro hsize, hnul⟩, rfl⟩
    refine ⟨_, hwrite, (text_carries name capacity).length_write hwrite, ?_⟩
    have hpadding : capacity - value.utf8ByteSize = (bytes.dropWhile (· != 0)).length := by omega
    rw [hused, hpadding, Part.Plain]
    constructor
    · intro heq
      have hzeros := List.append_cancel_left (heq.trans hsplit.symm)
      exact (List.eq_replicate_iff.mp hzeros.symm).2
    · intro hzeros
      have hrest : bytes.dropWhile (· != 0) = Bytes.zeros _ := List.eq_replicate_iff.mpr ⟨rfl, hzeros⟩
      rw [← hrest, hsplit]
  · cases hread

lemma Rewrites.pair {first : Field α} {second : Field β} {Plain Plain' : Bytes → Prop} (h : first.Rewrites Plain)
    (h' : second.Rewrites Plain') :
    (first.pair second).Rewrites fun bytes => Plain (bytes.take first.width) ∧ Plain' (bytes.drop first.width) := by
  rintro bytes hlength ⟨a, b⟩ hread
  obtain ⟨_, hfirst, hrest⟩ := bind_eq_ok_iff.mp hread
  obtain ⟨_, hsecond, heq⟩ := bind_eq_ok_iff.mp hrest
  cases heq
  obtain ⟨front, hfront, hwidth, hplain⟩ := h _ _ _ hfirst
  obtain ⟨back, hback, hwidth', hplain'⟩ := h' _ _ _ hsecond
  refine ⟨front ++ back, write_pair_eq_ok_iff.mpr ⟨front, hfront, back, hback, rfl⟩, ?_, ?_⟩
  · rw [List.length_append, hwidth, hwidth']
    rfl
  · refine Iff.trans ?_ (and_congr hplain hplain')
    constructor
    · rintro rfl
      exact ⟨(List.take_left' hwidth).symm, (List.drop_left' hwidth).symm⟩
    · rintro ⟨rfl, rfl⟩
      exact List.take_append_drop _ _

lemma Rewrites.as {field : Field α} {Plain : Bytes → Prop} (h : field.Rewrites Plain) {pack : α → β} {unpack : β → α}
    (hunpack : ∀ value, unpack (pack value) = value) : (field.as pack unpack).Rewrites Plain := by
  intro bytes hlength value hread
  obtain ⟨found, hfound, rfl⟩ := map_eq_ok_iff.mp hread
  obtain ⟨written, hwrite, hwritten⟩ := h bytes hlength found hfound
  refine ⟨written, ?_, hwritten⟩
  simp only [Field.as, hunpack, hwrite]

/-- The last part of a record takes up what is left of it. -/
lemma Rewrites.last {field : Field α} {part : Part} (h : field.Rewrites part.Plain) (hwidth : part.width = field.width) :
    field.Rewrites (Part.AllPlain [part]) := by
  intro bytes hlength value hread
  obtain ⟨written, hwrite, hsize, hplain⟩ := h bytes hlength value hread
  refine ⟨written, hwrite, hsize, hplain.trans ?_⟩
  rw [Part.AllPlain, List.take_of_length_le (by omega)]
  exact (and_iff_left trivial).symm

end Field

lemma Attempt.layout_rewrites : Attempt.layout.Rewrites (Part.AllPlain Attempt.parts.tail) := by
  have hmode : (Field.choice "ip_mode" IpMode.toByte IpMode.ofByte?).Rewrites _ :=
    Field.choice_rewrites IpMode.toByte_of_ofByte?
  have hauth : (Field.choice "auth_type" AuthMethod.toByte AuthMethod.ofByte?).Rewrites _ :=
    Field.choice_rewrites AuthMethod.toByte_of_ofByte?
  have hpieces := (Field.text_rewrites "name" Limits.attemptName).pair <|
    Field.flag_rewrites.pair <| Field.flag_rewrites.pair <| hmode.pair <|
    Field.flag_rewrites.pair <| hauth.pair <|
    Field.flag_rewrites.pair <| Field.byte_rewrites.pair <| Field.reserved_rewrites.pair <|
    Field.word_rewrites.pair <| Field.word_rewrites.pair <|
    (Field.text_rewrites "local_ip" Limits.ipText).pair <|
    (Field.text_rewrites "subnet_mask" Limits.ipText).pair <|
    (Field.text_rewrites "gateway" Limits.ipText).pair <|
    (Field.text_rewrites "transport_type" Limits.transportType).pair <|
    (Field.text_rewrites "target_address" Limits.targetAddress).pair <|
    (Field.text_rewrites "subsystem_nqn" Limits.nqn).pair <|
    (Field.text_rewrites "host_nqn" Limits.nqn).pair <|
    Field.uuid_rewrites.pair <|
    (Field.text_rewrites "security_key_path" Limits.keyPath).last rfl
  exact hpieces.as fun _ => rfl

lemma HostDefaults.layout_rewrites : HostDefaults.layout.Rewrites (Part.AllPlain HostDefaults.parts.tail) := by
  have hpieces := Field.flag_rewrites.pair <| Field.reserved_rewrites.pair <| Field.word_rewrites.pair <|
    (Field.text_rewrites "host_nqn" Limits.nqn).pair <|
    Field.uuid_rewrites.pair <|
    (Field.text_rewrites "credential_path" Limits.keyPath).last rfl
  exact hpieces.as fun _ => rfl

namespace Record

variable {α : Type} {layout : Field α} {Good : α → Prop} {parts : List Part} {value : α} {bytes : Bytes}

/-- A record that was read is written as it was exactly when its parts are plain. -/
lemma rewrites (hcarries : layout.Carries Good) (hrewrites : layout.Rewrites (Part.AllPlain parts))
    (h : read layout bytes = .ok value) : ∃ written, write layout value = .ok written ∧ written.length = bytes.length ∧
      read layout written = .ok value ∧ (written = bytes ↔ Part.AllPlain (.kept 2 :: parts) bytes) := by
  obtain ⟨image, hwidth, hread, rfl⟩ := read_eq_ok_iff.mp h
  obtain ⟨written, hwrite, hsize, hplain⟩ := hrewrites image hwidth value hread
  have hrecord : write layout value = .ok (Bytes.ofNatLE 2 Limits.recordVersion ++ written) :=
    write_eq_ok_iff.mpr ⟨written, hwrite, rfl⟩
  refine ⟨_, hrecord, ?_, read_write hcarries hrecord, ?_⟩
  · rw [List.length_append, List.length_append, hsize, hwidth]
  · rw [List.append_cancel_left_eq, hplain]
    exact (and_iff_right trivial).symm

end Record

namespace Attempt

variable {blocks : List Bytes} {attempts : List Attempt}

lemma rewrites {bytes : Bytes} {a : Attempt} (h : decode bytes = .ok a) : ∃ written, a.encode = .ok written ∧
    written.length = bytes.length ∧ decode written = .ok a ∧ (written = bytes ↔ Part.AllPlain parts bytes) :=
  Record.rewrites layout_carries layout_rewrites h

/-- Blocks are written again one by one. -/
lemma blocks_rewrite (hall : List.Forall₂ Block blocks attempts) :
    ∃ images, List.Forall₂ (fun a image => encode a = .ok image) attempts images ∧
      images.flatten.length = blocks.flatten.length ∧
      (images.flatten = blocks.flatten ↔ ∀ block ∈ blocks, Part.AllPlain parts block) := by
  induction hall with
  | nil => exact ⟨[], .nil, rfl, iff_of_true rfl (by simp)⟩
  | cons hblock _ ih =>
    obtain ⟨image, hencode, hlength, -, hplain⟩ := rewrites hblock.2
    obtain ⟨images, hencodes, hlengths, hplains⟩ := ih
    refine ⟨image :: images, .cons hencode hencodes, ?_, ?_⟩
    · rw [List.flatten_cons, List.flatten_cons, List.length_append, List.length_append, hlength, hlengths]
    · rw [List.flatten_cons, List.flatten_cons, List.forall_mem_cons, ← hplain, ← hplains]
      constructor
      · intro heq
        exact List.append_inj heq hlength
      · rintro ⟨rfl, heq⟩
        rw [heq]

/-- Blocks stand one after another behind what is in front of them. -/
lemma slice_flatten (hall : List.Forall₂ Block blocks attempts) (front : Bytes) {j : Nat} (h : j < blocks.length) :
    (front ++ blocks.flatten).slice (front.length + j * recordLength) recordLength = blocks[j] := by
  induction hall generalizing front j with
  | nil => cases h
  | @cons block _ blocks _ hblock _ ih =>
    cases j with
    | zero =>
      rw [List.flatten_cons, Nat.zero_mul, Nat.add_zero, Bytes.slice, List.drop_left, List.take_left' hblock.1]
      rfl
    | succ j =>
      have hmore := ih (front ++ block) (Nat.lt_of_succ_lt_succ h)
      have hstart : (front ++ block).length + j * recordLength = front.length + (j + 1) * recordLength := by
        rw [List.length_append, hblock.1, Nat.succ_mul, Nat.add_assoc, Nat.add_comm recordLength]
      rw [List.flatten_cons, ← List.append_assoc, ← hstart, hmore]
      rfl

end Attempt

/-- What is read of attempts, sets of attempts and host defaults can be written in as many bytes, from which the same is
read. They are the bytes that were there exactly when each text was zero from its first NUL on, each flag zero or one and
each reserved byte zero. -/
theorem accepted_records_canonical :
    (∀ bytes a, Attempt.decode bytes = .ok a →
      ∃ written, a.encode = .ok written ∧ written.length = bytes.length ∧ Attempt.decode written = .ok a ∧
        (written = bytes ↔ Part.AllPlain Attempt.parts bytes)) ∧
    (∀ bytes attempts, Attempt.decodeSet bytes = .ok attempts →
      ∃ written, Attempt.encodeSet attempts = .ok written ∧ written.length = bytes.length ∧
        Attempt.decodeSet written = .ok attempts ∧
        (written = bytes ↔ ∀ j < attempts.length,
          Part.AllPlain Attempt.parts (bytes.slice (2 + j * Attempt.recordLength) Attempt.recordLength))) ∧
    ∀ bytes d, HostDefaults.decode bytes = .ok d →
      ∃ written, d.encode = .ok written ∧ written.length = bytes.length ∧ HostDefaults.decode written = .ok d ∧
        (written = bytes ↔ Part.AllPlain HostDefaults.parts bytes) := by
  refine ⟨fun _ _ => Attempt.rewrites, ?_,
    fun _ _ => Record.rewrites HostDefaults.layout_carries HostDefaults.layout_rewrites⟩
  intro bytes attempts h
  obtain ⟨blocks, hcount, hall, rfl⟩ := Attempt.decodeSet_eq_ok_iff.mp h
  obtain ⟨images, hencodes, hlengths, hplains⟩ := Attempt.blocks_rewrite hall
  have hlength : blocks.length = attempts.length := hall.length_eq
  have hencode : Attempt.encodeSet attempts = .ok (Bytes.ofNatLE 2 blocks.length ++ images.flatten) :=
    Attempt.encodeSet_eq_ok_iff.mpr ⟨hlength ▸ hcount, images, hencodes, by rw [hlength]⟩
  refine ⟨_, hencode, ?_, Attempt.decodeSet_encodeSet hencode, ?_⟩
  · rw [List.length_append, List.length_append, hlengths]
  · have hslice := fun j => Attempt.slice_flatten hall (Bytes.ofNatLE 2 blocks.length) (j := j)
    rw [Bytes.length_ofNatLE] at hslice
    rw [List.append_cancel_left_eq, hplains, ← hlength]
    constructor
    · intro hplain j hj
      rw [hslice j hj]
      exact hplain _ (List.getElem_mem hj)
    · intro hplain block hblock
      obtain ⟨j, hj, rfl⟩ := List.getElem_of_mem hblock
      rw [← hslice j hj]
      exact hplain j hj

/-- Host defaults with a flag of two are read as enabled, and not written as they were. -/
theorem accepted_records_canonical_flag :
    ∃ d written, HostDefaults.decode ([1, 0, 2] ++ Bytes.zeros 467) = .ok d ∧ d.encode = .ok written ∧
      written ≠ [1, 0, 2] ++ Bytes.zeros 467 := by
  have hdecode : HostDefaults.decode ([1, 0, 2] ++ Bytes.zeros 467) = .ok { enabled := true } := by decide +kernel
  obtain ⟨written, hencode, -, -, hplain⟩ := accepted_records_canonical.2.2 _ _ hdecode
  refine ⟨_, written, hdecode, hencode, fun heq => ?_⟩
  obtain ⟨-, hflag, -⟩ := hplain.mp heq
  exact absurd (hflag 2 (by decide)) (by decide)

end FabricHost
