import FabricHost.Proofs.Record.Layout
import FabricHost.Proofs.Record.Scanning

/-!
# The grammar of stored sets

A byte string is read as a set of attempts exactly when it is a count and that many records, each of which is read as
its attempt. Everything else is refused for the first thing in it that is wrong: too few bytes for a count, a record that
cannot be read, or bytes behind the last record.
-/

namespace FabricHost

/-- The error is about what a field holds. -/
inductive RecordError.Content : RecordError → Prop
  | text (field : String) : Content (.invalidText field)
  | value (field : String) (value : UInt8) : Content (.invalidValue field value)

namespace Field

variable {α β : Type}

/-- A field is refused for what it holds and nothing else. -/
def BlamesContent (field : Field α) : Prop :=
  ∀ bytes h error, field.read bytes h = .error error → error.Content

lemma byte_blames : byte.BlamesContent := by
  rintro bytes h error ⟨⟩

lemma reserved_blames : reserved.BlamesContent := by
  rintro bytes h error ⟨⟩

lemma word_blames : word.BlamesContent := by
  rintro bytes h error ⟨⟩

lemma uuid_blames : uuid.BlamesContent := by
  rintro bytes h error ⟨⟩

lemma choice_blames (name : String) (toByte : α → UInt8) (ofByte? : UInt8 → Option α) :
    (choice name toByte ofByte?).BlamesContent := by
  intro bytes h error herror
  simp only [choice] at herror
  split at herror <;> cases herror
  exact .value name _

lemma text_blames (name : String) (capacity : Nat) : (text name capacity).BlamesContent := by
  intro bytes h error herror
  simp only [text] at herror
  split at herror <;> cases herror
  exact .text name

lemma BlamesContent.pair {first : Field α} {second : Field β} (h : first.BlamesContent) (h' : second.BlamesContent) :
    (first.pair second).BlamesContent := by
  intro bytes hlength error herror
  rcases bind_eq_error_iff.mp herror with hfirst | ⟨_, -, hrest⟩
  · exact h _ _ _ hfirst
  · rcases bind_eq_error_iff.mp hrest with hsecond | ⟨_, -, hpure⟩
    · exact h' _ _ _ hsecond
    · cases hpure

lemma BlamesContent.as {field : Field α} (h : field.BlamesContent) (pack : α → β) (unpack : β → α) :
    (field.as pack unpack).BlamesContent :=
  fun bytes hlength error herror => h bytes hlength error (map_eq_error_iff.mp herror)

lemma flag_blames : flag.BlamesContent := byte_blames.as _ _

end Field

lemma Attempt.layout_blames : Attempt.layout.BlamesContent := by
  apply Field.BlamesContent.as
  exact (Field.text_blames _ _).pair <| Field.flag_blames.pair <| Field.flag_blames.pair <|
    (Field.choice_blames _ _ _).pair <| Field.flag_blames.pair <| (Field.choice_blames _ _ _).pair <|
    Field.flag_blames.pair <| Field.byte_blames.pair <| Field.reserved_blames.pair <|
    Field.word_blames.pair <| Field.word_blames.pair <|
    (Field.text_blames _ _).pair <| (Field.text_blames _ _).pair <| (Field.text_blames _ _).pair <|
    (Field.text_blames _ _).pair <| (Field.text_blames _ _).pair <| (Field.text_blames _ _).pair <|
    (Field.text_blames _ _).pair <| Field.uuid_blames.pair <| Field.text_blames _ _

namespace Record

variable {α : Type} {layout : Field α} {bytes : Bytes}

/-- Reading a record off the front leaves what follows it to others. -/
lemma readFront_ne_trailing (h : layout.BlamesContent) {length : Nat} :
    readFront layout bytes ≠ .error (.trailingData length) := by
  rw [readFront_eq]
  intro herror
  split_ifs at herror with hcount hversion hwidth
  · cases herror
  · cases herror
  · cases h _ _ _ (map_eq_error_iff.mp herror)
  · cases herror

end Record

namespace Attempt

/-- The bytes of one stored attempt. -/
def Block (block : Bytes) (a : Attempt) : Prop :=
  block.length = recordLength ∧ decode block = .ok a

/-- What is wrong with a byte string that is not a set of attempts. -/
inductive SetFault : Bytes → RecordError → Prop
  /-- There is no count. -/
  | uncounted (bytes : Bytes) (h : bytes.length < 2) : SetFault bytes (.truncated 2 bytes.length)
  /-- A record that is counted cannot be read, and all before it can. What follows its bytes does not matter. -/
  | record (count : Nat) (blocks : List Bytes) (attempts : List Attempt) (rest : Bytes) (error : RecordError)
      (hcount : count ≤ Limits.setCount) (hmore : blocks.length < count) (hall : List.Forall₂ Block blocks attempts)
      (h : decode (rest.take recordLength) = .error error) :
      SetFault (Bytes.ofNatLE 2 count ++ (blocks.flatten ++ rest)) error
  /-- All records can be read, and there are bytes behind them. -/
  | trailing (blocks : List Bytes) (attempts : List Attempt) (rest : Bytes) (hcount : blocks.length ≤ Limits.setCount)
      (hall : List.Forall₂ Block blocks attempts) (h : rest ≠ []) :
      SetFault (Bytes.ofNatLE 2 blocks.length ++ (blocks.flatten ++ rest)) (.trailingData rest.length)

variable {attempts : List Attempt} {bytes : Bytes} {error : RecordError}

lemma decodeSet_short (h : bytes.length < 2) : decodeSet bytes = .error (.truncated 2 bytes.length) := by
  rw [decodeSet, Record.ensure_eq, if_pos h]
  rfl

/-- A byte string starts with a count, unless it is too short for one. -/
lemma exists_count (h : 2 ≤ bytes.length) :
    ∃ count body, count ≤ Limits.setCount ∧ bytes = Bytes.ofNatLE 2 count ++ body := by
  have hlength : (bytes.take 2).length = 2 := List.length_take_of_le h
  have hlt := Bytes.toNatLE_lt (bytes.take 2)
  have hdigits := Bytes.ofNatLE_toNatLE (bytes.take 2)
  rw [hlength] at hlt hdigits
  refine ⟨Bytes.toNatLE (bytes.take 2), bytes.drop 2, Nat.le_of_lt_succ hlt, ?_⟩
  rw [hdigits, List.take_append_drop]

lemma decodeSet_eq_ok_iff : decodeSet bytes = .ok attempts ↔
    ∃ blocks, blocks.length ≤ Limits.setCount ∧ List.Forall₂ Block blocks attempts ∧
      bytes = Bytes.ofNatLE 2 blocks.length ++ blocks.flatten := by
  constructor
  · intro h
    rcases Nat.lt_or_ge bytes.length 2 with hshort | hlong
    · rw [decodeSet_short hshort] at h
      cases h
    · obtain ⟨count, body, hcount, rfl⟩ := exists_count hlong
      rw [decodeSet_append hcount, bind_eq_ok_iff] at h
      obtain ⟨⟨found, rest⟩, hmany, hwhole⟩ := h
      obtain ⟨rfl, rfl⟩ := Record.whole_eq_ok_iff.mp hwhole
      obtain ⟨blocks, rfl, hall, rfl⟩ := Record.readMany_eq_ok_iff.mp hmany
      exact ⟨blocks, hcount, hall, by rw [List.append_nil]⟩
  · rintro ⟨blocks, hcount, hall, rfl⟩
    rw [decodeSet_append hcount, bind_eq_ok_iff]
    exact ⟨(attempts, []), Record.readMany_eq_ok_iff.mpr ⟨blocks, rfl, hall, (List.append_nil _).symm⟩, rfl⟩

lemma decodeSet_eq_error_iff : decodeSet bytes = .error error ↔ SetFault bytes error := by
  constructor
  · intro h
    rcases Nat.lt_or_ge bytes.length 2 with hshort | hlong
    · rw [decodeSet_short hshort] at h
      cases h
      exact .uncounted bytes hshort
    · obtain ⟨count, body, hcount, rfl⟩ := exists_count hlong
      rw [decodeSet_append hcount, bind_eq_error_iff] at h
      rcases h with hmany | ⟨⟨found, rest⟩, hmany, hwhole⟩
      · obtain ⟨blocks, found, rest, hmore, hall, rfl, herror⟩ := Record.readMany_eq_error_iff.mp hmany
        exact .record count blocks found rest error hcount hmore hall herror
      · obtain ⟨hrest, rfl⟩ := Record.whole_eq_error_iff.mp hwhole
        obtain ⟨blocks, rfl, hall, rfl⟩ := Record.readMany_eq_ok_iff.mp hmany
        exact .trailing blocks found rest hcount hall hrest
  · intro h
    cases h with
    | uncounted _ h => exact decodeSet_short h
    | record count blocks found rest _ hcount hmore hall h =>
      rw [decodeSet_append hcount, bind_eq_error_iff]
      exact .inl (Record.readMany_eq_error_iff.mpr ⟨blocks, found, rest, hmore, hall, rfl, h⟩)
    | trailing blocks found rest hcount hall h =>
      rw [decodeSet_append hcount, bind_eq_error_iff]
      exact .inr ⟨(found, rest), Record.readMany_eq_ok_iff.mpr ⟨blocks, rfl, hall, rfl⟩,
        Record.whole_eq_error_iff.mpr ⟨h, rfl⟩⟩

/-- Bytes are said to trail only behind records that can all be read. -/
lemma decodeSet_trailing_iff {length : Nat} : decodeSet bytes = .error (.trailingData length) ↔
    ∃ blocks attempts rest, blocks.length ≤ Limits.setCount ∧ List.Forall₂ Block blocks attempts ∧ rest ≠ [] ∧
      length = rest.length ∧ bytes = Bytes.ofNatLE 2 blocks.length ++ (blocks.flatten ++ rest) := by
  rw [decodeSet_eq_error_iff]
  constructor
  · intro h
    cases h with
    | record count blocks found rest _ hcount hmore hall h =>
      exact absurd (Record.readFront_eq_error_iff.mpr h) (Record.readFront_ne_trailing layout_blames)
    | trailing blocks found rest hcount hall h => exact ⟨blocks, found, rest, hcount, hall, h, rfl, rfl⟩
  · rintro ⟨blocks, found, rest, hcount, hall, hrest, rfl, rfl⟩
    exact .trailing blocks found rest hcount hall hrest

end Attempt

/-- Exactly the byte strings of a count and that many records are read as sets of attempts, each record as its attempt.
Any other is refused for the first record that cannot be read, or for what follows the records when all can. No reader of
records ever asks for more bytes than there are. -/
theorem stored_set_grammar (bytes : Bytes) :
    (∀ attempts, Attempt.decodeSet bytes = .ok attempts ↔
      ∃ blocks, blocks.length ≤ Limits.setCount ∧ List.Forall₂ Attempt.Block blocks attempts ∧
        bytes = Bytes.ofNatLE 2 blocks.length ++ blocks.flatten) ∧
    (∀ error, Attempt.decodeSet bytes = .error error ↔ Attempt.SetFault bytes error) ∧
    (∀ length, Attempt.decodeSet bytes = .error (.trailingData length) ↔
      ∃ blocks attempts rest, blocks.length ≤ Limits.setCount ∧ List.Forall₂ Attempt.Block blocks attempts ∧ rest ≠ [] ∧
        length = rest.length ∧ bytes = Bytes.ofNatLE 2 blocks.length ++ (blocks.flatten ++ rest)) ∧
    (Scan.whole Scan.attempt).run bytes = some (Attempt.decode bytes) ∧
    Scan.attemptSet.run bytes = some (Attempt.decodeSet bytes) ∧
    (Scan.whole Scan.defaults).run bytes = some (HostDefaults.decode bytes) :=
  ⟨fun _ => Attempt.decodeSet_eq_ok_iff, fun _ => Attempt.decodeSet_eq_error_iff, fun _ => Attempt.decodeSet_trailing_iff,
    Scan.run_whole Scan.attempt_gives bytes, Scan.attemptSet_run bytes, Scan.run_whole Scan.defaults_gives bytes⟩

end FabricHost
