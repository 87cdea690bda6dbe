import FabricHost.Record.Layout
import FabricHost.Rule
import Mathlib.Data.List.Forall2
import Mathlib.Tactic.Lemma
import Mathlib.Tactic.SplitIfs

/-!
# Records are read from their bytes

A record that is read off the front of a byte string is read from as many bytes as it has, whatever follows them. Records
one after another are read block by block, up to the first that cannot be read.
-/

namespace FabricHost.Record

variable {α : Type} {layout : Field α} {value value' : α} {bytes rest : Bytes} {error : RecordError}

lemma ensure_eq (bytes : Bytes) (needed : Nat) :
    ensure bytes needed = if bytes.length < needed then .error (.truncated needed bytes.length) else .ok () := by
  have hlength : (bytes.take needed).length < needed ↔ bytes.length < needed := by
    rw [List.length_take]
    omega
  simp only [ensure, hlength]

lemma ensure_eq_ok_iff {needed : Nat} : ensure bytes needed = .ok () ↔ needed ≤ bytes.length := by
  rw [ensure_eq]
  split
  · exact iff_of_false (by rintro ⟨⟩) (by omega)
  · exact iff_of_true rfl (by omega)

/-- Reading a record off the front looks at its version, then at its length, then at its fields. -/
lemma readFront_eq (layout : Field α) (bytes : Bytes) : readFront layout bytes =
    if bytes.length < 2 then .error (.truncated 2 bytes.length)
    else if Bytes.toNatLE (bytes.take 2) ≠ Limits.recordVersion then
      .error (.unsupportedVersion (Bytes.toNatLE (bytes.take 2)))
    else if h : layout.width ≤ (bytes.drop 2).length then
      (layout.read ((bytes.drop 2).take layout.width) (List.length_take_of_le h)).map
        fun value => (value, (bytes.drop 2).drop layout.width)
    else .error (.truncated layout.width (bytes.drop 2).length) := by
  have himage : ((bytes.drop 2).take layout.width).length = layout.width ↔ layout.width ≤ (bytes.drop 2).length := by
    rw [List.length_take]
    omega
  unfold readFront
  rw [ensure_eq]
  by_cases hcount : bytes.length < 2
  · rw [if_pos hcount, if_pos hcount]
    rfl
  · rw [if_neg hcount, if_neg hcount]
    by_cases hversion : Bytes.toNatLE (bytes.take 2) ≠ Limits.recordVersion
    · simp only [if_pos hversion]
      rfl
    · simp only [if_neg hversion, himage]
      by_cases hwidth : layout.width ≤ (bytes.drop 2).length
      · simp only [dif_pos hwidth]
        cases layout.read ((bytes.drop 2).take layout.width) (List.length_take_of_le hwidth) <;> rfl
      · simp only [dif_neg hwidth]
        rfl

/-- What follows a record read off the front is what follows its bytes. -/
lemma rest_of_readFront {rest : Bytes} (h : readFront layout bytes = .ok (value, rest)) :
    2 + layout.width ≤ bytes.length ∧ rest = bytes.drop (2 + layout.width) := by
  rw [readFront_eq] at h
  split_ifs at h with hcount hversion hwidth
  obtain ⟨_, -, hfront⟩ := map_eq_ok_iff.mp h
  cases hfront
  rw [List.length_drop] at hwidth
  exact ⟨by omega, List.drop_drop⟩

/-- A record is read from as many bytes as it has. What follows them is left. -/
lemma readFront_eq_read (layout : Field α) (bytes : Bytes) : readFront layout bytes =
    (read layout (bytes.take (2 + layout.width))).map fun value => (value, bytes.drop (2 + layout.width)) := by
  rcases Nat.lt_or_ge (2 + layout.width) bytes.length with hlong | hshort
  · have hlength : (bytes.take (2 + layout.width)).length = 2 + layout.width := List.length_take_of_le (Nat.le_of_lt hlong)
    have hversion : (bytes.take (2 + layout.width)).take 2 = bytes.take 2 := by
      rw [List.take_take, Nat.min_eq_left (Nat.le_add_right 2 _)]
    have hbody : (bytes.take (2 + layout.width)).drop 2 = (bytes.drop 2).take layout.width := by
      rw [List.drop_take, Nat.add_sub_cancel_left]
    have hfront : layout.width ≤ (bytes.drop 2).length := by
      rw [List.length_drop]
      omega
    have hrest : ((bytes.drop 2).take layout.width).drop layout.width = [] := by
      rw [List.drop_take, Nat.sub_self, List.take_zero]
    rw [read, readFront_eq layout bytes, readFront_eq layout (bytes.take (2 + layout.width)),
      if_neg (show ¬bytes.length < 2 by omega), if_neg (show ¬(bytes.take (2 + layout.width)).length < 2 by omega)]
    simp only [hversion, hbody, List.take_take, Nat.min_self, List.length_take_of_le hfront, hrest, List.drop_drop,
      dif_pos hfront, dif_pos (Nat.le_refl layout.width)]
    by_cases hunknown : Bytes.toNatLE (bytes.take 2) ≠ Limits.recordVersion
    · simp only [if_pos hunknown]
      rfl
    · simp only [if_neg hunknown]
      cases layout.read ((bytes.drop 2).take layout.width) (List.length_take_of_le hfront) <;> rfl
  · rw [List.take_of_length_le hshort, List.drop_of_length_le hshort, read]
    cases hread : readFront layout bytes with
    | error error => rfl
    | ok front =>
      obtain ⟨value, rest⟩ := front
      obtain ⟨-, rfl⟩ := rest_of_readFront hread
      rw [List.drop_of_length_le hshort]
      rfl

lemma whole_eq_ok_iff : whole (value, rest) = .ok value' ↔ rest = [] ∧ value = value' := by
  simp only [whole]
  by_cases h : rest = []
  · rw [if_pos h, Except.ok.injEq]
    exact (and_iff_right h).symm
  · rw [if_neg h]
    exact iff_of_false (by rintro ⟨⟩) fun hvalue => h hvalue.1

lemma whole_eq_error_iff : whole (value, rest) = .error error ↔ rest ≠ [] ∧ .trailingData rest.length = error := by
  simp only [whole]
  by_cases h : rest = []
  · rw [if_pos h]
    exact iff_of_false (by rintro ⟨⟩) fun hrest => hrest.1 h
  · rw [if_neg h, Except.error.injEq]
    exact (and_iff_right h).symm

/-- A record that can be read is its version and its fields. -/
lemma read_eq_ok_iff : read layout bytes = .ok value ↔ ∃ image, ∃ hwidth : image.length = layout.width,
    layout.read image hwidth = .ok value ∧ bytes = Bytes.ofNatLE 2 Limits.recordVersion ++ image := by
  constructor
  · intro h
    obtain ⟨⟨_, rest⟩, hfront, hwhole⟩ := bind_eq_ok_iff.mp h
    obtain ⟨rfl, rfl⟩ := whole_eq_ok_iff.mp hwhole
    rw [readFront_eq] at hfront
    split_ifs at hfront with hcount hversion hwidth
    obtain ⟨_, hread, heq⟩ := map_eq_ok_iff.mp hfront
    obtain ⟨rfl, hrest⟩ := Prod.mk.inj heq
    have htwo : (bytes.take 2).length = 2 := List.length_take_of_le (Nat.le_of_not_lt hcount)
    have hdigits := Bytes.ofNatLE_toNatLE (bytes.take 2)
    rw [htwo, not_not.mp hversion] at hdigits
    refine ⟨_, List.length_take_of_le hwidth, hread, ?_⟩
    calc bytes
      _ = bytes.take 2 ++ bytes.drop 2 := (List.take_append_drop 2 bytes).symm
      _ = Bytes.ofNatLE 2 Limits.recordVersion ++ bytes.drop 2 := by rw [hdigits]
      _ = Bytes.ofNatLE 2 Limits.recordVersion ++ (bytes.drop 2).take layout.width := by
        rw [← List.take_append_drop layout.width (bytes.drop 2), hrest, List.append_nil, List.take_take, Nat.min_self]
  · rintro ⟨image, hwidth, hread, rfl⟩
    have htwo : (Bytes.ofNatLE 2 Limits.recordVersion).length = 2 := Bytes.length_ofNatLE 2 _
    have hfound : Bytes.toNatLE (Bytes.ofNatLE 2 Limits.recordVersion) = Limits.recordVersion := by decide
    have hlong : ¬(Bytes.ofNatLE 2 Limits.recordVersion ++ image).length < 2 := by
      rw [List.length_append]
      omega
    rw [read, readFront_eq, if_neg hlong]
    simp only [List.take_left' htwo, List.drop_left' htwo, hfound, ne_eq, not_true_eq_false, if_false,
      dif_pos (Nat.le_of_eq hwidth.symm), List.take_of_length_le (Nat.le_of_eq hwidth),
      List.drop_of_length_le (Nat.le_of_eq hwidth), hread]
    rfl

/-- The bytes of one record, and what is read from them. -/
def IsBlock (layout : Field α) (block : Bytes) (value : α) : Prop :=
  block.length = 2 + layout.width ∧ read layout block = .ok value

lemma readFront_eq_ok_iff : readFront layout bytes = .ok (value, rest) ↔
    ∃ block, IsBlock layout block value ∧ bytes = block ++ rest := by
  constructor
  · intro h
    obtain ⟨hlength, rfl⟩ := rest_of_readFront h
    rw [readFront_eq_read, map_eq_ok_iff] at h
    obtain ⟨_, hread, heq⟩ := h
    cases heq
    exact ⟨_, ⟨List.length_take_of_le hlength, hread⟩, (List.take_append_drop _ bytes).symm⟩
  · rintro ⟨block, ⟨hlength, hread⟩, rfl⟩
    rw [readFront_eq_read, List.take_left' hlength, List.drop_left' hlength, hread]
    rfl

lemma readFront_eq_error_iff : readFront layout bytes = .error error ↔
    read layout (bytes.take (2 + layout.width)) = .error error := by
  rw [readFront_eq_read, map_eq_error_iff]

lemma readMany_eq_ok_iff {count : Nat} {values : List α} : readMany layout count bytes = .ok (values, rest) ↔
    ∃ blocks, blocks.length = count ∧ List.Forall₂ (IsBlock layout) blocks values ∧ bytes = blocks.flatten ++ rest := by
  induction count generalizing bytes values rest with
  | zero =>
    constructor
    · intro h
      cases h
      exact ⟨[], rfl, .nil, rfl⟩
    · rintro ⟨blocks, hcount, hall, rfl⟩
      cases List.eq_nil_of_length_eq_zero hcount
      cases hall
      rfl
  | succ count ih =>
    simp only [readMany, bind_eq_ok_iff, Prod.exists, pure, Except.pure, Except.ok.injEq, Prod.mk.injEq,
      readFront_eq_ok_iff, ih]
    constructor
    · rintro ⟨value, _, ⟨block, hblock, rfl⟩, more, _, ⟨blocks, rfl, hall, rfl⟩, rfl, rfl⟩
      exact ⟨block :: blocks, rfl, .cons hblock hall, by rw [List.flatten_cons, List.append_assoc]⟩
    · rintro ⟨blocks, hcount, hall, rfl⟩
      cases hall with
      | nil => cases hcount
      | cons hblock hmore =>
        refine ⟨_, _, ⟨_, hblock, ?_⟩, _, rest, ⟨_, Nat.succ.inj hcount, hmore, rfl⟩, rfl, rfl⟩
        rw [List.flatten_cons, List.append_assoc]

/-- Reading many records fails at the first that cannot be read, with what is wrong with it. -/
lemma readMany_eq_error_iff {count : Nat} : readMany layout count bytes = .error error ↔
    ∃ blocks values rest, blocks.length < count ∧ List.Forall₂ (IsBlock layout) blocks values ∧
      bytes = blocks.flatten ++ rest ∧ read layout (rest.take (2 + layout.width)) = .error error := by
  induction count generalizing bytes with
  | zero => exact iff_of_false (by rintro ⟨⟩) fun ⟨_, _, _, hcount, _⟩ => Nat.not_lt_zero _ hcount
  | succ count ih =>
    simp only [readMany, bind_eq_error_iff, Prod.exists, readFront_eq_ok_iff, ih, readFront_eq_error_iff]
    constructor
    · rintro (hfirst | ⟨value, _, ⟨block, hblock, rfl⟩, hmore | ⟨_, _, -, hpure⟩⟩)
      · exact ⟨[], [], bytes, Nat.succ_pos count, .nil, rfl, hfirst⟩
      · obtain ⟨blocks, values, rest, hcount, hall, rfl, herror⟩ := hmore
        refine ⟨block :: blocks, value :: values, rest, Nat.succ_lt_succ hcount, .cons hblock hall, ?_, herror⟩
        rw [List.flatten_cons, List.append_assoc]
      · cases hpure
    · rintro ⟨blocks, values, rest, hcount, hall, rfl, herror⟩
      cases hall with
      | nil => exact .inl herror
      | cons hblock hmore =>
        refine .inr ⟨_, _, ⟨_, hblock, ?_⟩, .inl ⟨_, _, rest, Nat.lt_of_succ_lt_succ hcount, hmore, rfl, herror⟩⟩
        rw [List.flatten_cons, List.append_assoc]

end FabricHost.Record
