import FabricHost.Record.Capacity
import FabricHost.Uuid.Basic
import Mathlib.Tactic.Lemma

/-!
# Written identifiers are read back

The text of an identifier is its hyphenated form: neither wrapped nor as long as plain digits, so it is read group by
group.
-/

namespace FabricHost.Uuid

lemma exists_digit_of_mem_ofBytes {c : Char} {bytes : Bytes} (h : c ∈ Hex.ofBytes bytes) :
    ∃ d < 16, c = Hex.digit d := by
  obtain ⟨b, -, h⟩ := List.mem_flatMap.mp h
  have hlt := b.toNat_lt
  simp only [Hex.ofByte, List.mem_cons, List.not_mem_nil, or_false] at h
  rcases h with rfl | rfl
  · exact ⟨b.toNat / 16, by omega, rfl⟩
  · exact ⟨b.toNat % 16, by omega, rfl⟩

/-- The groups of digits between the hyphens. -/
def groups (digits : List Char) : List (List Char) :=
  [digits.take 8, (digits.drop 8).take 4, (digits.drop 12).take 4, (digits.drop 16).take 4, digits.drop 20]

lemma mem_of_mem_groups {c : Char} {part digits : List Char} (hpart : part ∈ groups digits) (h : c ∈ part) :
    c ∈ digits := by
  simp only [groups, List.mem_cons, List.not_mem_nil, or_false] at hpart
  rcases hpart with rfl | rfl | rfl | rfl | rfl
  · exact List.mem_of_mem_take h
  · exact List.mem_of_mem_drop (List.mem_of_mem_take h)
  · exact List.mem_of_mem_drop (List.mem_of_mem_take h)
  · exact List.mem_of_mem_drop (List.mem_of_mem_take h)
  · exact List.mem_of_mem_drop h

lemma flatten_groups (digits : List Char) : (groups digits).flatten = digits := by
  have hdrop : ∀ n m, digits.drop n = (digits.drop n).take m ++ digits.drop (n + m) := by
    intro n m
    rw [← List.drop_drop, List.take_append_drop]
  calc (groups digits).flatten
    _ = digits.take 8 ++ ((digits.drop 8).take 4 ++ ((digits.drop 12).take 4 ++
          ((digits.drop 16).take 4 ++ digits.drop 20))) := by
      simp [groups]
    _ = digits.take 8 ++ digits.drop 8 := by rw [← hdrop 16 4, ← hdrop 12 4, ← hdrop 8 4]
    _ = digits := List.take_append_drop 8 digits

lemma parts_chars (u : Uuid) : Separated.parts '-' u.chars = groups (Hex.ofBytes u.toBytes) := by
  apply Separated.parts_join
  · simp
  · intro part hpart hmem
    obtain ⟨d, hd, h⟩ := exists_digit_of_mem_ofBytes (mem_of_mem_groups hpart hmem)
    revert d
    decide

lemma mem_chars {u : Uuid} {c : Char} (h : c ∈ u.chars) : c = '-' ∨ ∃ d < 16, c = Hex.digit d := by
  rcases Separated.mem_of_mem_join h with h | ⟨part, hpart, h⟩
  · exact .inl h
  · exact .inr (exists_digit_of_mem_ofBytes (mem_of_mem_groups hpart h))

lemma length_groups {digits : List Char} (h : digits.length = 32) :
    (groups digits).map List.length = [8, 4, 4, 4, 12] := by
  simp [groups, h]

lemma length_chars (u : Uuid) : u.chars.length = 36 := by
  simp [chars, Separated.join]

/-- Neither of the wrapped forms begins like an identifier. -/
lemma unwrap_chars (u : Uuid) : unwrap u.chars = u.chars := by
  have hlength := u.length_chars
  rcases hchars : u.chars with _ | ⟨c, rest⟩
  · rw [hchars] at hlength
    cases hlength
  · have hfirst : c ≠ '\x7b' ∧ ¬c.toLower = 'u' := by
      rcases mem_chars (hchars ▸ List.mem_cons_self : c ∈ u.chars) with rfl | ⟨d, hd, rfl⟩
      · decide
      · clear hchars
        revert d
        decide
    have hurn : urnPrefix.isPrefixOf ((c :: rest).map Char.toLower) = false := by
      have hcons : urnPrefix = 'u' :: "rn:uuid:".toList := by decide
      rw [hcons, List.map_cons, List.isPrefixOf, beq_eq_false_iff_ne.mpr (Ne.symm hfirst.2), Bool.false_and]
    unfold unwrap
    split
    · rename_i heq
      exact absurd (List.cons.inj heq).1 hfirst.1
    · rw [hurn]
      rfl

/-- The text of an identifier is read as that identifier. -/
theorem parse?_text (u : Uuid) : parse? u.text = some u := by
  have hgroups : (groups (Hex.ofBytes u.toBytes)).map List.length = [8, 4, 4, 4, 12] := length_groups (by simp)
  rw [parse?, text, String.toList_ofList, if_neg (by simp [length_chars]), unwrap_chars, ofHyphenated?, parts_chars,
    if_pos hgroups, flatten_groups, ofDigits?, Hex.toBytes?_ofBytes]
  exact ofBytes?_toBytes u

theorem text_ne_empty (u : Uuid) : u.text ≠ "" := by
  intro h
  have hlength := congrArg String.length h
  rw [text, String.length_ofList, length_chars] at hlength
  exact absurd hlength (by decide)

theorem fits_text (u : Uuid) {capacity : Nat} (h : 36 ≤ capacity) : Fits capacity u.text := by
  apply fits_ofList
  · intro c hc
    rcases mem_chars hc with rfl | ⟨d, hd, rfl⟩
    · decide
    · clear hc
      revert d
      decide
  · rw [length_chars]
    exact h

end FabricHost.Uuid
