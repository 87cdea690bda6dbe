/-!
# Separated parts

Dotted, colon-separated and hyphenated forms are lists of parts. Cutting at the separator undoes joining, for parts
that are free of it.
-/

namespace FabricHost.Separated

/-- The parts between occurrences of a separator. There is always at least one part, which may be empty. -/
def parts (separator : Char) : List Char → List (List Char)
  | [] => [[]]
  | c :: rest =>
    if c = separator then [] :: parts separator rest
    else match parts separator rest with
      | [] => [[c]]
      | part :: more => (c :: part) :: more

def join (separator : Char) : List (List Char) → List Char
  | [] => []
  | [part] => part
  | part :: more => part ++ separator :: join separator more

theorem parts_of_not_mem (separator : Char) (part : List Char) (h : separator ∉ part) :
    parts separator part = [part] := by
  induction part with
  | nil => rfl
  | cons c rest ih =>
    have hc : c ≠ separator := fun hc => h (hc ▸ List.mem_cons_self)
    have hrest : separator ∉ rest := fun hrest => h (List.mem_cons_of_mem _ hrest)
    simp [parts, hc, ih hrest]

theorem parts_append (separator : Char) (part rest : List Char) (h : separator ∉ part) :
    parts separator (part ++ separator :: rest) = part :: parts separator rest := by
  induction part with
  | nil => simp [parts]
  | cons c part ih =>
    have hc : c ≠ separator := fun hc => h (hc ▸ List.mem_cons_self)
    have hpart : separator ∉ part := fun hpart => h (List.mem_cons_of_mem _ hpart)
    simp [parts, hc, ih hpart]

/-- Cutting undoes joining. -/
theorem parts_join (separator : Char) (ps : List (List Char)) (hne : ps ≠ [])
    (h : ∀ part ∈ ps, separator ∉ part) : parts separator (join separator ps) = ps := by
  induction ps with
  | nil => exact absurd rfl hne
  | cons part more ih =>
    have hpart := h part List.mem_cons_self
    cases more with
    | nil => exact parts_of_not_mem separator part hpart
    | cons next more =>
      rw [join, parts_append _ _ _ hpart, ih (by simp) fun p hp => h p (List.mem_cons_of_mem _ hp)]
      simp

theorem mem_of_mem_join {separator c : Char} {ps : List (List Char)} (h : c ∈ join separator ps) :
    c = separator ∨ ∃ part ∈ ps, c ∈ part := by
  induction ps with
  | nil => exact absurd h List.not_mem_nil
  | cons part more ih =>
    cases more with
    | nil => exact .inr ⟨part, List.mem_cons_self, h⟩
    | cons next more =>
      rw [join, List.mem_append, List.mem_cons] at h
      · rcases h with h | h | h
        · exact .inr ⟨part, List.mem_cons_self, h⟩
        · exact .inl h
        · rcases ih h with h | ⟨other, hother, h⟩
          · exact .inl h
          · exact .inr ⟨other, List.mem_cons_of_mem _ hother, h⟩
      · simp

theorem length_join_le {separator : Char} {bound : Nat} {ps : List (List Char)} (h : ∀ part ∈ ps, part.length ≤ bound) :
    (join separator ps).length ≤ (bound + 1) * ps.length := by
  induction ps with
  | nil => simp [join]
  | cons part more ih =>
    have hpart := h part List.mem_cons_self
    cases more with
    | nil =>
      simp only [join, List.length_singleton]
      omega
    | cons next more =>
      have hmore := ih fun other hother => h other (List.mem_cons_of_mem _ hother)
      rw [join]
      · simp only [List.length_append, List.length_cons] at hmore ⊢
        have hmul : (bound + 1) * (more.length + 1 + 1) = (bound + 1) * (more.length + 1) + (bound + 1) := Nat.mul_succ _ _
        omega
      · simp

/-- Cutting loses nothing but separators. -/
theorem mem_parts_of_mem {separator c : Char} {cs : List Char} (h : c ∈ cs) (hne : c ≠ separator) :
    ∃ part ∈ parts separator cs, c ∈ part := by
  induction cs with
  | nil => exact absurd h List.not_mem_nil
  | cons first rest ih =>
    rw [parts]
    by_cases hfirst : first = separator
    · rw [if_pos hfirst]
      rcases List.mem_cons.mp h with rfl | h
      · exact absurd hfirst hne
      · obtain ⟨part, hpart, hmem⟩ := ih h
        exact ⟨part, List.mem_cons_of_mem _ hpart, hmem⟩
    · rw [if_neg hfirst]
      rcases hparts : parts separator rest with _ | ⟨part, more⟩
      · rcases List.mem_cons.mp h with rfl | h
        · exact ⟨[c], by simp, by simp⟩
        · obtain ⟨part, hpart, -⟩ := ih h
          rw [hparts] at hpart
          exact absurd hpart List.not_mem_nil
      · rcases List.mem_cons.mp h with rfl | h
        · exact ⟨c :: part, by simp, by simp⟩
        · obtain ⟨other, hother, hmem⟩ := ih h
          rw [hparts] at hother
          rcases List.mem_cons.mp hother with rfl | hother
          · exact ⟨first :: other, by simp, by simp [hmem]⟩
          · exact ⟨other, List.mem_cons_of_mem _ hother, hmem⟩

end FabricHost.Separated
