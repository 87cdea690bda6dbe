/-!
# Rules

A validation is a sequence of rules. The first rule that is broken gives the error.
-/

namespace FabricHost

variable {ε α : Type}

/-- A rule: a condition, and the error of breaking it. -/
def require (condition : Prop) [Decidable condition] (error : ε) : Except ε Unit :=
  if condition then .ok () else .error error

@[simp] theorem require_eq_ok_iff {condition : Prop} [Decidable condition] {error : ε} :
    require condition error = .ok () ↔ condition := by
  unfold require
  split <;> simp_all

/-- A sequence of rules is kept when each of them is. -/
theorem rules_bind_eq_ok_iff {first : Except ε Unit} {rest : Except ε α} {value : α} :
    (first >>= fun _ => rest) = .ok value ↔ first = .ok () ∧ rest = .ok value := by
  cases first with
  | error e => simp [bind, Except.bind]
  | ok u => simp [bind, Except.bind]

/-- A sequence of steps succeeds when each of them does with what the one before it gave. -/
theorem bind_eq_ok_iff {β : Type} {first : Except ε α} {next : α → Except ε β} {value : β} :
    first >>= next = .ok value ↔ ∃ a, first = .ok a ∧ next a = .ok value := by
  cases first with
  | error e => simp [bind, Except.bind]
  | ok a => simp [bind, Except.bind]

/-- A sequence of steps fails where one of them does. -/
theorem bind_eq_error_iff {β : Type} {first : Except ε α} {next : α → Except ε β} {error : ε} :
    first >>= next = .error error ↔ first = .error error ∨ ∃ a, first = .ok a ∧ next a = .error error := by
  cases first with
  | error e => simp [bind, Except.bind]
  | ok a => simp [bind, Except.bind]

theorem map_eq_ok_iff {β : Type} {result : Except ε α} {f : α → β} {value : β} :
    result.map f = .ok value ↔ ∃ a, result = .ok a ∧ f a = value := by
  cases result with
  | error e => simp [Except.map]
  | ok a => simp [Except.map]

theorem map_eq_error_iff {β : Type} {result : Except ε α} {f : α → β} {error : ε} :
    result.map f = .error error ↔ result = .error error := by
  cases result with
  | error e => simp [Except.map]
  | ok a => simp [Except.map]

/-- A step without a result is one that just succeeds. -/
theorem exists_unit_iff {p : Unit → Prop} : (∃ u, p u) ↔ p () :=
  ⟨fun ⟨_, h⟩ => h, fun h => ⟨(), h⟩⟩

/-- A rule that holds under a condition, as the last of a sequence. -/
theorem conditional_eq_ok_iff {condition : Prop} [Decidable condition] {rule : Except ε Unit} :
    (if condition then rule else pure ()) = .ok () ↔ (condition → rule = .ok ()) := by
  by_cases h : condition
  · simp [h]
  · simp [h, pure, Except.pure]

/-- A rule that holds under a condition, with more rules behind it. -/
theorem conditional_bind_eq_ok_iff {condition : Prop} [Decidable condition] {rule : Except ε Unit}
    {rest : Unit → Except ε α} {value : α} :
    (if condition then rule >>= rest else rest ()) = .ok value ↔
      (condition → rule = .ok ()) ∧ rest () = .ok value := by
  by_cases h : condition
  · rw [if_pos h, bind_eq_ok_iff]
    constructor
    · rintro ⟨_, hrule, hrest⟩
      exact ⟨fun _ => hrule, hrest⟩
    · rintro ⟨hrule, hrest⟩
      exact ⟨(), hrule h, hrest⟩
  · simp [h]

@[simp] theorem mapError_eq_ok_iff {ε' : Type} {rule : Except ε α} {f : ε → ε'} {value : α} :
    rule.mapError f = .ok value ↔ rule = .ok value := by
  cases rule with
  | error e => exact iff_of_false (by rintro ⟨⟩) (by rintro ⟨⟩)
  | ok u =>
    constructor
    · rintro ⟨⟩
      rfl
    · rintro ⟨⟩
      rfl

end FabricHost
