import FabricHost.Proofs.Ownership.Tracing

/-!
# Accounts of handles

A session holds one controller and at most one I/O queue pair. Holdings account for a trace if every handle that was
given out is held by one or was released, once and not both. Giving out the next handle to someone who then holds it
keeps the accounts, and so does releasing a handle that is held.
-/

namespace FabricHost

namespace HandleEvent

def givesController : HandleEvent → Bool
  | connected => true
  | _ => false

def givesQueue : HandleEvent → Bool
  | created _ => true
  | _ => false

end HandleEvent

lemma getElem?_concat_eq_some {events : List HandleEvent} {event found : HandleEvent} {number : Nat} :
    (events ++ [event])[number]? = some found ↔
      events[number]? = some found ∨ number = events.length ∧ event = found := by
  rw [List.getElem?_append]
  split
  · rename_i hlt
    have hne : number ≠ events.length := Nat.ne_of_lt hlt
    simp [hne]
  · rename_i hge
    rw [List.getElem?_eq_none (Nat.le_of_not_lt hge), List.getElem?_singleton]
    by_cases heq : number = events.length
    · simp [heq]
    · have hsub : number - events.length ≠ 0 := by omega
      simp [heq, hsub]

/-- A number has an owner or a release, and only one of them, exactly if it was given out. -/
def Balanced (owners : Nat → Nat) (gives : HandleEvent → Bool) (released : Nat → HandleEvent)
    (events : List HandleEvent) : Prop :=
  ∀ number, owners number + events.count (released number) = ((events[number]?).any gives).toNat

namespace Balanced

variable {owners owners' : Nat → Nat} {gives : HandleEvent → Bool} {released : Nat → HandleEvent}
  {events : List HandleEvent} {event : HandleEvent}

lemma any_getElem?_concat (gives : HandleEvent → Bool) (events : List HandleEvent) (event : HandleEvent) (number : Nat) :
    ((events ++ [event])[number]?).any gives =
      if number = events.length then gives event else (events[number]?).any gives := by
  by_cases heq : number = events.length
  · rw [if_pos heq, heq, List.getElem?_concat_length, Option.any_some]
  · rw [if_neg heq, List.getElem?_append]
    split
    · rfl
    · have hpast : events.length < number := by omega
      rw [List.getElem?_eq_none (by simp; omega), List.getElem?_eq_none (Nat.le_of_lt hpast)]

variable (h : Balanced owners gives released events)
include h

/-- The next number has neither an owner nor a release. -/
lemma next : owners events.length = 0 ∧ events.count (released events.length) = 0 := by
  have hnext := h events.length
  rw [List.getElem?_eq_none (Nat.le_refl _), Option.any_none, Bool.toNat_false] at hnext
  exact Nat.add_eq_zero_iff.mp hnext

lemma owners_eq_zero {number : Nat} (hpast : events.length ≤ number) : owners number = 0 := by
  have hnumber := h number
  rw [List.getElem?_eq_none hpast, Option.any_none, Bool.toNat_false] at hnumber
  exact (Nat.add_eq_zero_iff.mp hnumber).1

lemma count_eq_one {number : Nat} (hgiven : (events[number]?).any gives = true) (hfree : owners number = 0) :
    events.count (released number) = 1 := by
  have hnumber := h number
  rwa [hgiven, hfree, Nat.zero_add] at hnumber

/-- Who owns a handle can count on it not being released. -/
lemma count_eq_zero {number : Nat} (howned : 0 < owners number) : events.count (released number) = 0 := by
  have hnumber := h number
  have hle := Bool.toNat_le ((events[number]?).any gives)
  omega

lemma congr (howners : ∀ number, owners' number = owners number) : Balanced owners' gives released events := by
  intro number
  rw [howners, h number]

/-- An event that is about other handles. -/
lemma other (hgives : gives event = false) (hreleased : ∀ number, event ≠ released number)
    (howners : ∀ number, owners' number = owners number) : Balanced owners' gives released (events ++ [event]) := by
  intro number
  rw [any_getElem?_concat, hgives, List.count_append, List.count_singleton, howners, beq_false_of_ne (hreleased number),
    if_neg Bool.false_ne_true, Nat.add_zero, h number]
  by_cases heq : number = events.length
  · rw [if_pos heq, heq, List.getElem?_eq_none (Nat.le_refl _), Option.any_none]
  · rw [if_neg heq]

/-- The next handle is given out and gets its owner. -/
lemma give (hgives : gives event = true) (hreleased : ∀ number, event ≠ released number)
    (howners : ∀ number, owners' number = owners number + if number = events.length then 1 else 0) :
    Balanced owners' gives released (events ++ [event]) := by
  intro number
  rw [any_getElem?_concat, hgives, List.count_append, List.count_singleton, howners, beq_false_of_ne (hreleased number),
    if_neg Bool.false_ne_true, Nat.add_zero]
  by_cases heq : number = events.length
  · rw [if_pos heq, if_pos heq, heq, h.next.1, h.next.2, Bool.toNat_true]
  · rw [if_neg heq, if_neg heq, Nat.add_zero, h number]

/-- A handle is released by its owner. -/
lemma release (number : Nat) (hgives : gives (released number) = false) (hinjective : Function.Injective released)
    (howners : ∀ other, owners other = owners' other + if other = number then 1 else 0) :
    Balanced owners' gives released (events ++ [released number]) := by
  intro other
  have hother := h other
  rw [howners] at hother
  have hevent : List.count (released other) [released number] = if other = number then 1 else 0 := by
    by_cases heq : other = number
    · rw [heq, if_pos rfl, List.count_singleton_self]
    · have hne : released other ≠ released number := fun hsame => heq (hinjective hsame)
      rw [if_neg heq, List.count_eq_zero, List.mem_singleton]
      exact hne
  rw [any_getElem?_concat, hgives, List.count_append, hevent]
  by_cases heq : other = events.length
  · have hzero := h.next
    rw [← heq, howners] at hzero
    rw [if_pos heq, Bool.toNat_false]
    omega
  · rw [if_neg heq, ← hother]
    omega

end Balanced

/-- The numbers of the handles that a session holds. -/
structure Holding where
  controller : Nat
  queue : Option Nat
deriving DecidableEq, Repr

/-- Every handle that was given out is held or was released. Queue pairs are held with the controllers that made them,
and released before these. -/
structure Accounts (holdings : List Holding) (events : List HandleEvent) : Prop where
  controllers : Balanced (fun number => holdings.countP (·.controller = number)) HandleEvent.givesController
    HandleEvent.controllerReleased events
  queues : Balanced (fun number => holdings.countP (·.queue = some number)) HandleEvent.givesQueue
    HandleEvent.queueReleased events
  creators : ∀ holding ∈ holdings, ∀ number, holding.queue = some number →
    events[number]? = some (.created holding.controller)
  order : ∀ {queue controller early late : Nat}, events[queue]? = some (.created controller) →
    events[early]? = some (.queueReleased queue) → events[late]? = some (.controllerReleased controller) → early < late

namespace Accounts

lemma start : Accounts [] [] where
  controllers _ := rfl
  queues _ := rfl
  creators holding hholding := (List.not_mem_nil hholding).elim
  order hcreated := by simp at hcreated

variable {holdings holdings' : List Holding} {events : List HandleEvent} {controller queue : Nat}

lemma perm (h : Accounts holdings events) (hperm : holdings.Perm holdings') : Accounts holdings' events where
  controllers := h.controllers.congr fun _ => hperm.symm.countP_eq _
  queues := h.queues.congr fun _ => hperm.symm.countP_eq _
  creators holding hholding := h.creators holding (hperm.mem_iff.mpr hholding)
  order := h.order

lemma connect (h : Accounts holdings events) :
    Accounts (⟨events.length, none⟩ :: holdings) (events ++ [.connected]) where
  controllers := h.controllers.give rfl (by simp) fun number => by simp [List.countP_cons, eq_comm]
  queues := h.queues.other rfl (by simp) fun number => by simp
  creators holding hholding number hqueue := by
    rw [getElem?_concat_eq_some]
    rcases List.mem_cons.mp hholding with rfl | hold
    · cases hqueue
    · exact .inl (h.creators holding hold number hqueue)
  order hcreated hearly hlate := by
    simp only [getElem?_concat_eq_some, reduceCtorEq, and_false, or_false] at hcreated hearly hlate
    exact h.order hcreated hearly hlate

/-- A controller that is held gives out the next queue pair. -/
lemma create (h : Accounts (⟨controller, none⟩ :: holdings) events) :
    Accounts (⟨controller, some events.length⟩ :: holdings) (events ++ [.created controller]) where
  controllers := h.controllers.other rfl (by simp) fun number => by simp [List.countP_cons]
  queues := h.queues.give rfl (by simp) fun number => by simp [List.countP_cons, eq_comm]
  creators holding hholding number hqueue := by
    rw [getElem?_concat_eq_some]
    rcases List.mem_cons.mp hholding with rfl | hold
    · cases hqueue
      exact .inr ⟨rfl, rfl⟩
    · exact .inl (h.creators holding (List.mem_cons_of_mem _ hold) number hqueue)
  order {queue _ early late} hcreated hearly hlate := by
    simp only [getElem?_concat_eq_some, reduceCtorEq, and_false, or_false] at hcreated hearly hlate
    rcases hcreated with hcreated | ⟨rfl, -⟩
    · exact h.order hcreated hearly hlate
    · -- The new queue pair cannot have been released already.
      have hunused := List.count_eq_zero.mp h.queues.next.2
      exact (hunused (List.mem_of_getElem? hearly)).elim

/-- A queue pair that is held is released, while its controller is held too. -/
lemma releaseQueue (h : Accounts (⟨controller, some queue⟩ :: holdings) events) :
    Accounts (⟨controller, none⟩ :: holdings) (events ++ [.queueReleased queue]) where
  controllers := h.controllers.other rfl (by simp) fun number => by simp [List.countP_cons]
  queues := h.queues.release queue rfl (fun _ _ heq => HandleEvent.queueReleased.inj heq) fun number => by
    simp [List.countP_cons, eq_comm]
  creators holding hholding number hqueue := by
    rw [getElem?_concat_eq_some]
    rcases List.mem_cons.mp hholding with rfl | hold
    · cases hqueue
    · exact .inl (h.creators holding (List.mem_cons_of_mem _ hold) number hqueue)
  order {other _ early late} hcreated hearly hlate := by
    simp only [getElem?_concat_eq_some, reduceCtorEq, and_false, or_false] at hcreated hearly hlate
    rcases hearly with hearly | ⟨-, heq⟩
    · exact h.order hcreated hearly hlate
    · -- The creator is the controller held here, so it was not released.
      cases heq
      have hcreator := h.creators _ List.mem_cons_self queue rfl
      rw [hcreator] at hcreated
      cases hcreated
      have hheld : events.count (.controllerReleased controller) = 0 := h.controllers.count_eq_zero (by simp)
      exact (List.count_eq_zero.mp hheld (List.mem_of_getElem? hlate)).elim

/-- A controller that is held without a queue pair is released. -/
lemma releaseController (h : Accounts (⟨controller, none⟩ :: holdings) events) :
    Accounts holdings (events ++ [.controllerReleased controller]) where
  controllers := h.controllers.release controller rfl (fun _ _ heq => HandleEvent.controllerReleased.inj heq)
    fun number => by simp [List.countP_cons, eq_comm]
  queues := h.queues.other rfl (by simp) fun number => by simp
  creators holding hholding number hqueue := by
    rw [getElem?_concat_eq_some]
    exact .inl (h.creators holding (List.mem_cons_of_mem _ hholding) number hqueue)
  order hcreated hearly hlate := by
    simp only [getElem?_concat_eq_some, reduceCtorEq, and_false, or_false] at hcreated hearly hlate
    rcases hlate with hlate | ⟨rfl, -⟩
    · exact h.order hcreated hearly hlate
    · exact (List.getElem?_eq_some_iff.mp hearly).1

end Accounts

end FabricHost
