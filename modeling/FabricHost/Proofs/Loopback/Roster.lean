import FabricHost.Loopback.Network
import Mathlib.Tactic.Lemma

/-!
# Rosters of simulated controllers

A network knows its controllers by their ids only. A roster keeps besides whom each handshake brought: every controller
with the subsystem that it was associated with, how often it was reset and whether it was released, and every queue pair
with the place of its controller. A controller or an I/O queue pair that was released is not called any more; queue pairs
may outlive their controller.
-/

namespace FabricHost

/-- A controller that a handshake brought. -/
structure Enlisted where
  controller : LoopbackController
  subsystem : SubsystemName
  resets : Nat := 0
  released : Bool := false
deriving DecidableEq

namespace Enlisted

def id (own : Enlisted) : UInt16 := own.controller.controllerId

/-- What a network has to know about the controller. -/
def attachment (own : Enlisted) : Attachment := { subsystem := own.subsystem, generation := own.resets }

end Enlisted

/-- What is asked of a network. Controllers and queue pairs are named by their places. -/
inductive NetworkCall where
  | connect (params : HandshakeParams) (timeoutMs : Nat)
  | createIoQueue (place : Nat) (depth : UInt16)
  | reset (place : Nat)
  | release (place : Nat)
  | submit (number : Nat) (command : Command)
  | process (number limit : Nat)
  | releaseQueue (number : Nat)
  | configure (change : LoopbackBehavior → LoopbackBehavior)
  | addSubsystem (target : Endpoint) (nqn : String) (blocks : List UInt64)
  | wait (ms : Nat)

structure Roster where
  net : Loopback := {}
  /-- In the order of their handshakes. -/
  controllers : List Enlisted := []
  /-- Every queue pair that was not released, with its controller's place. -/
  queues : List (Nat × LoopbackQueue) := []

namespace Roster

/-- The controller at a place, unless it was released. -/
def held? (roster : Roster) (place : Nat) : Option Enlisted :=
  roster.controllers[place]?.filter fun own => !own.released

/-- How many controllers were not released. -/
def size (roster : Roster) : Nat := roster.controllers.countP fun own => !own.released

/-- Whether no controller has an id but ones that were released. -/
def Free (roster : Roster) (id : UInt16) : Prop := ∀ own ∈ roster.controllers, own.released = false → own.id ≠ id

instance (roster : Roster) (id : UInt16) : Decidable (roster.Free id) :=
  inferInstanceAs (Decidable (∀ own ∈ roster.controllers, own.released = false → own.id ≠ id))

def enlist (roster : Roster) (subsystem : SubsystemName) (association : Association LoopbackController LoopbackQueue)
    (net : Loopback) : Roster where
  net
  controllers := roster.controllers ++ [{ controller := association.controller, subsystem }]
  queues := roster.queues ++ [(roster.controllers.length, association.admin)]

def after (roster : Roster) : NetworkCall → Roster
  | .connect params timeoutMs =>
    match Loopback.connect params timeoutMs roster.net with
    | (.connected association, net) => roster.enlist ⟨params.target, params.subsystemNqn⟩ association net
    | (_, net) => { roster with net }
  | .createIoQueue place depth =>
    match roster.held? place with
    | none => roster
    | some own =>
      match Loopback.createIoQueue own.controller depth roster.net with
      | (.ok queue, _, net) => { roster with net, queues := roster.queues ++ [(place, queue)] }
      | (.error _, _, net) => { roster with net }
  | .reset place =>
    match roster.held? place with
    | none => roster
    | some own =>
      match Loopback.resetController own.controller roster.net with
      | (.ok (), _, net) =>
        { roster with net, controllers := roster.controllers.set place { own with resets := own.resets + 1 } }
      | (.error _, _, net) => { roster with net }
  | .release place =>
    match roster.held? place with
    | none => roster
    | some own =>
      { roster with
        net := Loopback.releaseController own.controller roster.net
        controllers := roster.controllers.set place { own with released := true } }
  | .submit number command =>
    match roster.queues[number]? with
    | none => roster
    | some (place, queue) =>
      let (_, queue, net) := queue.submit command roster.net
      { roster with net, queues := roster.queues.set number (place, queue) }
  | .process number limit =>
    match roster.queues[number]? with
    | none => roster
    | some (place, queue) =>
      let (_, queue, net) := queue.process limit roster.net
      { roster with net, queues := roster.queues.set number (place, queue) }
  | .releaseQueue number =>
    match roster.queues[number]? with
    | none => roster
    | some (_, queue) =>
      -- an admin queue pair ends with its controller only
      if queue.isAdmin then roster
      else { roster with net := queue.release roster.net, queues := roster.queues.eraseIdx number }
  | .configure change => { roster with net := roster.net.configure change }
  | .addSubsystem target nqn blocks => { roster with net := roster.net.addSubsystem target nqn blocks }
  | .wait ms => { roster with net := roster.net.wait ms }

/-- Runs from an empty network. -/
inductive Run (Allowed : Roster → NetworkCall → Prop) : Roster → Prop
  | start : Run Allowed {}
  | call (roster : Roster) (call : NetworkCall) :
    Run Allowed roster → Allowed roster call → Run Allowed (roster.after call)

lemma held?_eq_some_iff {roster : Roster} {place : Nat} {own : Enlisted} :
    roster.held? place = some own ↔ roster.controllers[place]? = some own ∧ own.released = false := by
  rw [held?, Option.filter_eq_some_iff, Bool.not_eq_true']

lemma free_iff {roster : Roster} {id : UInt16} :
    roster.Free id ↔ ∀ place own, roster.held? place = some own → own.id ≠ id := by
  constructor
  · intro free place own h
    obtain ⟨hget, hreleased⟩ := held?_eq_some_iff.mp h
    exact free own (List.mem_of_getElem? hget) hreleased
  · intro hall own hmem hreleased
    obtain ⟨place, hplace⟩ := List.mem_iff_getElem?.mp hmem
    exact hall place own (held?_eq_some_iff.mpr ⟨hplace, hreleased⟩)

lemma held?_enlist (roster : Roster) (subsystem : SubsystemName)
    (association : Association LoopbackController LoopbackQueue) (net : Loopback) (place : Nat) :
    (roster.enlist subsystem association net).held? place =
      if place = roster.controllers.length then some { controller := association.controller, subsystem }
      else roster.held? place := by
  unfold held? enlist
  by_cases hlt : place < roster.controllers.length
  · rw [List.getElem?_append_left hlt, if_neg (by omega)]
  · rw [List.getElem?_append_right (by omega)]
    by_cases heq : place = roster.controllers.length
    · subst heq
      simp
    · have hnone : roster.controllers[place]? = none := List.getElem?_eq_none (by omega)
      rw [if_neg heq, hnone, List.getElem?_eq_none]
      rw [List.length_singleton]
      omega

lemma size_enlist (roster : Roster) (subsystem : SubsystemName)
    (association : Association LoopbackController LoopbackQueue) (net : Loopback) :
    (roster.enlist subsystem association net).size = roster.size + 1 := by
  simp [size, enlist]

/-- The queue pairs that there were keep their numbers. -/
lemma queues_enlist {roster : Roster} {number : Nat} {entry : Nat × LoopbackQueue}
    (h : roster.queues[number]? = some entry) (subsystem : SubsystemName)
    (association : Association LoopbackController LoopbackQueue) (net : Loopback) :
    (roster.enlist subsystem association net).queues[number]? = some entry := by
  have hlt := (List.getElem?_eq_some_iff.mp h).1
  simp only [enlist]
  rw [List.getElem?_append_left hlt, h]

section Replaced

variable {roster : Roster} {place : Nat} {own : Enlisted} (h : roster.held? place = some own) (own' : Enlisted)
include h

/-- Replacing a controller that is held changes nothing at the other places. -/
lemma held?_set (net : Loopback) (other : Nat) :
    held? { roster with net, controllers := roster.controllers.set place own' } other =
      if other = place then (if own'.released then none else some own') else roster.held? other := by
  have hlt := (List.getElem?_eq_some_iff.mp (held?_eq_some_iff.mp h).1).1
  unfold held?
  by_cases heq : other = place
  · subst heq
    rw [List.getElem?_set_self hlt, if_pos rfl, Option.filter_some]
    cases own'.released <;> rfl
  · rw [List.getElem?_set_ne (Ne.symm heq), if_neg heq]

lemma size_set (net : Loopback) :
    size { roster with net, controllers := roster.controllers.set place own' } =
      roster.size - 1 + if own'.released then 0 else 1 := by
  obtain ⟨hget, hreleased⟩ := held?_eq_some_iff.mp h
  obtain ⟨hlt, hget⟩ := List.getElem?_eq_some_iff.mp hget
  unfold size
  rw [List.countP_set hlt, hget, hreleased]
  cases own'.released <;> rfl

omit own' in
lemma after_release : roster.after (.release place) = { roster with
    net := Loopback.releaseController own.controller roster.net
    controllers := roster.controllers.set place { own with released := true } } := by
  simp only [after, h]

omit own' in
/-- Two releases leave two controllers fewer. -/
lemma after_releases {last : Nat} {other : Enlisted} (hother : roster.held? last = some other) (hne : last ≠ place) :
    ((roster.after (.release place)).after (.release last)).net =
        Loopback.releaseController other.controller (Loopback.releaseController own.controller roster.net) ∧
      ((roster.after (.release place)).after (.release last)).size = roster.size - 1 - 1 := by
  have hother' : (roster.after (.release place)).held? last = some other := by
    rw [after_release h, held?_set h, if_neg hne, hother]
  rw [after_release hother', size_set hother', after_release h, size_set h]
  exact ⟨rfl, rfl⟩

omit own' in
lemma size_pos : 0 < roster.size := by
  obtain ⟨hget, hreleased⟩ := held?_eq_some_iff.mp h
  exact List.countP_pos_iff.mpr ⟨own, List.mem_of_getElem? hget, by simp [hreleased]⟩

end Replaced

end Roster

end FabricHost
