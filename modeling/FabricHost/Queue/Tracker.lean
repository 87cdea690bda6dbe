import FabricHost.Nvme.Command
import Std.Data.ExtTreeMap
import Std.Data.ExtTreeSet

/-!
# Tracking the commands on a queue pair

Commands are submitted for requests, and a queue pair completes them in any order. A `Tracker` hands completions out in
the order of submission: a completion that comes before an earlier one is held back until that one has come too. The
completion of a command that nobody waits for is dropped when it comes; until then its id is remembered.
-/

namespace FabricHost

/-- The number of a request, by which its caller asks for the completion. Numbers are not bounded. A counter of 64 bits
gives the same ones to the first 2^64 - 1 requests of a host. -/
abbrev RequestId := Nat

/-- A command that somebody waits for. -/
structure Inflight where
  request : RequestId
  id : CommandId
deriving DecidableEq, Repr

/-- The commands outstanding on one queue pair. -/
structure Tracker where
  /-- The commands waited for, in the order of submission. -/
  inflight : List Inflight := []
  /-- Completions that are held back. -/
  arrived : Std.ExtTreeMap CommandId Completion := ∅
  /-- Completions that can be taken. -/
  ready : Std.ExtTreeMap RequestId Completion := ∅
  /-- Commands whose completions are dropped. -/
  discard : Std.ExtTreeSet CommandId := ∅

namespace Tracker

/-- Notes a command submitted for a request. -/
def submitted (tracker : Tracker) (request : RequestId) (id : CommandId) : Tracker :=
  { tracker with inflight := tracker.inflight ++ [⟨request, id⟩] }

/-- Notes a command submitted for nobody. -/
def detached (tracker : Tracker) (id : CommandId) : Tracker :=
  { tracker with discard := tracker.discard.insert id }

/-- Sorts one completion: dropped if nobody waits for its command, held back else. -/
def arrive (tracker : Tracker) (completion : Completion) : Tracker :=
  if completion.id ∈ tracker.discard then
    { tracker with discard := tracker.discard.erase completion.id }
  else if tracker.inflight.any (·.id == completion.id) then
    { tracker with arrived := tracker.arrived.insert completion.id completion }
  else tracker

/-- Lets go of held-back completions from the front, up to the first command that has not completed. -/
def releaseFront : (inflight : List Inflight) → (arrived : Std.ExtTreeMap CommandId Completion) →
    (ready : Std.ExtTreeMap RequestId Completion) →
    List Inflight × Std.ExtTreeMap CommandId Completion × Std.ExtTreeMap RequestId Completion
  | [], arrived, ready => ([], arrived, ready)
  | front :: rest, arrived, ready =>
    match arrived[front.id]? with
    | none => (front :: rest, arrived, ready)
    | some completion => releaseFront rest (arrived.erase front.id) (ready.insert front.request completion)

/-- The tracker after everything that can go from the front has gone. -/
def released (tracker : Tracker) : Tracker :=
  let (inflight, arrived, ready) := releaseFront tracker.inflight tracker.arrived tracker.ready
  { tracker with inflight, arrived, ready }

/-- Takes in a batch of completions. -/
def absorb (tracker : Tracker) (completions : List Completion) : Tracker :=
  (completions.foldl arrive tracker).released

/-- Takes the completion of a request, if it can be taken. -/
def take (tracker : Tracker) (request : RequestId) : Option Completion × Tracker :=
  (tracker.ready[request]?, { tracker with ready := tracker.ready.erase request })

/-- Whether the completion of a request is still to be taken. -/
def isTracked (tracker : Tracker) (request : RequestId) : Bool :=
  tracker.ready.contains request || tracker.inflight.any (·.request == request)

/-- Stops waiting for a request, and tells whether it was one. If its command has not completed, the completion is
dropped when it comes. -/
def abandon (tracker : Tracker) (request : RequestId) : Bool × Tracker :=
  if tracker.ready.contains request then
    (true, { tracker with ready := tracker.ready.erase request })
  else match tracker.inflight.find? (·.request == request) with
    | none => (false, tracker)
    | some entry =>
      let inflight := tracker.inflight.eraseP (·.request == request)
      if tracker.arrived.contains entry.id then
        (true, { tracker with inflight, arrived := tracker.arrived.erase entry.id })
      else
        (true, { tracker with inflight, discard := tracker.discard.insert entry.id })

/-- How many commands the tracker counts as holding a slot of the queue pair. -/
def outstanding (tracker : Tracker) : Nat :=
  tracker.inflight.length + tracker.arrived.size + tracker.discard.size

/-- How many requests are waited for or could be taken. -/
def openRequests (tracker : Tracker) : Nat := tracker.inflight.length + tracker.ready.size

end Tracker

end FabricHost
