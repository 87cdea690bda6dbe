import FabricHost.Fabric.Basic
import FabricHost.Queue.Tracker

/-!
# Channels

A queue pair together with the tracker of its commands.
-/

namespace FabricHost

structure Channel (Q : Type) where
  queue : Q
  tracker : Tracker := {}

namespace Channel

variable {W Q : Type} [QueuePairs W Q]

def submit (channel : Channel Q) (request : RequestId) (command : Command) (world : W) :
    Except SubmitError Unit × Channel Q × W :=
  match QueuePairs.submit channel.queue command world with
  | (.error error, queue, world) => (.error error, { channel with queue }, world)
  | (.ok id, queue, world) => (.ok (), { queue, tracker := channel.tracker.submitted request id }, world)

/-- Submits a command for nobody. -/
def submitDetached (channel : Channel Q) (command : Command) (world : W) :
    Except SubmitError Unit × Channel Q × W :=
  match QueuePairs.submit channel.queue command world with
  | (.error error, queue, world) => (.error error, { channel with queue }, world)
  | (.ok id, queue, world) => (.ok (), { queue, tracker := channel.tracker.detached id }, world)

/-- Reaps all completions that are ready, and tells how many there were. -/
def reap (channel : Channel Q) (world : W) : Except TransportFailure Nat × Channel Q × W :=
  match QueuePairs.process channel.queue 0 world with
  | (.error failure, queue, world) => (.error failure, { channel with queue }, world)
  | (.ok completions, queue, world) =>
    (.ok completions.length, { queue, tracker := channel.tracker.absorb completions }, world)

/-- Takes the completion of a request, if it can be taken. -/
def take (channel : Channel Q) (request : RequestId) : Option Completion × Channel Q :=
  let (completion, tracker) := channel.tracker.take request
  (completion, { channel with tracker })

/-- Stops waiting for a request, and tells whether it was one. -/
def abandon (channel : Channel Q) (request : RequestId) : Bool × Channel Q :=
  let (known, tracker) := channel.tracker.abandon request
  (known, { channel with tracker })

/-- How often an ending session reaps for commands that are still outstanding. -/
def drainLimit : Nat := 64

/-- Reaps while commands are outstanding, at most `limit` times and until reaping fails. -/
def drain : (limit : Nat) → (channel : Channel Q) → (world : W) → Channel Q × W
  | 0, channel, world => (channel, world)
  | limit + 1, channel, world =>
    if channel.tracker.outstanding = 0 then (channel, world)
    else match channel.reap world with
      | (.error _, channel, world) => (channel, world)
      | (.ok _, channel, world) => drain limit channel world

def release (channel : Channel Q) (world : W) : W :=
  let (channel, world) := drain drainLimit channel world
  QueuePairs.release channel.queue world

end Channel

end FabricHost
