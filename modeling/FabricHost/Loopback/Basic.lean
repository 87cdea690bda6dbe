import FabricHost.Fabric.Basic
import FabricHost.Loopback.Volume

/-!
# A simulated fabric

Subsystems with volumes, controllers associated with them, and a behaviour that can be changed at any time: delays,
refusals, stalls, reordering. The time that simulated operations take is summed up in `elapsedMs`.
-/

namespace FabricHost

structure LoopbackBehavior where
  /-- How long a handshake takes. -/
  handshakeDelayMs : Nat := 0
  rejectConnect : Bool := false
  /-- How many polls a command stays in flight before it completes. -/
  completionDelayPolls : Nat := 0
  /-- Report I/O completions of one poll in reverse order. -/
  reverseCompletions : Bool := false
  stallIo : Bool := false
  stallAdmin : Bool := false
  /-- Complete I/O commands with this status instead of executing them. -/
  ioStatus : Option Status := none
  failReset : Bool := false
  failIoQueue : Bool := false
  /-- The binary logarithm of the block size that namespaces report, in place of the real one. -/
  blockShift : Option UInt8 := none
deriving DecidableEq, Repr

/-- What a simulated network has counted. Counts are not bounded. Counters of 32 bits show the same as long as no more than
2^32 - 1 of each kind were counted. -/
structure LoopbackStats where
  handshakes : Nat := 0
  liveControllers : Nat := 0
  liveIoQueues : Nat := 0
  keepAlives : Nat := 0
  identifies : Nat := 0
  ioCommands : Nat := 0
  resets : Nat := 0
deriving DecidableEq, Repr

/-- The name of a subsystem: where it listens, and its qualified name. -/
structure SubsystemName where
  target : Endpoint
  nqn : String
deriving DecidableEq, Repr

/-- A simulated subsystem. Its first volume is namespace 1. -/
structure Subsystem where
  name : SubsystemName
  volumes : List Volume

structure Attachment where
  subsystem : SubsystemName
  /-- Counts resets, the same as 32 bits do for the first 2^32 - 1 of them. I/O queue pairs of earlier generations are
  dead. -/
  generation : Nat := 0
deriving DecidableEq, Repr

structure Loopback where
  subsystems : List Subsystem := []
  attachments : Std.ExtTreeMap UInt16 Attachment := ∅
  behavior : LoopbackBehavior := {}
  stats : LoopbackStats := {}
  /-- The controller id given out last. -/
  lastController : UInt16 := 0
  elapsedMs : Nat := 0

namespace Loopback

/-- Exposes a subsystem with volumes of the given sizes, in place of one of the same name. -/
def addSubsystem (net : Loopback) (target : Endpoint) (nqn : String) (blocks : List UInt64) : Loopback :=
  let name : SubsystemName := ⟨target, nqn⟩
  let volumes := blocks.map fun n => { blocks := n : Volume }
  { net with subsystems := net.subsystems.filter (·.name ≠ name) ++ [{ name, volumes }] }

def configure (net : Loopback) (change : LoopbackBehavior → LoopbackBehavior) : Loopback :=
  { net with behavior := change net.behavior }

def volumes? (net : Loopback) (name : SubsystemName) : Option (List Volume) :=
  (net.subsystems.find? (·.name = name)).map Subsystem.volumes

def setVolumes (net : Loopback) (name : SubsystemName) (volumes : List Volume) : Loopback :=
  { net with
    subsystems := net.subsystems.map fun subsystem =>
      if subsystem.name = name then { subsystem with volumes } else subsystem }

/-- Whether any subsystem listens at an endpoint. -/
def listensAt (net : Loopback) (target : Endpoint) : Bool := net.subsystems.any (·.name.target = target)

def count (net : Loopback) (change : LoopbackStats → LoopbackStats) : Loopback :=
  { net with stats := change net.stats }

/-- The longest time that passes in one go: thirty years of 365 days. -/
def longestWaitMs : Nat := 30 * 365 * 24 * 60 * 60 * 1000

/-- Lets time pass. A longer wait ends after `longestWaitMs`. -/
def wait (net : Loopback) (ms : Nat) : Loopback :=
  { net with elapsedMs := net.elapsedMs + min ms longestWaitMs }

end Loopback

end FabricHost
