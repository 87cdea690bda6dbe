import FabricHost.Loopback.Execute

/-!
# Simulated queue pairs

A queue pair keeps its commands in the order of submission, each with the number of polls it still stays in flight.
A poll executes the commands whose time has come, in that order; only their report may be turned around.
-/

namespace FabricHost

structure PendingCommand where
  id : CommandId
  command : Command
  pollsLeft : Nat
deriving DecidableEq, Repr

structure LoopbackQueue where
  controllerId : UInt16
  /-- The generation of the controller that an I/O queue pair was made in; none for an admin queue pair. -/
  generation : Option Nat
  depth : Nat
  nextId : CommandId := 0
  pending : List PendingCommand := []
deriving DecidableEq, Repr

namespace LoopbackQueue

def isAdmin (queue : LoopbackQueue) : Bool := queue.generation.isNone

/-- The attachment that a queue pair works for, if it is still alive. -/
def attachment (queue : LoopbackQueue) (net : Loopback) : Except TransportFailure Attachment :=
  match net.attachments[queue.controllerId]? with
  | none => .error (.queueFailed "controller gone")
  | some attachment =>
    match queue.generation with
    | none => .ok attachment
    | some generation =>
      if generation = attachment.generation then .ok attachment
      else .error (.queueFailed "I/O queue deleted by controller reset")

def stalled (queue : LoopbackQueue) (behavior : LoopbackBehavior) : Bool :=
  if queue.isAdmin then behavior.stallAdmin else behavior.stallIo

/-- The first id from `id` on that is not taken, among `tries` of them and the one behind them. -/
def freeIdFrom (taken : List CommandId) : (tries : Nat) → (id : CommandId) → CommandId
  | 0, id => id
  | tries + 1, id => if id ∈ taken then freeIdFrom taken tries (id + 1) else id

/-- The id of the next command. As many ids are tried as commands are pending, so one of them or the one behind them is
free. -/
def freeId (queue : LoopbackQueue) : CommandId :=
  freeIdFrom (queue.pending.map PendingCommand.id) queue.pending.length queue.nextId

def opcodeText (opcode : UInt8) : String := "0x" ++ String.ofList (Hex.ofByte opcode)

def countCommand (command : Command) (stats : LoopbackStats) : LoopbackStats :=
  match command with
  | .keepAlive => { stats with keepAlives := stats.keepAlives + 1 }
  | .identifyController | .identifyNamespace _ => { stats with identifies := stats.identifies + 1 }
  | .read .. | .write .. => { stats with ioCommands := stats.ioCommands + 1 }

def submit (queue : LoopbackQueue) (command : Command) (net : Loopback) :
    Except SubmitError CommandId × LoopbackQueue × Loopback :=
  match queue.attachment net with
  | .error failure => (.error (.transport failure), queue, net)
  | .ok _ =>
    if command.isAdmin ≠ queue.isAdmin then
      let detail := s!"opcode {opcodeText command.opcode} submitted on the wrong queue"
      (.error (.transport (.queueFailed detail)), queue, net)
    else if queue.depth ≤ queue.pending.length then
      (.error .queueFull, queue, net)
    else
      let id := queue.freeId
      let pending := queue.pending ++ [{ id, command, pollsLeft := net.behavior.completionDelayPolls }]
      (.ok id, { queue with nextId := id + 1, pending }, net.count (countCommand command))

/-- Splits commands into those that a poll completes, at most `room` of them, and those that stay, one poll nearer. -/
def due (room : Option Nat) : List PendingCommand → List PendingCommand × List PendingCommand
  | [] => ([], [])
  | entry :: rest =>
    if entry.pollsLeft = 0 ∧ room ≠ some 0 then
      let (done, staying) := due (room.map (· - 1)) rest
      (entry :: done, staying)
    else
      let (done, staying) := due room rest
      (done, { entry with pollsLeft := entry.pollsLeft - 1 } :: staying)

/-- Executes commands one after the other. -/
def executeAll (subsystem : SubsystemName) (controllerId : UInt16) :
    List PendingCommand → Loopback → List Completion × Loopback
  | [], net => ([], net)
  | entry :: rest, net =>
    let (completion, net) := net.execute subsystem controllerId entry.id entry.command
    let (completions, net) := executeAll subsystem controllerId rest net
    (completion :: completions, net)

def process (queue : LoopbackQueue) (limit : Nat) (net : Loopback) :
    Except TransportFailure (List Completion) × LoopbackQueue × Loopback :=
  match queue.attachment net with
  | .error failure => (.error failure, queue, net)
  | .ok attachment =>
    if queue.stalled net.behavior then (.ok [], queue, net)
    else
      let (done, staying) := due (if limit = 0 then none else some limit) queue.pending
      let turned := net.behavior.reverseCompletions && !queue.isAdmin
      let (completions, net) := executeAll attachment.subsystem queue.controllerId done net
      (.ok (if turned then completions.reverse else completions), { queue with pending := staying }, net)

/-- Deletes a queue pair. Admin queue pairs are not counted. -/
def release (queue : LoopbackQueue) (net : Loopback) : Loopback :=
  if queue.isAdmin then net
  else net.count fun stats => { stats with liveIoQueues := stats.liveIoQueues - 1 }

instance : QueuePairs Loopback LoopbackQueue where
  submit := submit
  process := process
  outstanding queue _ := queue.pending.length
  release := release

end LoopbackQueue

end FabricHost
