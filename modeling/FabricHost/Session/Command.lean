import FabricHost.Queue.Await
import FabricHost.Session.Basic

/-!
# Commands on a session

Identify on the admin queue, reads and writes on the I/O queue, and the keep-alive that nobody waits for. Before a read
or a write is submitted the session checks it against the geometry of the namespace, which it asks the controller for
when it does not know it yet.
-/

namespace FabricHost

structure BlockRange where
  nsid : UInt32
  start : UInt64
  count : UInt32
deriving DecidableEq, Repr

namespace BlockRange

def length (range : BlockRange) : Nat := range.count.toNat * Limits.blockSize

end BlockRange

inductive KeepAliveOutcome where
  | notDue
  | sent
  | skipped
deriving DecidableEq, Repr

namespace Session

variable {W C Q : Type} [Fabric W C Q] [Clock W]

def identifyPage (session : Session C Q) (budget : Nat) (deadline : Tick) (request : RequestId)
    (command : Command) (world : W) : Except HostError Bytes × Session C Q × W :=
  let (result, admin, world) := session.admin.execute budget deadline request command world
  let page := do
    let completion ← Channel.successful (← result)
    match completion.data with
    | some page => .ok page
    | none => .error (.transportError .noIdentifyData)
  (page, { session with admin }, world)

def identifyController (session : Session C Q) (budget : Nat) (deadline : Tick) (request : RequestId) (world : W) :
    Except HostError ControllerInfo × Session C Q × W :=
  let (page, session, world) := session.identifyPage budget deadline request .identifyController world
  let info := do (ControllerInfo.ofPage (← page)).mapError fun error => .transportError (.page error)
  (info, session, world)

/-- Asks the controller about a namespace, and remembers its geometry. -/
def identifyNamespace (session : Session C Q) (budget : Nat) (deadline : Tick) (request : RequestId)
    (nsid : UInt32) (world : W) : Except HostError NamespaceInfo × Session C Q × W :=
  let (page, session, world) := session.identifyPage budget deadline request (.identifyNamespace nsid) world
  let info := do (NamespaceInfo.ofPage nsid (← page)).mapError fun error => .transportError (.page error)
  match info with
  | .error error => (.error error, session, world)
  | .ok info => (.ok info, session.learn nsid (Geometry.ofInfo info), world)

/-- The geometry of a namespace is one that ranges can be read and written in. -/
def checkRange (geometry : Geometry) (range : BlockRange) : Except HostError Unit :=
  if geometry.blockSize ≠ Limits.blockSize then
    .error (.invalidParameter (.unsupportedBlockSize range.nsid geometry.blockSize))
  else if geometry.capacityBlocks.toNat < range.start.toNat + range.count.toNat then
    .error (.invalidParameter (.blocksOutOfRange range.start range.count range.nsid geometry.capacityBlocks))
  else .ok ()

def executeIo (session : Session C Q) (budget : Nat) (deadline : Tick) (request : RequestId) (command : Command)
    (world : W) : Except HostError Completion × Session C Q × W :=
  match session.io with
  | none => (.error .sessionClosed, session, world)
  | some io =>
    let (result, io, world) := io.execute budget deadline request command world
    (result >>= Channel.successful, { session with io := some io }, world)

/-- Submits a command on the I/O queue. If there is no slot, one reap may free one. -/
def submitIo (session : Session C Q) (request : RequestId) (command : Command) (world : W) :
    Except HostError Unit × Session C Q × W :=
  let finish (result : Except SubmitError Unit × Channel Q × W) : Except HostError Unit × Session C Q × W :=
    let (submitted, io, world) := result
    let answer := match submitted with
      | .ok () => .ok ()
      | .error .queueFull => .error (.outOfResources (.slots session.key))
      | .error (.transport failure) => .error (.ofFailure failure)
    (answer, { session with io := some io }, world)
  match session.io with
  | none => (.error .sessionClosed, session, world)
  | some io =>
    match io.submit request command world with
    | (.error .queueFull, io, world) =>
      match io.reap world with
      | (.error failure, io, world) => (.error (.ofFailure failure), { session with io := some io }, world)
      | (.ok _, io, world) => finish (io.submit request command world)
    | result => finish result

/-- Reaps the I/O queue for a request that is tracked there, and takes its completion if it can be taken. -/
def pollIo (session : Session C Q) (request : RequestId) (world : W) :
    Except HostError (Option Completion) × Session C Q × W :=
  match session.io with
  | none => (.error (.notFound (.request request)), session, world)
  | some io =>
    if !io.tracker.isTracked request then (.error (.notFound (.request request)), session, world)
    else match io.reap world with
      | (.error failure, io, world) => (.error (.ofFailure failure), { session with io := some io }, world)
      | (.ok _, io, world) =>
        let (completion, io) := io.take request
        (completion.mapM Channel.successful, { session with io := some io }, world)

def abandonIo (session : Session C Q) (request : RequestId) : Except HostError Unit × Session C Q :=
  match session.io with
  | none => (.error (.notFound (.request request)), session)
  | some io =>
    match io.abandon request with
    | (true, io) => (.ok (), { session with io := some io })
    | (false, _) => (.error (.notFound (.request request)), session)

/-- Reaps the admin queue and sends a keep-alive if one is due. -/
def keepAlivePass (session : Session C Q) (now : Tick) (world : W) : KeepAliveOutcome × Session C Q × W :=
  if !session.state.acceptsAdmin then (.notDue, session, world)
  else
    let (_, admin, world) := session.admin.reap world
    if !session.keepAlive.isDue now then (.notDue, { session with admin }, world)
    else match admin.submitDetached .keepAlive world with
      | (.ok (), admin, world) => (.sent, { session with admin, keepAlive := session.keepAlive.sent now }, world)
      | (.error _, admin, world) => (.skipped, { session with admin, keepAlive := session.keepAlive.skipped }, world)

end Session

end FabricHost
