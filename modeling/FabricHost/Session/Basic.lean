import FabricHost.Host.Error
import FabricHost.Queue.Channel
import FabricHost.Session.KeepAlive
import FabricHost.Session.Lifecycle

/-!
# Sessions

A session is an association with a controller together with its queues. It owns the controller and, while it is live,
an I/O queue pair. A reset takes the I/O queue pair and all requests on it away; re-establishing brings a new one;
releasing drains what is left and gives everything back.
-/

namespace FabricHost

structure Geometry where
  capacityBlocks : UInt64
  blockSize : Nat
deriving DecidableEq, Repr

namespace Geometry

def ofInfo (info : NamespaceInfo) : Geometry where
  capacityBlocks := info.capacityBlocks
  blockSize := info.blockSize

end Geometry

/-- An association with a controller. -/
structure Session (C Q : Type) where
  key : SessionKey
  controller : C
  admin : Channel Q
  /-- The I/O queue, none between a reset and the new queue. -/
  io : Option (Channel Q)
  state : Lifecycle
  /-- What identify told about namespaces so far. -/
  geometries : Std.ExtTreeMap UInt32 Geometry := ∅
  target : Endpoint
  subsystemNqn : String
  hostNqn : String
  attempt : Option String
  controllerId : UInt16
  namespaceCount : UInt32
  keepAlive : KeepAliveTimer

/-- What is shown of a session. -/
structure SessionSummary where
  key : SessionKey
  attempt : Option String
  target : Endpoint
  subsystemNqn : String
  hostNqn : String
  controllerId : UInt16
  namespaceCount : UInt32
  state : Lifecycle
deriving DecidableEq, Repr

namespace Session

variable {W C Q : Type} [Fabric W C Q]

def summary (session : Session C Q) : SessionSummary where
  key := session.key
  attempt := session.attempt
  target := session.target
  subsystemNqn := session.subsystemNqn
  hostNqn := session.hostNqn
  controllerId := session.controllerId
  namespaceCount := session.namespaceCount
  state := session.state

def after (session : Session C Q) (event : LifecycleEvent) : Session C Q :=
  { session with state := session.state.after event }

/-- Refuses the numbers of namespaces that the session does not have. They are numbered from 1. -/
def checkNamespace (session : Session C Q) (nsid : UInt32) : Except HostError Unit :=
  if nsid = 0 ∨ session.namespaceCount < nsid then
    .error (.invalidParameter (.namespaceOutOfRange nsid session.namespaceCount))
  else .ok ()

/-- Remembers what identify told about a namespace. -/
def learn (session : Session C Q) (nsid : UInt32) (geometry : Geometry) : Session C Q :=
  { session with geometries := session.geometries.insert nsid geometry }

/-- Resets the controller. If it does, the I/O queue pair is deleted with all requests on it. -/
def reset (session : Session C Q) (world : W) : Except HostError Unit × Session C Q × W :=
  match Fabric.resetController session.controller world with
  | (.error failure, controller, world) => (.error (.ofFailure failure), { session with controller }, world)
  | (.ok (), controller, world) =>
    let world := match session.io with
      | some io => QueuePairs.release io.queue world
      | none => world
    (.ok (), ({ session with controller, io := none }).after .controllerReset, world)

/-- Brings a new I/O queue pair after a reset. A live session has one already. -/
def reestablish (session : Session C Q) (depth : UInt16) (world : W) :
    Except HostError Unit × Session C Q × W :=
  match session.state with
  | .live => (.ok (), session, world)
  | .queuesNeedReinit =>
    match Fabric.createIoQueue session.controller depth world with
    | (.error failure, controller, world) => (.error (.ofFailure failure), { session with controller }, world)
    | (.ok queue, controller, world) =>
      (.ok (), ({ session with controller, io := some { queue } }).after .queuesReestablished, world)
  | .connecting | .closed => (.error .sessionClosed, session, world)

/-- Ends a session: drains its queues, deletes its I/O queue pair, and releases its controller. -/
def release (session : Session C Q) (world : W) : W :=
  let world := match session.io with
    | some io => io.release world
    | none => world
  let (_, world) := Channel.drain Channel.drainLimit session.admin world
  Fabric.releaseController session.controller world

end Session

end FabricHost
