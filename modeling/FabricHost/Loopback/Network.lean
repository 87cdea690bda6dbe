import FabricHost.Clock
import FabricHost.Loopback.Queue

/-!
# The simulated network

Handshakes, resets and releases of simulated controllers, which make a `Loopback` a fabric. A `Simulation` is a
simulated network together with a clock that is moved by hand.
-/

namespace FabricHost

/-- The host's end of an association with a simulated controller. -/
structure LoopbackController where
  controllerId : UInt16
deriving DecidableEq, Repr

namespace Loopback

def adminDepth : Nat := 4

/-- The id of the next controller. Ids count up and skip zero. -/
def nextController (net : Loopback) : UInt16 :=
  if net.lastController + 1 = 0 then 1 else net.lastController + 1

/-- A handshake, apart from the time it takes. -/
def handshake (net : Loopback) (params : HandshakeParams) :
    Except TransportFailure (Association LoopbackController LoopbackQueue) × Loopback :=
  let net := net.count fun stats => { stats with handshakes := stats.handshakes + 1 }
  let subsystem : SubsystemName := ⟨params.target, params.subsystemNqn⟩
  if net.behavior.rejectConnect then (.error (.rejected "connect refused"), net)
  else if !net.listensAt params.target then (.error (.unreachable s!"no listener at {params.target.text}"), net)
  else match net.volumes? subsystem with
    | none => (.error (.rejected s!"subsystem {params.subsystemNqn} not found"), net)
    | some volumes =>
      let controllerId := net.nextController
      let association := {
        controller := { controllerId }
        admin := { controllerId, generation := none, depth := adminDepth }
        controllerId
        namespaceCount := UInt32.ofNat volumes.length }
      let net := { net with
        lastController := controllerId
        attachments := net.attachments.insert controllerId { subsystem } }
      (.ok association, net.count fun stats => { stats with liveControllers := stats.liveControllers + 1 })

/-- A handshake within a time limit. One that would take longer is given up at the limit and leaves no trace. -/
def connect (params : HandshakeParams) (timeoutMs : Nat) (net : Loopback) :
    HandshakeOutcome LoopbackController LoopbackQueue × Loopback :=
  if timeoutMs < min net.behavior.handshakeDelayMs longestWaitMs then (.timedOut, net.wait timeoutMs)
  else match (net.wait net.behavior.handshakeDelayMs).handshake params with
    | (.ok association, net) => (.connected association, net)
    | (.error failure, net) => (.failed failure, net)

def createIoQueue (controller : LoopbackController) (depth : UInt16) (net : Loopback) :
    Except TransportFailure LoopbackQueue × LoopbackController × Loopback :=
  if net.behavior.failIoQueue then (.error (.queueFailed "create I/O queue refused"), controller, net)
  else match net.attachments[controller.controllerId]? with
    | none => (.error (.queueFailed "controller gone"), controller, net)
    | some attachment =>
      let queue := {
        controllerId := controller.controllerId
        generation := some attachment.generation
        depth := max depth.toNat 1 }
      (.ok queue, controller, net.count fun stats => { stats with liveIoQueues := stats.liveIoQueues + 1 })

/-- Starts a new generation of a controller. -/
def resetController (controller : LoopbackController) (net : Loopback) :
    Except TransportFailure Unit × LoopbackController × Loopback :=
  if net.behavior.failReset then (.error (.queueFailed "controller reset failed"), controller, net)
  else
    let attachments := net.attachments.modify controller.controllerId fun attachment =>
      { attachment with generation := attachment.generation + 1 }
    (.ok (), controller,
      { net with attachments }.count fun stats => { stats with resets := stats.resets + 1 })

def releaseController (controller : LoopbackController) (net : Loopback) : Loopback :=
  if controller.controllerId ∈ net.attachments then
    { net with attachments := net.attachments.erase controller.controllerId }.count fun stats =>
      { stats with liveControllers := stats.liveControllers - 1 }
  else net

/-- The addresses of a host name. The simulated network knows no names but addresses. -/
def resolve (host : String) (net : Loopback) : Except String (List IpAddress) × Loopback :=
  match IpAddress.parse? host with
  | some address => (.ok [address], net)
  | none => (.error "name or service not known", net)

instance : Fabric Loopback LoopbackController LoopbackQueue where
  name _ := "loopback"
  supports _ _ := true
  resolve := resolve
  connect := connect
  wait ms net := net.wait ms
  createIoQueue := createIoQueue
  resetController := resetController
  releaseController := releaseController

end Loopback

/-- A simulated network with a clock that is moved by hand. -/
structure Simulation where
  net : Loopback := {}
  clock : ManualClock := {}

namespace Simulation

/-- The world after its network has changed. -/
def withNet {α β : Type} (world : Simulation) (result : α × β × Loopback) : α × β × Simulation :=
  (result.1, result.2.1, { world with net := result.2.2 })

instance : Clock Simulation where
  now world := let (tick, clock) := world.clock.read; (tick, { world with clock })

instance : QueuePairs Simulation LoopbackQueue where
  submit queue command world := world.withNet (queue.submit command world.net)
  process queue limit world := world.withNet (queue.process limit world.net)
  outstanding queue _ := queue.pending.length
  release queue world := { world with net := queue.release world.net }

instance : Fabric Simulation LoopbackController LoopbackQueue where
  name world := Fabric.name world.net
  supports kind world := Fabric.supports kind world.net
  resolve host world := let (answer, net) := Loopback.resolve host world.net; (answer, { world with net })
  connect params timeoutMs world :=
    let (outcome, net) := Loopback.connect params timeoutMs world.net
    (outcome, { world with net })
  wait ms world := { world with net := world.net.wait ms }
  createIoQueue controller depth world := world.withNet (Loopback.createIoQueue controller depth world.net)
  resetController controller world := world.withNet (Loopback.resetController controller world.net)
  releaseController controller world := { world with net := Loopback.releaseController controller world.net }

end Simulation

end FabricHost
