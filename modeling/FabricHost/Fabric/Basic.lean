import FabricHost.Fabric.Kind
import FabricHost.Net.Endpoint
import FabricHost.Nvme.Command
import FabricHost.Uuid.Basic

/-!
# Fabrics

A fabric carries associations with remote controllers. Everything it does happens in a world that each operation is
given and gives back changed; controllers and queue pairs are values that stand for their end of an association, and
operations give them back changed as well. `QueuePairs` says what queue pairs can do, `Fabric` what a network can do.
Nothing is assumed about the answers.
-/

namespace FabricHost

inductive TransportFailure where
  | unreachable (detail : String)
  | rejected (detail : String)
  | queueFailed (detail : String)
deriving DecidableEq, Repr

namespace TransportFailure

def message : TransportFailure → String
  | unreachable detail => s!"Target unreachable: {detail}"
  | rejected detail => s!"Connect rejected by target: {detail}"
  | queueFailed detail => s!"Queue pair failure: {detail}"

end TransportFailure

inductive SubmitError where
  | queueFull
  | transport (failure : TransportFailure)
deriving DecidableEq, Repr

namespace SubmitError

def message : SubmitError → String
  | queueFull => "Queue pair has no free slot"
  | transport failure => failure.message

end SubmitError

/-- Queue pairs of type `Q` in worlds of type `W`. -/
class QueuePairs (W Q : Type) where
  /-- Submits a command. The answer is the id that its completion will have. -/
  submit : (queue : Q) → (command : Command) → (world : W) → Except SubmitError CommandId × Q × W
  /-- Reaps completions that are ready, at most `limit` of them, or all if the limit is zero. -/
  process : (queue : Q) → (limit : Nat) → (world : W) → Except TransportFailure (List Completion) × Q × W
  outstanding : (queue : Q) → (world : W) → Nat
  release : (queue : Q) → (world : W) → W

/-- The host's own addresses for a connection, where they are not assigned. -/
structure LocalBinding where
  address : IpAddress
  subnetMask : IpAddress
  gateway : Option IpAddress := none
deriving DecidableEq, Repr

/-- What a handshake is made with. -/
structure HandshakeParams where
  kind : FabricKind
  target : Endpoint
  subsystemNqn : String
  hostNqn : String
  hostId : Uuid
  keepAliveTimeoutMs : UInt64
  local? : Option LocalBinding := none
  mac? : Option String := none
deriving DecidableEq, Repr

/-- What a successful handshake gives. -/
structure Association (C Q : Type) where
  controller : C
  /-- The admin queue pair, which lives and ends with its controller. -/
  admin : Q
  controllerId : UInt16
  namespaceCount : UInt32

inductive HandshakeOutcome (C Q : Type) where
  | connected (association : Association C Q)
  | failed (failure : TransportFailure)
  | timedOut

/-- Networks of type `W` that associate with controllers of type `C` over queue pairs of type `Q`. -/
class Fabric (W : Type) (C Q : outParam Type) extends QueuePairs W Q where
  name : (world : W) → String
  supports : (kind : FabricKind) → (world : W) → Bool
  /-- The addresses of a host name, or why there are none. -/
  resolve : (host : String) → (world : W) → Except String (List IpAddress) × W
  /-- Makes one handshake, which may take no longer than the timeout. -/
  connect : (params : HandshakeParams) → (timeoutMs : Nat) → (world : W) → HandshakeOutcome C Q × W
  wait : (ms : Nat) → (world : W) → W
  createIoQueue : (controller : C) → (depth : UInt16) → (world : W) → Except TransportFailure Q × C × W
  /-- Resets a controller. Its I/O queue pairs cannot be used any more. -/
  resetController : (controller : C) → (world : W) → Except TransportFailure Unit × C × W
  releaseController : (controller : C) → (world : W) → W

end FabricHost
