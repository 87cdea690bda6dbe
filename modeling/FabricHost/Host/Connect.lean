import FabricHost.Connect.Plan
import FabricHost.Host.Basic

/-!
# Connecting and disconnecting

A connect command is checked before anything else; then the handshake is made, as often as its plan allows, and the
session is built around the new controller. Whatever fails on the way gives back what was made before it, so a call
that fails leaves the host as it was.
-/

namespace FabricHost.Host

variable {W C Q : Type} [Fabric W C Q] [Clock W]

/-- Makes handshakes until one succeeds, at most `retries` after the first, with a pause between each two. The last
error is the answer. -/
def handshake (plan : ConnectPlan) (pauseMs : Nat) : (retries : Nat) → (world : W) →
    Except HostError (Association C Q) × W
  | retries, world =>
    match Fabric.connect plan.params plan.connectTimeoutMs.toNat world with
    | (.connected association, world) => (.ok association, world)
    | (outcome, world) =>
      match retries, outcome with
      | retries + 1, _ => handshake plan pauseMs retries (Fabric.wait pauseMs world)
      | 0, .failed failure => (.error (.transportUnreachable (.handshake failure)), world)
      | 0, _ => (.error .timeout, world)

def newSession (plan : ConnectPlan) (association : Association C Q) (io : Q) (key : SessionKey)
    (keepAlive : KeepAliveTimer) : Session C Q where
  key
  controller := association.controller
  admin := { queue := association.admin }
  io := some { queue := io }
  state := Lifecycle.connecting.after .handshakeComplete
  target := plan.params.target
  subsystemNqn := plan.params.subsystemNqn
  hostNqn := plan.params.hostNqn
  attempt := plan.attempt
  controllerId := association.controllerId
  namespaceCount := association.namespaceCount
  keepAlive

/-- Builds and registers the session of a new controller. On any failure the controller and its queue are released. -/
def register (host : Host C Q) (plan : ConnectPlan) (association : Association C Q) (world : W) :
    Except HostError SessionKey × Host C Q × W :=
  match Fabric.createIoQueue association.controller host.config.ioQueueDepth world with
  | (.error failure, controller, world) =>
    (.error (.ofFailure failure), host, Fabric.releaseController controller world)
  | (.ok io, controller, world) =>
    let target := plan.params.target
    match SessionKey.derive? target.address.text target.port plan.params.subsystemNqn host.registry.contains with
    | none =>
      let world := Fabric.releaseController controller (QueuePairs.release io world)
      (.error (.outOfResources (.keys target)), host, world)
    | some key =>
      let (now, world) := Clock.now world
      let keepAlive := KeepAliveTimer.start now host.config.keepAliveInterval
      let session := newSession plan { association with controller } io key keepAlive
      match host.registry.insert session with
      | .error error => (.error error, host, session.release world)
      | .ok registry => (.ok key, { host with registry }, world)

def connect (host : Host C Q) (command : ConnectCommand) (defaults : HostDefaults) (world : W) :
    Except HostError SessionKey × Host C Q × W :=
  match command.plan defaults host.config.keepAliveTimeoutMs with
  | .error error => (.error (.invalidParameter error), host, world)
  | .ok plan =>
    if !Fabric.supports plan.params.kind world then
      (.error (.invalidParameter (.transportNotCarried plan.params.kind (Fabric.name world))), host, world)
    else if host.registry.isFull then
      (.error (.outOfResources (.sessions host.registry.limit)), host, world)
    else match handshake plan host.config.connectRetryDelayMs plan.retryCount.toNat world with
      | (.error error, world) => (.error error, host, world)
      | (.ok association, world) => host.register plan association world

/-- The first address of an attempt's IP mode that its target's name stands for. -/
def resolve (attempt : Attempt) (world : W) : Except HostError IpAddress × W :=
  match Fabric.resolve attempt.targetAddress world with
  | (.error reason, world) => (.error (.transportUnreachable (.unresolved attempt.targetAddress reason)), world)
  | (.ok addresses, world) =>
    match addresses.find? attempt.ipMode.admits with
    | some address => (.ok address, world)
    | none => (.error (.transportUnreachable (.noAddressOfMode attempt.targetAddress attempt.ipMode)), world)

/-- Connects an attempt, whose target's name is resolved first if it is one. -/
def connectAttempt (host : Host C Q) (attempt : Attempt) (defaults : HostDefaults) (world : W) :
    Except HostError SessionKey × Host C Q × W :=
  if !attempt.enabled then (.error (.invalidParameter (.attemptDisabled attempt.name)), host, world)
  else if attempt.dnsMode then
    match resolve attempt world with
    | (.error error, world) => (.error error, host, world)
    | (.ok address, world) => host.connect (.ofAttempt attempt address.text) defaults world
  else host.connect (.ofAttempt attempt attempt.targetAddress) defaults world

def disconnect (host : Host C Q) (key : SessionKey) (world : W) : Except HostError Unit × Host C Q × W :=
  match host.registry.find? key with
  | none => (.error (.notFound (.session key)), host, world)
  | some session => (.ok (), { host with registry := host.registry.erase key }, session.release world)

def reset (host : Host C Q) (key : SessionKey) (world : W) : Except HostError Unit × Host C Q × W :=
  host.onSession key (.notFound (.session key)) Session.reset world

/-- Brings the I/O queue of a session back after a reset. -/
def reestablish (host : Host C Q) (key : SessionKey) (world : W) : Except HostError Unit × Host C Q × W :=
  host.onSession key (.notFound (.session key))
    (fun session => session.reestablish host.config.ioQueueDepth) world

/-- Ends every session, the newest first, and tells how many there were. -/
def disconnectAll (host : Host C Q) (world : W) : Nat × Host C Q × W :=
  let world := host.registry.sessions.foldr Session.release world
  (host.registry.size, { host with registry := { host.registry with sessions := [] } }, world)

end FabricHost.Host
