import FabricHost.AttemptStore.Basic
import FabricHost.Host.Connect
import FabricHost.Host.Io

/-!
# The initiator

A host together with its store of attempts: what is connected, and what is to be connected at startup.
-/

namespace FabricHost

/-- A host and its attempts. -/
structure Initiator (C Q : Type) where
  host : Host C Q
  attempts : AttemptStore

/-- How a connected namespace is described where one to boot from is chosen. -/
structure BootDescription where
  session : SessionKey
  nsid : UInt32
  text : String
deriving DecidableEq, Repr

namespace Initiator

variable {W C Q : Type}

def ofConfig (config : Config) (attempts : AttemptStore) : Initiator C Q where
  host := Host.ofConfig config
  attempts

/-- The description of a namespace of a session, under the name of the session's attempt if it has one. -/
def bootDescription (initiator : Initiator C Q) (key : SessionKey) (nsid : UInt32) :
    Except HostError BootDescription :=
  match initiator.host.registry.find? key with
  | none => .error (.notFound (.session key))
  | some session => do
    session.checkNamespace nsid
    let label := session.attempt.getD key.text
    let address := session.target.address.text
    let port := session.target.port
    return { session := key, nsid, text := s!"NVMeOF {label} {session.subsystemNqn} NSID {nsid} {address}:{port}" }

variable [Fabric W C Q] [Clock W]

/-- Carries an action on the host out on the initiator. -/
def onHost {α : Type} (initiator : Initiator C Q) (action : Host C Q → W → α × Host C Q × W) (world : W) :
    α × Initiator C Q × W :=
  let (answer, host, world) := action initiator.host world
  (answer, { initiator with host }, world)

def connect (initiator : Initiator C Q) (command : ConnectCommand) (world : W) :
    Except HostError SessionKey × Initiator C Q × W :=
  initiator.onHost (fun host => host.connect command initiator.attempts.defaults) world

def connectAttempt (initiator : Initiator C Q) (name : String) (world : W) :
    Except HostError SessionKey × Initiator C Q × W :=
  match initiator.attempts.get? name with
  | none => (.error (.notFound (.attempt name)), initiator, world)
  | some attempt => initiator.onHost (fun host => host.connectAttempt attempt initiator.attempts.defaults) world

/-- Connects attempts one after the other. One that fails does not stop the others. -/
def connectEach (initiator : Initiator C Q) : List Attempt → (world : W) →
    List (String × Except HostError SessionKey) × Initiator C Q × W
  | [], world => ([], initiator, world)
  | attempt :: rest, world =>
    let (result, initiator, world) :=
      initiator.onHost (fun host => host.connectAttempt attempt initiator.attempts.defaults) world
    let (results, initiator, world) := initiator.connectEach rest world
    ((attempt.name, result) :: results, initiator, world)

/-- Connects every enabled attempt in the order of the store, unless connecting at startup is turned off. -/
def connectAttempts (initiator : Initiator C Q) (world : W) :
    List (String × Except HostError SessionKey) × Initiator C Q × W :=
  if initiator.attempts.defaults.enabled then initiator.connectEach initiator.attempts.enabled world
  else ([], initiator, world)

end Initiator

end FabricHost
