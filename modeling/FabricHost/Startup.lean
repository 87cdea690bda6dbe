import FabricHost.AttemptStore.Persistence
import FabricHost.Initiator
import FabricHost.Loopback.Network
import FabricHost.Version

/-!
# Starting up

What happens before the host polls: a store without attempts is given one, a simulated network serves the enabled
attempts, all of them are connected, and their namespaces are identified. What was done is told in lines of text.
-/

namespace FabricHost.Startup

/-- The attempt that an empty store is given. -/
def seedAttempt : Attempt where
  name := "loopback"
  enabled := true
  targetAddress := "127.0.0.1"
  subsystemNqn := "nqn.2014-08.org.nvmexpress:loopback"

/-- Gives an empty store its attempt and saves it. -/
def seed {S : Type} [VariableStore S] (store : AttemptStore) (vars : S) :
    Except PersistenceError AttemptStore × S :=
  match store.add seedAttempt with
  | .error error => (.error (.attempt store.attempts.length error), vars)
  | .ok store =>
    let (saved, vars) := store.save vars
    (saved.map fun _ => store, vars)

/-- Reads the store, and seeds it if it is empty. -/
def openStore {S : Type} [VariableStore S] (freshId : Uuid) (vars : S) : Except PersistenceError AttemptStore × S :=
  let store := AttemptStore.loadOrFresh freshId vars
  if store.attempts.isEmpty then seed store vars else (.ok store, vars)

/-- The blocks of a simulated namespace. -/
def simulatedBlocks : UInt64 := 2048

/-- A simulated network that serves the attempts whose targets are spelt as addresses. -/
def serve (attempts : List Attempt) : Loopback :=
  attempts.foldl
    (fun net attempt =>
      match Endpoint.parse? s!"{attempt.targetAddress}:{attempt.targetPort}" with
      | some target => net.addSubsystem target attempt.subsystemNqn [simulatedBlocks]
      | none => net)
    {}

/-- What is told of an attempt. -/
def connectLine : String × Except HostError SessionKey → String
  | (name, .ok key) => s!"Attempt {name} connected as {key.text}"
  | (name, .error error) => s!"Attempt {name} not connected: {error.message}"

variable {W C Q : Type} [Fabric W C Q] [Clock W]

/-- What is told of a namespace that was identified. -/
def namespaceLine (initiator : Initiator C Q) (entry : NamespaceEntry) (info : NamespaceInfo) : String :=
  match initiator.bootDescription entry.session entry.nsid with
  | .ok description => s!"{description.text}: {info.sizeBlocks} blocks of {info.blockSize} bytes"
  | .error error => error.message

/-- Identifies namespaces one after the other. -/
def identifyEach (initiator : Initiator C Q) : List NamespaceEntry → (world : W) →
    List String × Initiator C Q × W
  | [], world => ([], initiator, world)
  | entry :: rest, world =>
    let (result, initiator, world) :=
      initiator.onHost (fun host => host.identify entry.session entry.nsid) world
    let line := match result with
      | .ok (.ofNamespace info) => [namespaceLine initiator entry info]
      | .ok (.ofController _) => []
      | .error error => [s!"Identify of {entry.session.text} nsid {entry.nsid} failed: {error.message}"]
    let (lines, initiator, world) := identifyEach initiator rest world
    (line ++ lines, initiator, world)

/-- Connects the enabled attempts and identifies their namespaces. -/
def connectAll (initiator : Initiator C Q) (world : W) : List String × Initiator C Q × W :=
  let (results, initiator, world) := initiator.connectAttempts world
  let (lines, initiator, world) := identifyEach initiator initiator.host.listNamespaces world
  (results.map connectLine ++ lines, initiator, world)

end FabricHost.Startup
