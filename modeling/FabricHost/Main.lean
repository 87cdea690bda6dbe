import FabricHost.Startup

/-!
# The command line

Keeps the store in files, and connects the enabled attempts over a simulated network for as long as the program runs.
-/

namespace FabricHost.CommandLine

/-- The variables of the store as they are on disk. -/
def readDirectory (path : String) : IO Directory := do
  let mut directory : Directory := {}
  for name in [AttemptStore.defaultsVariable, AttemptStore.attemptsVariable] do
    let file := Directory.fileOf name
    match ← (IO.FS.readBinFile (path ++ "/" ++ file)).toBaseIO with
    | .ok content => directory := (directory.write file content.toList).2
    | .error _ => pure ()
  return directory

/-- Writes the variables of the store, the attempts first, each by way of its temporary file. -/
def writeDirectory (path : String) (directory : Directory) : IO Unit := do
  for name in [AttemptStore.attemptsVariable, AttemptStore.defaultsVariable] do
    match directory.read (Directory.fileOf name) with
    | .ok content =>
      let temporary := path ++ "/" ++ Directory.temporaryFileOf name
      IO.FS.writeBinFile temporary ⟨content.toArray⟩
      IO.FS.rename temporary (path ++ "/" ++ Directory.fileOf name)
    | .error _ => pure ()

def entropy : IO (Vector UInt8 16) := do
  let bytes ← IO.getRandomBytes 16
  return Vector.ofFn fun i => bytes.data.getD i.val 0

/-- The environment variables that are set. -/
def environment : IO (String → Option String) := do
  let values ← Config.environmentNames.mapM fun name => do return (name, ← IO.getEnv name)
  return fun name => (values.lookup name).join

/-- The world at the present tick, counted from `origin`. -/
def present (origin : Nat) (world : Simulation) : IO Simulation := do
  let now ← IO.monoMsNow
  return { world with clock := world.clock.set (UInt64.ofNat (now - origin)) }

/-- Sends the keep-alives that are due, again and again. -/
partial def poll (origin : Nat) (initiator : Initiator LoopbackController LoopbackQueue) (world : Simulation) :
    IO Unit := do
  let (_, initiator, world) := initiator.onHost (fun host => host.tick) (← present origin world)
  IO.sleep (UInt32.ofNat initiator.host.config.pollIntervalMs)
  poll origin initiator world

def say (line : String) : IO Unit := do
  IO.println line
  (← IO.getStdout).flush

/-- Opens the store, connects its attempts, and keeps the sessions alive. -/
def run : IO Unit := do
  let version : VersionInfo := {}
  say version.text
  let config := Config.ofEnvironment (← environment)
  IO.FS.createDirAll config.storeDir
  let (opened, directory) := Startup.openStore (Uuid.random (← entropy)) (← readDirectory config.storeDir)
  match opened with
  | .error error => throw (IO.userError error.message)
  | .ok store =>
    writeDirectory config.storeDir directory
    let origin ← IO.monoMsNow
    let world ← present origin { net := Startup.serve store.enabled }
    let (lines, initiator, world) := Startup.connectAll (Initiator.ofConfig config store) world
    lines.forM say
    poll origin initiator world

end FabricHost.CommandLine

def main : IO Unit := FabricHost.CommandLine.run
