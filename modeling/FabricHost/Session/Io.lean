import FabricHost.Host.Config
import FabricHost.Session.Command

/-!
# Block I/O on a session

A range is permitted before any command for it reaches the I/O queue: it must not be empty, the caller's bytes must
suffice, and it must lie inside a namespace of 512-byte blocks. What the session does not know about the namespace it
asks the controller, once. Requests are numbered in one sequence; each call is given the last number used and gives
back the last one it used.
-/

namespace FabricHost

namespace Session

variable {W C Q : Type} [Fabric W C Q] [Clock W]

/-- The geometry of a namespace: remembered, or asked for by an identify. -/
def ensureGeometry (session : Session C Q) (config : Config) (last : RequestId) (nsid : UInt32) (world : W) :
    Except HostError Geometry × RequestId × Session C Q × W :=
  match session.geometries[nsid]? with
  | some geometry => (.ok geometry, last, session, world)
  | none =>
    match session.checkNamespace nsid with
    | .error error => (.error error, last, session, world)
    | .ok () =>
      let (now, world) := Clock.now world
      let deadline := Tick.after now config.adminTimeoutMs
      let (info, session, world) := session.identifyNamespace config.pollBudget deadline (last + 1) nsid world
      (info.map Geometry.ofInfo, last + 1, session, world)

/-- Permits a range for which the caller has `available` bytes. -/
def permit (session : Session C Q) (config : Config) (last : RequestId) (range : BlockRange) (available : Nat)
    (world : W) : Except HostError Unit × RequestId × Session C Q × W :=
  if range.count = 0 then (.error (.invalidParameter .zeroBlockCount), last, session, world)
  else if available < range.length then (.error (.bufferTooSmall range.length available), last, session, world)
  else
    let (geometry, last, session, world) := session.ensureGeometry config last range.nsid world
    (geometry >>= fun geometry => checkRange geometry range, last, session, world)

/-- The bytes that a completed read brought, if they fill the range. -/
def readData (range : BlockRange) (request : RequestId) (completion : Completion) : Except HostError Bytes :=
  match completion.data with
  | some data =>
    if range.length ≤ data.length then .ok (data.take range.length) else .error (.transportError (.shortRead request))
  | none => .error (.transportError (.shortRead request))

def read (session : Session C Q) (config : Config) (deadline : Tick) (last : RequestId) (range : BlockRange)
    (buffer : Bytes) (world : W) : Except HostError Bytes × RequestId × Session C Q × W :=
  match session.permit config last range buffer.length world with
  | (.error error, last, session, world) => (.error error, last, session, world)
  | (.ok (), last, session, world) =>
    let request := last + 1
    let (result, session, world) :=
      session.executeIo config.pollBudget deadline request (.read range.nsid range.start range.count) world
    let filled := do return Bytes.overwrite buffer 0 (← readData range request (← result))
    (filled, request, session, world)

/-- Writes a range from the front of the data. -/
def write (session : Session C Q) (config : Config) (deadline : Tick) (last : RequestId) (range : BlockRange)
    (data : Bytes) (world : W) : Except HostError Unit × RequestId × Session C Q × W :=
  match session.permit config last range data.length world with
  | (.error error, last, session, world) => (.error error, last, session, world)
  | (.ok (), last, session, world) =>
    let request := last + 1
    let command := .write range.nsid range.start range.count (data.take range.length)
    let (result, session, world) := session.executeIo config.pollBudget deadline request command world
    (result.map fun _ => (), request, session, world)

/-- Permits a range and submits the command for it without waiting. The answer is the number of the request. -/
def submit (session : Session C Q) (config : Config) (last : RequestId) (range : BlockRange) (available : Nat)
    (command : Command) (world : W) : Except HostError RequestId × RequestId × Session C Q × W :=
  match session.permit config last range available world with
  | (.error error, last, session, world) => (.error error, last, session, world)
  | (.ok (), last, session, world) =>
    let request := last + 1
    let (result, session, world) := session.submitIo request command world
    (result.map fun _ => request, request, session, world)

def submitRead (session : Session C Q) (config : Config) (last : RequestId) (range : BlockRange) (world : W) :
    Except HostError RequestId × RequestId × Session C Q × W :=
  session.submit config last range range.length (.read range.nsid range.start range.count) world

/-- Submits a write from the front of the data without waiting. -/
def submitWrite (session : Session C Q) (config : Config) (last : RequestId) (range : BlockRange) (data : Bytes)
    (world : W) : Except HostError RequestId × RequestId × Session C Q × W :=
  session.submit config last range data.length (.write range.nsid range.start range.count (data.take range.length))
    world

end Session

end FabricHost
