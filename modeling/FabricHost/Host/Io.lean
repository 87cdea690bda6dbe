import FabricHost.Host.Basic

/-!
# Commands of a host

Reads, writes, identify and the keep-alive pass over the sessions. A synchronous call reads the clock first: its
deadline counts from there. A handle names a request that was submitted without waiting.
-/

namespace FabricHost

inductive IoDirection where
  | read
  | write
deriving DecidableEq, Repr

/-- The name of a request that was submitted without waiting. -/
structure RequestHandle where
  session : SessionKey
  request : RequestId
  direction : IoDirection
deriving DecidableEq, Repr

/-- How a request that was submitted without waiting has ended. -/
structure IoResult where
  request : RequestId
  /-- What a read brought. -/
  data : Option Bytes
deriving DecidableEq, Repr

inductive IdentifyResult where
  | ofController (info : ControllerInfo)
  | ofNamespace (info : NamespaceInfo)
deriving DecidableEq, Repr

structure KeepAliveReport where
  sent : Nat := 0
  skipped : Nat := 0
deriving DecidableEq, Repr

namespace KeepAliveReport

/-- The report with what was done on one more session. -/
def add (report : KeepAliveReport) : KeepAliveOutcome → KeepAliveReport
  | .notDue => report
  | .sent => { report with sent := report.sent + 1 }
  | .skipped => { report with skipped := report.skipped + 1 }

end KeepAliveReport

/-- A namespace of a connected session. -/
structure NamespaceEntry where
  session : SessionKey
  nsid : UInt32
  subsystemNqn : String
  target : Endpoint
  /-- Known once the namespace has been identified. -/
  geometry : Option Geometry
deriving DecidableEq, Repr

namespace Host

variable {W C Q : Type} [Fabric W C Q] [Clock W]

/-- Reads a range into the front of a buffer, and waits for it. -/
def read (host : Host C Q) (key : SessionKey) (range : BlockRange) (buffer : Bytes) (world : W) :
    Except HostError Bytes × Host C Q × W :=
  let (now, world) := Clock.now world
  let deadline := Tick.after now host.config.ioTimeoutMs
  host.onLive key (fun last session => session.read host.config deadline last range buffer) world

/-- Writes a range from the front of the data, and waits for it. -/
def write (host : Host C Q) (key : SessionKey) (range : BlockRange) (data : Bytes) (world : W) :
    Except HostError Unit × Host C Q × W :=
  let (now, world) := Clock.now world
  let deadline := Tick.after now host.config.ioTimeoutMs
  host.onLive key (fun last session => session.write host.config deadline last range data) world

def submitRead (host : Host C Q) (key : SessionKey) (range : BlockRange) (world : W) :
    Except HostError RequestHandle × Host C Q × W :=
  let (request, host, world) :=
    host.onLive key (fun last session => session.submitRead host.config last range) world
  (request.map fun request => ⟨key, request, .read⟩, host, world)

def submitWrite (host : Host C Q) (key : SessionKey) (range : BlockRange) (data : Bytes) (world : W) :
    Except HostError RequestHandle × Host C Q × W :=
  let (request, host, world) :=
    host.onLive key (fun last session => session.submitWrite host.config last range data) world
  (request.map fun request => ⟨key, request, .write⟩, host, world)

/-- What a completion means for a handle: only a read has data. -/
def resultOf (handle : RequestHandle) (completion : Completion) : IoResult where
  request := handle.request
  data := match handle.direction with
    | .read => completion.data
    | .write => none

/-- Asks after a submitted request; none while it is in flight. -/
def poll (host : Host C Q) (handle : RequestHandle) (world : W) :
    Except HostError (Option IoResult) × Host C Q × W :=
  let (completion, host, world) := host.onLive handle.session
    (fun last session world =>
      let (completion, session, world) := session.pollIo handle.request world
      (completion, last, session, world))
    world
  (completion.map (Option.map (resultOf handle)), host, world)

/-- Stops waiting for a submitted request. -/
def abandon (host : Host C Q) (handle : RequestHandle) : Except HostError Unit × Host C Q :=
  match host.registry.find? handle.session with
  | none => (.error .sessionClosed, host)
  | some session =>
    let (answer, session) := session.abandonIo handle.request
    (answer, { host with registry := host.registry.replace session })

/-- Identifies the controller of a session if `nsid` is zero, and that namespace else. -/
def identify (host : Host C Q) (key : SessionKey) (nsid : UInt32) (world : W) :
    Except HostError IdentifyResult × Host C Q × W :=
  let (now, world) := Clock.now world
  let deadline := Tick.after now host.config.adminTimeoutMs
  let request := host.lastRequest + 1
  let budget := host.config.pollBudget
  { host with lastRequest := request }.onSession key (.notFound (.session key))
    (fun session world =>
      if !session.state.acceptsAdmin then (.error .sessionClosed, session, world)
      else if nsid = 0 then
        let (info, session, world) := session.identifyController budget deadline request world
        (info.map .ofController, session, world)
      else match session.checkNamespace nsid with
        | .error error => (.error error, session, world)
        | .ok () =>
          let (info, session, world) := session.identifyNamespace budget deadline request nsid world
          (info.map .ofNamespace, session, world))
    world

def keepAlivePass (now : Tick) : List (Session C Q) → KeepAliveReport → W →
    KeepAliveReport × List (Session C Q) × W
  | [], report, world => (report, [], world)
  | session :: rest, report, world =>
    let (outcome, session, world) := session.keepAlivePass now world
    let (report, rest, world) := keepAlivePass now rest (report.add outcome) world
    (report, session :: rest, world)

/-- Reaps every admin queue and sends the keep-alives that are due at a tick. -/
def tickAt (host : Host C Q) (now : Tick) (world : W) : KeepAliveReport × Host C Q × W :=
  let (report, sessions, world) := keepAlivePass now host.registry.sessions {} world
  (report, { host with registry := { host.registry with sessions } }, world)

def tick (host : Host C Q) (world : W) : KeepAliveReport × Host C Q × W :=
  let (now, world) := Clock.now world
  host.tickAt now world

def list (host : Host C Q) : List SessionSummary := host.registry.sessions.map Session.summary

/-- The namespaces of a session, from 1 up. -/
def namespacesOf (session : Session C Q) : List NamespaceEntry :=
  (List.range session.namespaceCount.toNat).map fun i =>
    let nsid := UInt32.ofNat (i + 1)
    { session := session.key
      nsid
      subsystemNqn := session.subsystemNqn
      target := session.target
      geometry := session.geometries[nsid]? }

def listNamespaces (host : Host C Q) : List NamespaceEntry := host.registry.sessions.flatMap namespacesOf

end Host

end FabricHost
