import FabricHost.Host.Config
import FabricHost.Host.Registry
import FabricHost.Session.Io

/-!
# The host

A host has sessions and numbers its requests. What a call does to a session is put back under the session's key, and
nothing else of the host changes but the number of the last request.
-/

namespace FabricHost

/-- A host with its sessions. -/
structure Host (C Q : Type) where
  config : Config := {}
  registry : Registry C Q
  /-- The number of the last request; requests count from 1. -/
  lastRequest : RequestId := 0

namespace Host

variable {W C Q α : Type}

def ofConfig (config : Config) : Host C Q where
  config
  registry := { limit := config.maxSessions }

/-- Runs an action on the session of a key. If there is none, the given error is the answer. -/
def onSession (host : Host C Q) (key : SessionKey) (missing : HostError)
    (action : Session C Q → W → Except HostError α × Session C Q × W) (world : W) :
    Except HostError α × Host C Q × W :=
  match host.registry.find? key with
  | none => (.error missing, host, world)
  | some session =>
    let (answer, session, world) := action session world
    (answer, { host with registry := host.registry.replace session }, world)

/-- Runs an action that may number requests on the session of a key, if the session takes reads and writes. -/
def onLive (host : Host C Q) (key : SessionKey)
    (action : RequestId → Session C Q → W → Except HostError α × RequestId × Session C Q × W) (world : W) :
    Except HostError α × Host C Q × W :=
  match host.registry.find? key with
  | none => (.error .sessionClosed, host, world)
  | some session =>
    if session.state.acceptsIo then
      let (answer, lastRequest, session, world) := action host.lastRequest session world
      (answer, { host with registry := host.registry.replace session, lastRequest }, world)
    else (.error .sessionClosed, host, world)

end Host

end FabricHost
