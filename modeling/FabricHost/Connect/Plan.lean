import FabricHost.Connect.Command
import FabricHost.Host.Error
import FabricHost.Rule

/-!
# Connect plans

Checking a connect command either refuses it or turns it into a plan that needs no more checks. Nothing touches the
network before there is a plan.
-/

namespace FabricHost

/-- A checked command, ready for the handshake. -/
structure ConnectPlan where
  params : HandshakeParams
  connectTimeoutMs : UInt16
  retryCount : UInt8
  attempt : Option String
deriving DecidableEq, Repr

namespace ConnectCommand

def checkCapacities (c : ConnectCommand) : Except ParameterError Unit := do
  (checkCapacity "transport_type" Limits.transportType c.transportType).mapError .capacity
  (checkCapacity "subsystem_nqn" Limits.nqn c.subsystemNqn).mapError .capacity
  (checkCapacity "target_address" Limits.targetAddress c.targetAddress).mapError .capacity
  (checkCapacity "host_identity" Limits.identityText c.hostIdentity).mapError .capacity
  (checkCapacity "mac" Limits.macText c.mac).mapError .capacity
  (checkCapacity "local_ip" Limits.ipText c.localIp).mapError .capacity
  (checkCapacity "subnet_mask" Limits.ipText c.subnetMask).mapError .capacity
  (checkCapacity "gateway" Limits.ipText c.gateway).mapError .capacity
  (checkCapacity "host_nqn" Limits.nqn c.hostNqn).mapError .capacity

def transportKind (c : ConnectCommand) : Except ParameterError FabricKind :=
  match FabricKind.parse? c.transportType with
  | some kind => .ok kind
  | none => .error (.unsupportedTransport c.transportType)

def family (c : ConnectCommand) : Except ParameterError IpFamily :=
  if c.ipMode = 0 then .ok .v4
  else if c.ipMode = 1 then .ok .v6
  else .error (.unknownIpMode c.ipMode)

def address (family : IpFamily) (field value : String) : Except ParameterError IpAddress :=
  match IpAddress.parseAs? family value with
  | some address => .ok address
  | none => .error (.notAnAddress field value family)

/-- The host's own addresses, unless they are assigned. -/
def localBinding (c : ConnectCommand) (family : IpFamily) : Except ParameterError (Option LocalBinding) :=
  if c.localIp = "" then .ok none
  else do
    let own ← address family "local_ip" c.localIp
    let subnetMask ← address family "subnet_mask" c.subnetMask
    let gateway ← if c.gateway = "" then pure none else some <$> address family "gateway" c.gateway
    return some { address := own, subnetMask, gateway }

def hostId (c : ConnectCommand) (defaults : HostDefaults) : Except ParameterError Uuid :=
  if c.hostIdentity = "" then .ok defaults.hostId
  else match Uuid.parse? c.hostIdentity with
    | some id => .ok id
    | none => .error (.hostIdentityNotUuid c.hostIdentity)

/-- The name that the host goes by: the command's own if it is to be used, the host's default unless the command gives
an identifier, and one made from the identifier else. -/
def effectiveHostNqn (c : ConnectCommand) (defaults : HostDefaults) (hostId : Uuid) : String :=
  if c.useHostNqn ∧ c.hostNqn ≠ "" then c.hostNqn
  else if c.hostIdentity = "" ∧ defaults.hostNqn ≠ "" then defaults.hostNqn
  else Limits.hostNqnStem ++ hostId.text

/-- Checks a command and works out what the handshake needs. -/
def plan (c : ConnectCommand) (defaults : HostDefaults) (keepAliveTimeoutMs : UInt64) :
    Except ParameterError ConnectPlan := do
  c.checkCapacities
  let kind ← c.transportKind
  require (c.subsystemNqn ≠ "") .emptySubsystemNqn
  let family ← c.family
  let target ← address family "target_address" c.targetAddress
  require (c.targetPort ≠ 0) .zeroTargetPort
  require (c.connectTimeoutMs ≠ 0) .zeroConnectTimeout
  require (c.retryCount ≤ Limits.maxRetryCount) (.retryCountTooLarge c.retryCount)
  let binding ← c.localBinding family
  let hostId ← c.hostId defaults
  return {
    params := {
      kind
      target := { address := target, port := c.targetPort }
      subsystemNqn := c.subsystemNqn
      hostNqn := c.effectiveHostNqn defaults hostId
      hostId
      keepAliveTimeoutMs
      local? := binding
      mac? := if c.mac = "" then none else some c.mac }
    connectTimeoutMs := c.connectTimeoutMs
    retryCount := c.retryCount
    attempt := c.attempt }

end ConnectCommand

end FabricHost
