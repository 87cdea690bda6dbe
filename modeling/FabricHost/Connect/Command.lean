import FabricHost.Record.Attempt

/-!
# Connect commands

A connect command says in text what to connect to and how. An attempt becomes a command once the address of its target
is known.
-/

namespace FabricHost

/-- What to connect to and how. -/
structure ConnectCommand where
  transportType : String := "tcp"
  subsystemNqn : String := ""
  targetAddress : String := ""
  targetPort : UInt16 := Limits.defaultTargetPort
  /-- The host's identifier; empty for the host's default. -/
  hostIdentity : String := ""
  mac : String := ""
  /-- The address family: zero for version 4, one for version 6. -/
  ipMode : UInt8 := 0
  /-- The host's own address; empty to have one assigned. -/
  localIp : String := ""
  subnetMask : String := ""
  gateway : String := ""
  connectTimeoutMs : UInt16 := Limits.defaultConnectTimeoutMs
  hostNqn : String := ""
  useHostNqn : Bool := false
  /-- How often a failed handshake is tried again. -/
  retryCount : UInt8 := 0
  attempt : Option String := none
deriving DecidableEq, Repr

namespace ConnectCommand

def familyByte : IpFamily → UInt8
  | .v4 => 0
  | .v6 => 1

/-- The family that an attempt is connected over. Automatic configuration takes that of the target's address. -/
def familyOf (mode : IpMode) (targetAddress : String) : IpFamily :=
  match mode with
  | .ipv4 => .v4
  | .ipv6 => .v6
  | .autoconfig => ((IpAddress.parse? targetAddress).map IpAddress.family).getD .v4

/-- The command for an attempt whose target is at the given address. -/
def ofAttempt (attempt : Attempt) (targetAddress : String) : ConnectCommand where
  transportType := attempt.transportType
  subsystemNqn := attempt.subsystemNqn
  targetAddress
  targetPort := attempt.targetPort
  hostIdentity := if attempt.hostId.isNil then "" else attempt.hostId.text
  ipMode := familyByte (familyOf attempt.ipMode targetAddress)
  localIp := if attempt.dhcp then "" else attempt.localIp
  subnetMask := if attempt.dhcp then "" else attempt.subnetMask
  gateway := if attempt.dhcp then "" else attempt.gateway
  connectTimeoutMs := attempt.connectTimeoutMs
  hostNqn := attempt.hostNqn
  useHostNqn := attempt.useHostNqn
  retryCount := attempt.retryCount
  attempt := some attempt.name

end ConnectCommand

end FabricHost
