import FabricHost.Net.IpAddress
import FabricHost.Record.Limits
import FabricHost.Uuid.Basic

/-!
# Configuration records

An `Attempt` describes one named target to connect to, `HostDefaults` what holds for every connection of this host.
-/

namespace FabricHost

/-- Which addresses an attempt uses: one family, or whichever the network assigns. -/
inductive IpMode where
  | ipv4
  | ipv6
  | autoconfig
deriving DecidableEq, Repr

namespace IpMode

def toByte : IpMode → UInt8
  | ipv4 => 0
  | ipv6 => 1
  | autoconfig => 2

def ofByte? : UInt8 → Option IpMode
  | 0 => some ipv4
  | 1 => some ipv6
  | 2 => some autoconfig
  | _ => none

def label : IpMode → String
  | ipv4 => "Ipv4"
  | ipv6 => "Ipv6"
  | autoconfig => "Autoconfig"

/-- Whether an address may be used in this mode. -/
def admits : IpMode → IpAddress → Bool
  | ipv4, address => address.family = .v4
  | ipv6, address => address.family = .v6
  | autoconfig, _ => true

/-- Reads an address that may be used in this mode. -/
def parseAddress? : IpMode → String → Option IpAddress
  | ipv4, s => IpAddress.parseAs? .v4 s
  | ipv6, s => IpAddress.parseAs? .v6 s
  | autoconfig, s => IpAddress.parse? s

theorem ofByte?_toByte (mode : IpMode) : ofByte? mode.toByte = some mode := by cases mode <;> rfl

theorem toByte_of_ofByte? {value : UInt8} {mode : IpMode} (h : ofByte? value = some mode) : mode.toByte = value := by
  unfold ofByte? at h
  split at h <;> simp_all [toByte] <;> cases h <;> rfl

end IpMode

/-- How the host proves who it is. -/
inductive AuthMethod where
  | none
  | chap
deriving DecidableEq, Repr

namespace AuthMethod

def toByte : AuthMethod → UInt8
  | none => 0
  | chap => 1

def ofByte? : UInt8 → Option AuthMethod
  | 0 => some none
  | 1 => some chap
  | _ => Option.none

theorem ofByte?_toByte (method : AuthMethod) : ofByte? method.toByte = some method := by cases method <;> rfl

theorem toByte_of_ofByte? {value : UInt8} {method : AuthMethod} (h : ofByte? value = some method) :
    method.toByte = value := by
  unfold ofByte? at h
  split at h <;> simp_all [toByte] <;> cases h <;> rfl

end AuthMethod

/-- One named target connection. -/
structure Attempt where
  name : String := ""
  enabled : Bool := false
  dhcp : Bool := true
  ipMode : IpMode := .ipv4
  localIp : String := ""
  subnetMask : String := ""
  gateway : String := ""
  transportType : String := "tcp"
  targetAddress : String := ""
  targetPort : UInt16 := Limits.defaultTargetPort
  subsystemNqn : String := ""
  hostNqn : String := ""
  hostId : Uuid := .nil
  useHostNqn : Bool := false
  auth : AuthMethod := .none
  securityKeyPath : String := ""
  retryCount : UInt8 := Limits.defaultRetryCount
  connectTimeoutMs : UInt16 := Limits.defaultConnectTimeoutMs
  dnsMode : Bool := false
deriving DecidableEq, Repr

/-- What holds for every connection of this host. -/
structure HostDefaults where
  enabled : Bool := false
  targetCount : UInt16 := 0
  hostNqn : String := ""
  hostId : Uuid := .nil
  credentialPath : String := ""
deriving DecidableEq, Repr

end FabricHost
