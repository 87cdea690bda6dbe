import FabricHost.Fabric.Kind
import FabricHost.Record.Attempt
import FabricHost.Record.Capacity
import FabricHost.Rule
import FabricHost.Text.Quoted

/-!
# Rules for attempts

An attempt is checked by itself and against the names that are already taken. Every attempt must fit its record; an
enabled one must also name its target; addresses must be of the attempt's IP mode.
-/

namespace FabricHost

inductive AttemptError where
  | emptyName
  | nameNotPrintable (name : String)
  | duplicateName (name : String)
  | unknownAttempt (name : String)
  | capacity (error : CapacityError)
  | unsupportedTransport (name : String)
  | retryCountOutOfRange (count : UInt8)
  | connectTimeoutOutOfRange (timeoutMs : UInt16)
  | missingField (what : String)
  | invalidAddress (field value : String) (mode : IpMode)
  | autoconfigWithoutDhcp
  | missingHostNqn
  | missingSecurityKey
deriving DecidableEq, Repr

namespace AttemptError

def message : AttemptError → String
  | emptyName => "Attempt name is empty"
  | nameNotPrintable name => s!"Attempt name {Quoted.render name} contains non-printable characters"
  | duplicateName name => s!"Attempt {Quoted.render name} already exists"
  | unknownAttempt name => s!"Attempt {Quoted.render name} not found"
  | capacity error => error.message
  | unsupportedTransport name => s!"Unsupported transport type {Quoted.render name}"
  | retryCountOutOfRange count => s!"Retry count {count} exceeds {Limits.maxRetryCount}"
  | connectTimeoutOutOfRange timeoutMs =>
    s!"Connect timeout {timeoutMs} ms outside {Limits.minConnectTimeoutMs}..={Limits.maxConnectTimeoutMs}"
  | missingField what => s!"Enabled attempt is missing {what}"
  | invalidAddress field value mode =>
    s!"Field {field} value {Quoted.render value} is not a valid {mode.label} address"
  | autoconfigWithoutDhcp => "Autoconfig IP mode requires DHCP"
  | missingHostNqn => "Host NQN override enabled without a host NQN"
  | missingSecurityKey => "CHAP authentication requires a security key path"

end AttemptError

namespace Attempt

/-- Plain ASCII: letters, digits, punctuation and the space. -/
def isNameChar (c : Char) : Bool := ' ' ≤ c && c ≤ '~'

def checkName (name : String) : Except AttemptError Unit := do
  require (name ≠ "") .emptyName
  (checkCapacity "name" Limits.attemptName name).mapError .capacity
  require (name.toList.all isNameChar) (.nameNotPrintable name)

def checkCapacities (a : Attempt) : Except AttemptError Unit := do
  (checkCapacity "transport_type" Limits.transportType a.transportType).mapError .capacity
  (checkCapacity "local_ip" Limits.ipText a.localIp).mapError .capacity
  (checkCapacity "subnet_mask" Limits.ipText a.subnetMask).mapError .capacity
  (checkCapacity "gateway" Limits.ipText a.gateway).mapError .capacity
  (checkCapacity "target_address" Limits.targetAddress a.targetAddress).mapError .capacity
  (checkCapacity "subsystem_nqn" Limits.nqn a.subsystemNqn).mapError .capacity
  (checkCapacity "host_nqn" Limits.nqn a.hostNqn).mapError .capacity
  (checkCapacity "security_key_path" Limits.keyPath a.securityKeyPath).mapError .capacity

def checkConnection (a : Attempt) : Except AttemptError Unit := do
  require (FabricKind.parse? a.transportType).isSome (.unsupportedTransport a.transportType)
  require (a.retryCount ≤ Limits.maxRetryCount) (.retryCountOutOfRange a.retryCount)
  require (Limits.minConnectTimeoutMs ≤ a.connectTimeoutMs ∧ a.connectTimeoutMs ≤ Limits.maxConnectTimeoutMs)
    (.connectTimeoutOutOfRange a.connectTimeoutMs)
  require (a.enabled → a.subsystemNqn ≠ "") (.missingField "subsystem NQN")
  require (a.enabled → a.targetAddress ≠ "") (.missingField "target address")
  require (a.enabled → a.targetPort ≠ 0) (.missingField "target port")

/-- An address text of the attempt's IP mode. -/
def checkAddress (a : Attempt) (field value : String) : Except AttemptError Unit :=
  require (a.ipMode.parseAddress? value).isSome (.invalidAddress field value a.ipMode)

/-- The rules of addresses: the target's unless it is a name to resolve, and the host's own unless it is assigned. -/
def checkAddresses (a : Attempt) : Except AttemptError Unit := do
  if !a.dnsMode && a.targetAddress ≠ "" then
    a.checkAddress "target_address" a.targetAddress
  require (a.ipMode = .autoconfig → a.dhcp) .autoconfigWithoutDhcp
  if !a.dhcp then
    a.checkAddress "local_ip" a.localIp
    a.checkAddress "subnet_mask" a.subnetMask
    if a.gateway ≠ "" then
      a.checkAddress "gateway" a.gateway

def checkIdentity (a : Attempt) : Except AttemptError Unit := do
  require (a.useHostNqn → a.hostNqn ≠ "") .missingHostNqn
  require (a.auth = .chap → a.securityKeyPath ≠ "") .missingSecurityKey

/-- Checks an attempt against the names already taken. -/
def check (taken : List String) (a : Attempt) : Except AttemptError Unit := do
  checkName a.name
  require (a.name ∉ taken) (.duplicateName a.name)
  a.checkCapacities
  a.checkConnection
  a.checkAddresses
  a.checkIdentity

end Attempt

end FabricHost
