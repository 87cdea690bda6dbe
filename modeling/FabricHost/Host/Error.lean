import FabricHost.Fabric.Basic
import FabricHost.Nvme.Identify
import FabricHost.Queue.Tracker
import FabricHost.Record.Attempt
import FabricHost.Record.Capacity
import FabricHost.Session.Key
import FabricHost.Text.Quoted

/-!
# What can go wrong on a host

Each kind of error carries its cause. `message` is the only place that words them.
-/

namespace FabricHost

inductive ParameterError where
  | capacity (error : CapacityError)
  | unsupportedTransport (name : String)
  | emptySubsystemNqn
  | unknownIpMode (mode : UInt8)
  | notAnAddress (field value : String) (family : IpFamily)
  | zeroTargetPort
  | zeroConnectTimeout
  | retryCountTooLarge (count : UInt8)
  | hostIdentityNotUuid (value : String)
  | transportNotCarried (kind : FabricKind) (fabric : String)
  | attemptDisabled (name : String)
  | zeroBlockCount
  | namespaceOutOfRange (nsid count : UInt32)
  | unsupportedBlockSize (nsid : UInt32) (size : Nat)
  | blocksOutOfRange (start : UInt64) (count : UInt32) (nsid : UInt32) (capacity : UInt64)
deriving DecidableEq, Repr

namespace ParameterError

def familyLabel : IpFamily → String
  | .v4 => "IPv4"
  | .v6 => "IPv6"

def message : ParameterError → String
  | capacity error => error.message
  | unsupportedTransport name => s!"unsupported transport type {Quoted.render (FabricKind.lowerCase name)}"
  | emptySubsystemNqn => "subsystem NQN is empty"
  | unknownIpMode mode => s!"unknown IP mode {mode}"
  | notAnAddress field value family => s!"{field} {Quoted.render value} is not an {familyLabel family} address"
  | zeroTargetPort => "target port is zero"
  | zeroConnectTimeout => "connect timeout is zero"
  | retryCountTooLarge count => s!"retry count {count} exceeds {Limits.maxRetryCount}"
  | hostIdentityNotUuid value => s!"host identity {Quoted.render value} is not a UUID"
  | transportNotCarried kind fabric => s!"transport {kind.text} not supported by {fabric}"
  | attemptDisabled name => s!"attempt {name} is disabled"
  | zeroBlockCount => "block count is zero"
  | namespaceOutOfRange nsid count => s!"namespace {nsid} not in 1..={count}"
  | unsupportedBlockSize nsid size =>
    s!"namespace {nsid} uses {size}-byte blocks, only {Limits.blockSize} is supported"
  | blocksOutOfRange start count nsid size =>
    s!"blocks {start}..+{count} outside namespace {nsid} of {size} blocks"

end ParameterError

inductive ReachError where
  | handshake (failure : TransportFailure)
  | unresolved (host reason : String)
  | noAddressOfMode (host : String) (mode : IpMode)
deriving DecidableEq, Repr

namespace ReachError

def message : ReachError → String
  | handshake failure => failure.message
  | unresolved host reason => s!"cannot resolve {host}: {reason}"
  | noAddressOfMode host mode => s!"{host} has no address of mode {mode.label}"

end ReachError

inductive SessionFault where
  | fabric (failure : TransportFailure)
  | page (error : PageError)
  | noIdentifyData
  | shortRead (request : RequestId)
deriving DecidableEq, Repr

namespace SessionFault

def message : SessionFault → String
  | fabric failure => failure.message
  | page error => error.message
  | noIdentifyData => "identify returned no data"
  | shortRead request => s!"short read of request {request}"

end SessionFault

inductive ResourceError where
  | sessions (limit : Nat)
  | keys (target : Endpoint)
  | slots (session : SessionKey)
deriving DecidableEq, Repr

namespace ResourceError

def message : ResourceError → String
  | sessions limit => s!"session limit of {limit} reached"
  | keys target => s!"no free session key for {target.text}"
  | slots session => s!"I/O queue of session {session.text} is full"

end ResourceError

inductive Missing where
  | session (key : SessionKey)
  | request (id : RequestId)
  | attempt (name : String)
deriving DecidableEq, Repr

namespace Missing

def message : Missing → String
  | session key => s!"session {key.text}"
  | request id => s!"request {id}"
  | attempt name => s!"attempt {name}"

end Missing

/-- Why a call on the host fails. -/
inductive HostError where
  /-- Refused before anything changed. -/
  | invalidParameter (error : ParameterError)
  | transportUnreachable (error : ReachError)
  | transportError (fault : SessionFault)
  | timeout
  | outOfResources (error : ResourceError)
  | notFound (missing : Missing)
  | duplicateSession (key : SessionKey)
  /-- The controller completed a command with a failure. -/
  | mediaError (status : Status)
  | sessionClosed
  | bufferTooSmall (needed available : Nat)
  /-- The budget of a wait was used up before its deadline came. A wait without a budget has no such end, and no call
  answers this if the budget is enough for the clock. -/
  | pollsExhausted
deriving DecidableEq, Repr

namespace HostError

def statusText (status : Status) : String := "0x" ++ String.ofList (Hex.ofBytes (Bytes.ofNatBE 2 status.word.toNat))

def message : HostError → String
  | invalidParameter error => s!"Invalid parameter: {error.message}"
  | transportUnreachable error => s!"Transport unreachable: {error.message}"
  | transportError fault => s!"Transport error: {fault.message}"
  | timeout => "Operation timed out"
  | outOfResources error => s!"Out of resources: {error.message}"
  | notFound missing => s!"Not found: {missing.message}"
  | duplicateSession key => s!"Session already registered: {key.text}"
  | mediaError status => s!"Media error: status {statusText status}"
  | sessionClosed => "Session closed"
  | bufferTooSmall needed available => s!"Buffer too small: need {needed} bytes, have {available}"
  | pollsExhausted => "Polling given up"

/-- A fabric failure on a connected session. -/
def ofFailure (failure : TransportFailure) : HostError := transportError (.fabric failure)

end HostError

end FabricHost
