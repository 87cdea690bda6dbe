import FabricHost.Record.Attempt
import FabricHost.Record.Field

/-!
# Stored records

A record is a two-byte version followed by its layout. A set of attempts is a two-byte count followed by that many
records. The version is checked before anything else of a record is read, and a stored set is one whole: a record that
cannot be read, or bytes behind the last, refuse all of it.
-/

namespace FabricHost

namespace RecordError

def message : RecordError → String
  | unsupportedVersion found => s!"Unsupported record version {found} (supported: {Limits.recordVersion})"
  | truncated needed available => s!"Record truncated: need {needed} bytes, have {available}"
  | capacity error => error.message
  | invalidText field => s!"Field {field} is not valid UTF-8"
  | invalidValue field value => s!"Field {field} has invalid value {value}"
  | trailingData length => s!"Trailing data after record set: {length} bytes"

end RecordError

namespace Record

variable {α : Type}

/-- Refuses byte strings shorter than what is about to be read. No more bytes than needed are counted unless it does. -/
def ensure (bytes : Bytes) (needed : Nat) : Except RecordError Unit :=
  if (bytes.take needed).length < needed then .error (.truncated needed bytes.length) else .ok ()

/-- A value that takes up a whole byte string. -/
def whole : α × Bytes → Except RecordError α
  | (value, rest) => if rest = [] then .ok value else .error (.trailingData rest.length)

/-- The bytes of a record, version included. -/
def write (layout : Field α) (value : α) : Except RecordError Bytes := do
  return Bytes.ofNatLE 2 Limits.recordVersion ++ (← layout.write value)

/-- Reads a record from the front of a byte string and gives what follows it. -/
def readFront (layout : Field α) (bytes : Bytes) : Except RecordError (α × Bytes) := do
  ensure bytes 2
  let found := Bytes.toNatLE (bytes.take 2)
  if found ≠ Limits.recordVersion then
    throw (.unsupportedVersion found)
  let body := bytes.drop 2
  let image := body.take layout.width
  if h : image.length = layout.width then
    return (← layout.read image h, body.drop layout.width)
  else
    throw (.truncated layout.width body.length)

/-- Reads a record that is the whole byte string. -/
def read (layout : Field α) (bytes : Bytes) : Except RecordError α :=
  readFront layout bytes >>= whole

/-- Reads as many records as counted from the front of a byte string. -/
def readMany (layout : Field α) : (count : Nat) → Bytes → Except RecordError (List α × Bytes)
  | 0, bytes => .ok ([], bytes)
  | count + 1, bytes => do
    let (value, rest) ← readFront layout bytes
    let (values, rest) ← readMany layout count rest
    return (value :: values, rest)

/-- The records one after another. -/
def writeAll (layout : Field α) (values : List α) : Except RecordError Bytes := do
  return (← values.mapM (write layout)).flatten

end Record

namespace Attempt

/-- The layout of an attempt behind its version. -/
def layout : Field Attempt :=
  Field.as
    ((Field.text "name" Limits.attemptName).pair <|
      Field.flag.pair <| Field.flag.pair <| (Field.choice "ip_mode" IpMode.toByte IpMode.ofByte?).pair <|
      Field.flag.pair <| (Field.choice "auth_type" AuthMethod.toByte AuthMethod.ofByte?).pair <|
      Field.flag.pair <| Field.byte.pair <| Field.reserved.pair <|
      Field.word.pair <| Field.word.pair <|
      (Field.text "local_ip" Limits.ipText).pair <|
      (Field.text "subnet_mask" Limits.ipText).pair <|
      (Field.text "gateway" Limits.ipText).pair <|
      (Field.text "transport_type" Limits.transportType).pair <|
      (Field.text "target_address" Limits.targetAddress).pair <|
      (Field.text "subsystem_nqn" Limits.nqn).pair <|
      (Field.text "host_nqn" Limits.nqn).pair <|
      Field.uuid.pair <|
      Field.text "security_key_path" Limits.keyPath)
    (fun (name, enabled, dhcp, ipMode, useHostNqn, auth, dnsMode, retryCount, (), targetPort, connectTimeoutMs,
        localIp, subnetMask, gateway, transportType, targetAddress, subsystemNqn, hostNqn, hostId, securityKeyPath) =>
      { name, enabled, dhcp, ipMode, useHostNqn, auth, dnsMode, retryCount, targetPort, connectTimeoutMs, localIp,
        subnetMask, gateway, transportType, targetAddress, subsystemNqn, hostNqn, hostId, securityKeyPath })
    (fun a => (a.name, a.enabled, a.dhcp, a.ipMode, a.useHostNqn, a.auth, a.dnsMode, a.retryCount, (), a.targetPort,
      a.connectTimeoutMs, a.localIp, a.subnetMask, a.gateway, a.transportType, a.targetAddress, a.subsystemNqn,
      a.hostNqn, a.hostId, a.securityKeyPath))

/-- The size of a stored attempt. -/
def recordLength : Nat := 2 + layout.width

example : recordLength = 1084 := by decide

def encode (attempt : Attempt) : Except RecordError Bytes := Record.write layout attempt

def decode (bytes : Bytes) : Except RecordError Attempt := Record.read layout bytes

def encodeSet (attempts : List Attempt) : Except RecordError Bytes := do
  if Limits.setCount < attempts.length then
    throw (.capacity (.fieldTooLong "attempt_count" attempts.length Limits.setCount))
  return Bytes.ofNatLE 2 attempts.length ++ (← Record.writeAll layout attempts)

/-- Reads a set of attempts that is the whole byte string. -/
def decodeSet (bytes : Bytes) : Except RecordError (List Attempt) := do
  Record.ensure bytes 2
  Record.whole (← Record.readMany layout (Bytes.toNatLE (bytes.take 2)) (bytes.drop 2))

end Attempt

namespace HostDefaults

/-- The layout of the host defaults behind their version. -/
def layout : Field HostDefaults :=
  Field.as
    (Field.flag.pair <| Field.reserved.pair <| Field.word.pair <|
      (Field.text "host_nqn" Limits.nqn).pair <|
      Field.uuid.pair <|
      Field.text "credential_path" Limits.keyPath)
    (fun (enabled, (), targetCount, hostNqn, hostId, credentialPath) =>
      { enabled, targetCount, hostNqn, hostId, credentialPath })
    (fun d => (d.enabled, (), d.targetCount, d.hostNqn, d.hostId, d.credentialPath))

/-- The size of the stored host defaults. -/
def recordLength : Nat := 2 + layout.width

example : recordLength = 470 := by decide

def encode (defaults : HostDefaults) : Except RecordError Bytes := Record.write layout defaults

def decode (bytes : Bytes) : Except RecordError HostDefaults := Record.read layout bytes

end HostDefaults

end FabricHost
