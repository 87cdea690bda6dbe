import FabricHost.Loopback.Basic
import FabricHost.Nvme.Identify

/-!
# Executing simulated commands

What a simulated controller does with a command, and what it answers.
-/

namespace FabricHost.Loopback

/-- The eight upper-case hexadecimal digits of a controller id. -/
def serialDigits (controllerId : UInt16) : String :=
  let digits := (Nat.toDigits 16 controllerId.toNat).map Char.toUpper
  String.ofList (List.replicate (8 - digits.length) '0' ++ digits)

def controllerInfo (controllerId : UInt16) (volumes : List Volume) : ControllerInfo where
  vendorId := 0x1b36
  serialNumber := "LOOP" ++ serialDigits controllerId
  modelNumber := "Loopback NVMe-oF Controller"
  firmwareRevision := "1.0"
  controllerId
  namespaceCount := UInt32.ofNat volumes.length

/-- The identifier of a namespace: its number and its controller's, then zeros. -/
def guidOf (nsid : UInt32) (controllerId : UInt16) : Vector UInt8 16 :=
  let bytes := Bytes.ofNatBE 4 nsid.toNat ++ Bytes.ofNatBE 2 controllerId.toNat
  Vector.ofFn fun i => bytes.getD i.val 0

/-- The binary logarithm of the real block size. -/
def realBlockShift : UInt8 := 9

def namespaceInfo (controllerId : UInt16) (shift : UInt8) (nsid : UInt32) (volume : Volume) : NamespaceInfo where
  nsid
  sizeBlocks := volume.blocks
  capacityBlocks := volume.blocks
  utilizationBlocks := volume.blocks
  blockShift := shift
  guid := guidOf nsid controllerId

/-- The volume of a namespace. Namespaces are numbered from 1. -/
def volumeOf? (volumes : List Volume) (nsid : UInt32) : Option Volume :=
  if nsid = 0 then none else volumes[nsid.toNat - 1]?

def answer (id : CommandId) (status : Status) : Completion := { id, status }

def deliver (id : CommandId) (data : Bytes) : Completion := { id, status := .success, data := some data }

/-- Executes a command against the volumes of a subsystem. -/
def executeOn (behavior : LoopbackBehavior) (controllerId : UInt16) (volumes : List Volume) (id : CommandId) :
    Command → Completion × List Volume
  | .keepAlive => (answer id .success, volumes)
  | .identifyController => (deliver id (controllerInfo controllerId volumes).toPage, volumes)
  | .identifyNamespace nsid =>
    match volumeOf? volumes nsid with
    | none => (answer id .invalidNamespace, volumes)
    | some volume =>
      (deliver id (namespaceInfo controllerId (behavior.blockShift.getD realBlockShift) nsid volume).toPage, volumes)
  | .read nsid start count =>
    match behavior.ioStatus, volumeOf? volumes nsid with
    | some status, _ => (answer id status, volumes)
    | none, none => (answer id .invalidNamespace, volumes)
    | none, some volume =>
      match volume.read start count with
      | .error status => (answer id status, volumes)
      | .ok data => (deliver id data, volumes)
  | .write nsid start count data =>
    match behavior.ioStatus, volumeOf? volumes nsid with
    | some status, _ => (answer id status, volumes)
    | none, none => (answer id .invalidNamespace, volumes)
    | none, some volume =>
      match volume.write start count data with
      | .error status => (answer id status, volumes)
      | .ok volume => (answer id .success, volumes.set (nsid.toNat - 1) volume)

/-- Executes a command of a controller that is attached to a subsystem. -/
def execute (net : Loopback) (subsystem : SubsystemName) (controllerId : UInt16) (id : CommandId)
    (command : Command) : Completion × Loopback :=
  match net.volumes? subsystem with
  | none => (answer id .invalidField, net)
  | some volumes =>
    let (completion, volumes) := executeOn net.behavior controllerId volumes id command
    (completion, net.setVolumes subsystem volumes)

end FabricHost.Loopback
