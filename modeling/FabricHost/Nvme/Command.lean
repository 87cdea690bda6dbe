import FabricHost.Bytes

/-!
# Commands and completions

What a queue pair carries: commands in one direction, completions in the other. Keep-alive and identify belong on the
admin queue, reads and writes on an I/O queue.
-/

namespace FabricHost

/-- The number that a queue pair gives a command until its completion is reaped. -/
abbrev CommandId := UInt16

inductive Command where
  /-- Says that the host is alive. -/
  | keepAlive
  /-- Asks for the controller's identify page. -/
  | identifyController
  /-- Asks for a namespace's identify page. -/
  | identifyNamespace (nsid : UInt32)
  /-- Reads `count` blocks from block `start`. -/
  | read (nsid : UInt32) (start : UInt64) (count : UInt32)
  /-- Writes `data` to `count` blocks from block `start`. -/
  | write (nsid : UInt32) (start : UInt64) (count : UInt32) (data : Bytes)
deriving DecidableEq, Repr

namespace Command

def opcode : Command → UInt8
  | keepAlive => 0x18
  | identifyController => 0x06
  | identifyNamespace .. => 0x06
  | read .. => 0x02
  | write .. => 0x01

/-- Whether the command belongs on the admin queue. -/
def isAdmin : Command → Bool
  | keepAlive => true
  | identifyController => true
  | identifyNamespace .. => true
  | read .. => false
  | write .. => false

end Command

/-- The status of a completion: the type of the code in the high byte, the code in the low byte. -/
structure Status where
  word : UInt16
deriving DecidableEq, Repr

namespace Status

def success : Status := ⟨0x0000⟩
def invalidField : Status := ⟨0x0002⟩
def invalidNamespace : Status := ⟨0x000B⟩
def lbaOutOfRange : Status := ⟨0x0080⟩

def isSuccess (status : Status) : Bool := status.word == 0

def codeType (status : Status) : UInt8 := (status.word >>> 8).toUInt8

def code (status : Status) : UInt8 := status.word.toUInt8

end Status

structure Completion where
  id : CommandId
  status : Status
  /-- What a read or an identify returns. -/
  data : Option Bytes := none
deriving DecidableEq, Repr

end FabricHost
