import FabricHost.Nvme.Command
import FabricHost.Record.Limits
import Std.Data.ExtTreeMap

/-!
# Simulated volumes

A volume is a range of blocks. Only blocks that were written are kept; all others hold zeros.
-/

namespace FabricHost

structure Volume where
  blocks : UInt64
  /-- The blocks that were written, by their number. -/
  written : Std.ExtTreeMap Nat Bytes := ∅

namespace Volume

def block (volume : Volume) (number : Nat) : Bytes :=
  volume.written[number]?.getD (Bytes.zeros Limits.blockSize)

/-- Whether `count` blocks from block `start` lie inside the volume. -/
def Contains (volume : Volume) (start : UInt64) (count : UInt32) : Prop :=
  start.toNat + count.toNat ≤ volume.blocks.toNat

instance (volume : Volume) (start : UInt64) (count : UInt32) : Decidable (volume.Contains start count) :=
  inferInstanceAs (Decidable (_ ≤ _))

/-- The bytes of `count` blocks from block `start`. -/
def readFrom (volume : Volume) (start : Nat) : (count : Nat) → Bytes
  | 0 => []
  | count + 1 => volume.block start ++ volume.readFrom (start + 1) count

/-- The volume with `count` blocks from block `start` overwritten. -/
def writeFrom (volume : Volume) (start : Nat) : (count : Nat) → (data : Bytes) → Volume
  | 0, _ => volume
  | count + 1, data =>
    { volume with written := volume.written.insert start (data.take Limits.blockSize) }.writeFrom (start + 1) count
      (data.drop Limits.blockSize)

/-- Reads blocks, if they lie inside. -/
def read (volume : Volume) (start : UInt64) (count : UInt32) : Except Status Bytes :=
  if volume.Contains start count then .ok (volume.readFrom start.toNat count.toNat)
  else .error .lbaOutOfRange

/-- Writes blocks, if they lie inside and the data fills them exactly. -/
def write (volume : Volume) (start : UInt64) (count : UInt32) (data : Bytes) : Except Status Volume :=
  if volume.Contains start count then
    if data.length = count.toNat * Limits.blockSize then .ok (volume.writeFrom start.toNat count.toNat data)
    else .error .invalidField
  else .error .lbaOutOfRange

end Volume

end FabricHost
