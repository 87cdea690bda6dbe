import FabricHost.Proofs.Loopback.Volumes
import FabricHost.Session.Command
import Mathlib.Data.List.Basic

/-!
# An array of blocks

What the blocks of a subsystem hold after a sequence of writes: each holds what the last write that covers it put there,
or zeros if there is none. The volumes of a simulated network store just that.
-/

namespace FabricHost

/-- A write of a range of blocks from the front of some data. -/
structure BlockWrite where
  subsystem : SubsystemName
  range : BlockRange
  data : Bytes

namespace BlockWrite

/-- Whether the write is one of a block. -/
def covers (write : BlockWrite) (name : SubsystemName) (nsid : UInt32) (number : Nat) : Bool :=
  write.subsystem = name ∧ write.range.nsid = nsid ∧ write.range.start.toNat ≤ number ∧
    number < write.range.start.toNat + write.range.count.toNat

/-- What the write puts into a block that it covers. -/
def block (write : BlockWrite) (number : Nat) : Bytes :=
  Bytes.slice write.data ((number - write.range.start.toNat) * Limits.blockSize) Limits.blockSize

/-- What a block holds after a sequence of writes. -/
def latest (writes : List BlockWrite) (name : SubsystemName) (nsid : UInt32) (number : Nat) : Bytes :=
  ((writes.reverse.find? fun write => write.covers name nsid number).map fun write => write.block number).getD
    (Bytes.zeros Limits.blockSize)

variable {writes : List BlockWrite} {write : BlockWrite} {name : SubsystemName} {nsid : UInt32} {number : Nat}

lemma latest_append : latest (writes ++ [write]) name nsid number =
    if write.covers name nsid number then write.block number else latest writes name nsid number := by
  simp only [latest, List.reverse_append, List.reverse_singleton, List.singleton_append, List.find?_cons]
  split <;> simp_all

lemma length_block (henough : write.range.length ≤ write.data.length) (h : write.covers name nsid number) :
    (write.block number).length = Limits.blockSize := by
  obtain ⟨-, -, hstart, hend⟩ := of_decide_eq_true h
  have hlast : (number - write.range.start.toNat + 1) * Limits.blockSize ≤ write.range.count.toNat * Limits.blockSize :=
    Nat.mul_le_mul_right _ (by omega)
  rw [Nat.succ_mul] at hlast
  rw [BlockRange.length] at henough
  rw [block, Bytes.slice, List.length_take, List.length_drop]
  omega

lemma length_latest (henough : ∀ write ∈ writes, write.range.length ≤ write.data.length) :
    (latest writes name nsid number).length = Limits.blockSize := by
  unfold latest
  cases hfind : writes.reverse.find? fun write => write.covers name nsid number with
  | none => exact Bytes.length_zeros _
  | some write =>
    have hcovers : write.covers name nsid number = true := by simpa using List.find?_some hfind
    exact length_block (henough write (List.mem_reverse.mp (List.mem_of_find?_eq_some hfind))) hcovers

/-- What the blocks of a range hold after a sequence of writes. -/
def contents (writes : List BlockWrite) (name : SubsystemName) (range : BlockRange) : Bytes :=
  (List.range range.count.toNat).flatMap fun place => latest writes name range.nsid (range.start.toNat + place)

lemma length_contents (henough : ∀ write ∈ writes, write.range.length ≤ write.data.length) (range : BlockRange) :
    (contents writes name range).length = range.length := by
  simp only [contents, List.length_flatMap, length_latest henough, List.map_const', List.length_range,
    List.sum_replicate_nat, BlockRange.length]

end BlockWrite

namespace Loopback

/-- The volumes hold what was written last. -/
def Stores (net : Loopback) (writes : List BlockWrite) : Prop :=
  ∀ name volumes nsid volume, net.volumes? name = some volumes → volumeOf? volumes nsid = some volume →
    ∀ number, volume.block number = BlockWrite.latest writes name nsid number

variable {net net' : Loopback} {writes : List BlockWrite}

lemma Stores.congr (h : net.Stores writes) (hvolumes : ∀ name, net'.volumes? name = net.volumes? name) :
    net'.Stores writes := by
  intro name volumes nsid volume hname
  rw [hvolumes] at hname
  exact h name volumes nsid volume hname

/-- A range is read as what it holds. -/
lemma Stores.readFrom (h : net.Stores writes) {name : SubsystemName} {volumes : List Volume} {range : BlockRange}
    {volume : Volume} (hname : net.volumes? name = some volumes) (hvolume : volumeOf? volumes range.nsid = some volume) :
    volume.readFrom range.start.toNat range.count.toNat = BlockWrite.contents writes name range := by
  rw [Volume.readFrom_eq, BlockWrite.contents]
  exact List.flatMap_congr fun place _ => h name volumes range.nsid volume hname hvolume _

/-- A block lies inside the front of the data that fills the range. -/
lemma slice_take {data : Bytes} {start count number : Nat} (hin : start ≤ number ∧ number < start + count) :
    Bytes.slice (data.take (count * Limits.blockSize)) ((number - start) * Limits.blockSize) Limits.blockSize =
      Bytes.slice data ((number - start) * Limits.blockSize) Limits.blockSize := by
  have hlast : (number - start + 1) * Limits.blockSize ≤ count * Limits.blockSize := Nat.mul_le_mul_right _ (by omega)
  rw [Nat.succ_mul] at hlast
  rw [Bytes.slice, List.drop_take, List.take_take, Nat.min_eq_left (by omega)]
  rfl

/-- One more write is stored by writing it to its volume. -/
lemma Stores.write (h : net.Stores writes) {write : BlockWrite} {volumes : List Volume} {volume : Volume}
    (hname : net.volumes? write.subsystem = some volumes) (hvolume : volumeOf? volumes write.range.nsid = some volume)
    (hafter : ∀ name, net'.volumes? name = if name = write.subsystem then some (volumes.set (write.range.nsid.toNat - 1)
      (volume.writeFrom write.range.start.toNat write.range.count.toNat (write.data.take write.range.length)))
        else net.volumes? name) :
    net'.Stores (writes ++ [write]) := by
  have hnsid : write.range.nsid ≠ 0 := by
    intro hzero
    rw [volumeOf?, if_pos hzero] at hvolume
    cases hvolume
  intro name volumes' nsid volume' hname' hvolume' number
  rw [BlockWrite.latest_append]
  rw [hafter] at hname'
  by_cases hsubsystem : name = write.subsystem
  · subst hsubsystem
    rw [if_pos rfl] at hname'
    cases hname'
    rw [volumeOf?_set hnsid, hvolume] at hvolume'
    by_cases hsame : nsid = write.range.nsid
    · subst hsame
      rw [if_pos rfl] at hvolume'
      cases hvolume'
      rw [Volume.block_writeFrom, h _ _ _ _ hname hvolume number]
      have hcovers : write.covers write.subsystem write.range.nsid number = true ↔
          write.range.start.toNat ≤ number ∧ number < write.range.start.toNat + write.range.count.toNat := by
        simp [BlockWrite.covers]
      by_cases hin : write.range.start.toNat ≤ number ∧ number < write.range.start.toNat + write.range.count.toNat
      · rw [if_pos hin, if_pos (hcovers.mpr hin)]
        exact slice_take hin
      · rw [if_neg hin, if_neg (fun hcover => hin (hcovers.mp hcover))]
    · rw [if_neg hsame] at hvolume'
      rw [h _ _ _ _ hname hvolume', if_neg (by simp [BlockWrite.covers, Ne.symm hsame])]
  · rw [if_neg hsubsystem] at hname'
    rw [h _ _ _ _ hname' hvolume', if_neg (by simp [BlockWrite.covers, Ne.symm hsubsystem])]

end Loopback

end FabricHost
