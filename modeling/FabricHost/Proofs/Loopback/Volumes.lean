import FabricHost.Loopback.Execute
import Mathlib.Tactic.Lemma

/-!
# Blocks of simulated volumes

Reading a volume brings its blocks in order, and writing replaces those that are written and no others.
-/

namespace FabricHost

namespace Volume

variable (volume : Volume) (start count : Nat) (data : Bytes)

lemma blocks_writeFrom : (volume.writeFrom start count data).blocks = volume.blocks := by
  induction count generalizing volume start data with
  | zero => rfl
  | succ count ih => exact ih _ _ _

lemma block_insert (number : Nat) (bytes : Bytes) :
    ({ volume with written := volume.written.insert start bytes } : Volume).block number =
      if number = start then bytes else volume.block number := by
  simp only [block, Std.ExtTreeMap.getElem?_insert]
  by_cases heq : number = start
  · simp [heq]
  · simp [heq, Ne.symm heq]

/-- A block that is written holds its part of the data. -/
lemma block_writeFrom (number : Nat) : (volume.writeFrom start count data).block number =
    if start ≤ number ∧ number < start + count then
      Bytes.slice data ((number - start) * Limits.blockSize) Limits.blockSize
    else volume.block number := by
  induction count generalizing volume start data with
  | zero => rw [writeFrom, if_neg (by omega)]
  | succ count ih =>
    rw [writeFrom, ih, block_insert]
    rcases Nat.lt_trichotomy number start with hbelow | rfl | habove
    · rw [if_neg (by omega), if_neg (by omega), if_neg (by omega)]
    · rw [if_neg (by omega), if_pos rfl, if_pos (by omega), Nat.sub_self, Nat.zero_mul]
      rfl
    · rw [if_neg (Nat.ne_of_gt habove)]
      by_cases hin : number < start + 1 + count
      · have hplace : (number - start) * Limits.blockSize = Limits.blockSize + (number - (start + 1)) * Limits.blockSize := by
          have hnext : number - start = number - (start + 1) + 1 := by omega
          rw [hnext, Nat.succ_mul, Nat.add_comm]
        rw [if_pos ⟨habove, hin⟩, if_pos (by omega), hplace, Bytes.slice, Bytes.slice, List.drop_drop]
      · rw [if_neg (by omega), if_neg (by omega)]

lemma readFrom_eq : volume.readFrom start count = (List.range count).flatMap fun place => volume.block (start + place) := by
  induction count generalizing start with
  | zero => rfl
  | succ count ih =>
    rw [readFrom, ih, List.range_succ_eq_map, List.flatMap_cons, List.flatMap_map]
    simp only [Nat.add_zero, Nat.add_assoc, Nat.add_comm 1]

end Volume

namespace Loopback

/-- The sizes of the volumes of a subsystem. -/
def sizes? (net : Loopback) (name : SubsystemName) : Option (List UInt64) :=
  (net.volumes? name).map (List.map Volume.blocks)

lemma volumes?_setVolumes (net : Loopback) (name : SubsystemName) (volumes : List Volume) (other : SubsystemName) :
    (net.setVolumes name volumes).volumes? other =
      if other = name then (net.volumes? name).map fun _ => volumes else net.volumes? other := by
  have hname : (fun subsystem : Subsystem => decide (subsystem.name = other)) ∘
      (fun subsystem => if subsystem.name = name then { subsystem with volumes } else subsystem) =
        fun subsystem => decide (subsystem.name = other) := by
    funext subsystem
    simp only [Function.comp_apply]
    split <;> rfl
  simp only [volumes?, setVolumes, List.find?_map, hname, Option.map_map]
  split
  · rename_i heq
    subst heq
    refine Option.map_congr fun subsystem hsubsystem => ?_
    have hname : subsystem.name = other := by simpa using List.find?_some hsubsystem
    simp [hname]
  · rename_i hne
    refine Option.map_congr fun subsystem hsubsystem => ?_
    have hname : subsystem.name = other := by simpa using List.find?_some hsubsystem
    simp [hname, hne]

lemma volumeOf?_set {volumes : List Volume} {nsid : UInt32} (hnsid : nsid ≠ 0) (volume : Volume) (other : UInt32) :
    volumeOf? (volumes.set (nsid.toNat - 1) volume) other =
      if other = nsid then (volumeOf? volumes nsid).map fun _ => volume else volumeOf? volumes other := by
  have hzero : ∀ {number : UInt32}, number ≠ 0 → number.toNat ≠ 0 := fun h heq => h (UInt32.toNat_inj.mp heq)
  unfold volumeOf?
  by_cases heq : other = nsid
  · subst heq
    rw [if_neg hnsid, if_pos rfl, if_neg hnsid]
    simp only [List.getElem?_set, if_true]
    split
    · rename_i hlt
      rw [List.getElem?_eq_getElem hlt, Option.map_some]
    · rename_i hge
      rw [List.getElem?_eq_none (Nat.le_of_not_lt hge), Option.map_none]
  · rw [if_neg heq]
    split
    · rfl
    · rename_i hother
      have hne : nsid.toNat - 1 ≠ other.toNat - 1 := by
        intro hsame
        have := hzero hnsid
        have := hzero hother
        exact heq (UInt32.toNat_inj.mp (by omega))
      rw [List.getElem?_set_ne hne]

end Loopback

end FabricHost
