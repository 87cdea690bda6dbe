import FabricHost.Loopback.Network
import FabricHost.Proofs.Loopback.Volumes
import FabricHost.Session.Command

/-!
# Worlds with a simulated network

A world may have more to it than its network, a clock above all. What its fabric does is what the simulated network does.
Commands change at most the bytes of the volumes that it has.
-/

namespace FabricHost

/-- The fabric of a world is a simulated network. How time passes is left open. -/
structure Simulates (W : Type) [Fabric W LoopbackController LoopbackQueue] [Clock W] where
  net : W → Loopback
  now_net (world : W) : net (Clock.now world).2 = net world
  submit_eq (queue : LoopbackQueue) (command : Command) (world : W) :
    queue.submit command (net world) = (QueuePairs.submit queue command world).map id (Prod.map id net)
  process_eq (queue : LoopbackQueue) (limit : Nat) (world : W) :
    queue.process limit (net world) = (QueuePairs.process queue limit world).map id (Prod.map id net)
  release_net (queue : LoopbackQueue) (world : W) : net (QueuePairs.release queue world) = queue.release (net world)
  resolve_net (host : String) (world : W) : net (Fabric.resolve host world).2 = net world
  connect_eq (params : HandshakeParams) (timeoutMs : Nat) (world : W) :
    Loopback.connect params timeoutMs (net world) = (Fabric.connect params timeoutMs world).map id net
  wait_net (ms : Nat) (world : W) : net (Fabric.wait ms world) = (net world).wait ms
  createIoQueue_eq (controller : LoopbackController) (depth : UInt16) (world : W) :
    Loopback.createIoQueue controller depth (net world) =
      (Fabric.createIoQueue controller depth world).map id (Prod.map id net)
  releaseController_net (controller : LoopbackController) (world : W) :
    net (Fabric.releaseController controller world) = Loopback.releaseController controller (net world)

def Simulation.simulates : Simulates Simulation where
  net := Simulation.net
  now_net _ := rfl
  submit_eq _ _ _ := rfl
  process_eq _ _ _ := rfl
  release_net _ _ := rfl
  resolve_net host world := by
    simp only [Fabric.resolve, Loopback.resolve]
    split <;> rfl
  connect_eq _ _ _ := rfl
  wait_net _ _ := rfl
  createIoQueue_eq _ _ _ := rfl
  releaseController_net _ _ := rfl

/-- Where a world is in an answer, its network is in what the simulated network answers. -/
lemma exists_world {α β W V : Type} {net : W → V} {answer : α} {value : β} {after : V} {result : α × β × W}
    (h : (answer, value, after) = result.map id (Prod.map id net)) :
    ∃ world, result = (answer, value, world) ∧ net world = after := by
  obtain ⟨rfl, hrest⟩ := Prod.mk.inj h
  obtain ⟨rfl, rfl⟩ := Prod.mk.inj hrest
  exact ⟨result.2.2, rfl, rfl⟩

namespace Simulates

variable {W : Type} [Fabric W LoopbackController LoopbackQueue] [Clock W] (sim : Simulates W) {world : W}
  {queue queue' : LoopbackQueue} {net : Loopback}

lemma submit {command : Command} {answer : Except SubmitError CommandId}
    (h : queue.submit command (sim.net world) = (answer, queue', net)) :
    ∃ world', QueuePairs.submit queue command world = (answer, queue', world') ∧ sim.net world' = net :=
  exists_world (h.symm.trans (sim.submit_eq queue command world))

lemma process {limit : Nat} {answer : Except TransportFailure (List Completion)}
    (h : queue.process limit (sim.net world) = (answer, queue', net)) :
    ∃ world', QueuePairs.process queue limit world = (answer, queue', world') ∧ sim.net world' = net :=
  exists_world (h.symm.trans (sim.process_eq queue limit world))

end Simulates

namespace Loopback

/-- Commands leave alone whatever a network has besides the bytes of its volumes. -/
structure Alike (before after : Loopback) : Prop where
  sizes : ∀ name, after.sizes? name = before.sizes? name
  attachments : after.attachments = before.attachments
  lastController : after.lastController = before.lastController
  handshakes : after.stats.handshakes = before.stats.handshakes
  ioStatus : after.behavior.ioStatus = before.behavior.ioStatus

/-- Not even the bytes of the volumes have changed. -/
structure Calm (before after : Loopback) : Prop extends Alike before after where
  volumes : ∀ name, after.volumes? name = before.volumes? name

variable {first second third : Loopback}

lemma Alike.refl (net : Loopback) : Alike net net := ⟨fun _ => rfl, rfl, rfl, rfl, rfl⟩

lemma Alike.trans (h : Alike first second) (h' : Alike second third) : Alike first third where
  sizes name := (h'.sizes name).trans (h.sizes name)
  attachments := h'.attachments.trans h.attachments
  lastController := h'.lastController.trans h.lastController
  handshakes := h'.handshakes.trans h.handshakes
  ioStatus := h'.ioStatus.trans h.ioStatus

lemma Calm.refl (net : Loopback) : Calm net net := ⟨.refl net, fun _ => rfl⟩

lemma Calm.trans (h : Calm first second) (h' : Calm second third) : Calm first third :=
  ⟨h.toAlike.trans h'.toAlike, fun name => (h'.volumes name).trans (h.volumes name)⟩

lemma calm_of_subsystems (hsubsystems : second.subsystems = first.subsystems)
    (hattachments : second.attachments = first.attachments) (hlast : second.lastController = first.lastController)
    (hhandshakes : second.stats.handshakes = first.stats.handshakes) (hbehavior : second.behavior = first.behavior) :
    Calm first second := by
  have hvolumes : ∀ name, second.volumes? name = first.volumes? name := fun name => by
    rw [volumes?, volumes?, hsubsystems]
  exact ⟨⟨fun name => by rw [sizes?, sizes?, hvolumes], hattachments, hlast, hhandshakes, by rw [hbehavior]⟩, hvolumes⟩

lemma count_calm (net : Loopback) (command : Command) : Calm net (net.count (LoopbackQueue.countCommand command)) := by
  refine calm_of_subsystems rfl rfl rfl ?_ rfl
  cases command <;> rfl

/-- What a command does to the volumes of its subsystem. -/
lemma execute_eq {net : Loopback} {name : SubsystemName} {volumes : List Volume} (h : net.volumes? name = some volumes)
    (controllerId : UInt16) (id : CommandId) (command : Command) :
    net.execute name controllerId id command =
      ((executeOn net.behavior controllerId volumes id command).1,
        net.setVolumes name (executeOn net.behavior controllerId volumes id command).2) := by
  rw [execute, h]

lemma setVolumes_alike {net : Loopback} {name : SubsystemName} {volumes volumes' : List Volume}
    (h : net.volumes? name = some volumes) (hsizes : volumes'.map Volume.blocks = volumes.map Volume.blocks) :
    Alike net (net.setVolumes name volumes') := by
  refine ⟨fun other => ?_, rfl, rfl, rfl, rfl⟩
  rw [sizes?, sizes?, volumes?_setVolumes]
  split
  · rename_i heq
    rw [heq, h, Option.map_some, Option.map_some, Option.map_some, hsizes]
  · rfl

lemma setVolumes_calm {net : Loopback} {name : SubsystemName} {volumes : List Volume}
    (h : net.volumes? name = some volumes) : Calm net (net.setVolumes name volumes) := by
  refine ⟨setVolumes_alike h rfl, fun other => ?_⟩
  rw [volumes?_setVolumes]
  split
  · rename_i heq
    rw [heq, h, Option.map_some]
  · rfl

variable {net : Loopback} {name : SubsystemName} {volumes : List Volume} (h : net.volumes? name = some volumes)
  (controllerId : UInt16) (id : CommandId)
include h

lemma execute_identify (nsid : UInt32) :
    Calm net (net.execute name controllerId id (.identifyNamespace nsid)).2 ∧
      (net.execute name controllerId id (.identifyNamespace nsid)).1 = match volumeOf? volumes nsid with
        | none => answer id .invalidNamespace
        | some volume => deliver id
          (namespaceInfo controllerId (net.behavior.blockShift.getD realBlockShift) nsid volume).toPage := by
  rw [execute_eq h, executeOn]
  cases volumeOf? volumes nsid with
  | none => exact ⟨setVolumes_calm h, rfl⟩
  | some volume => exact ⟨setVolumes_calm h, rfl⟩

variable {range : BlockRange} {volume : Volume} (hhealthy : net.behavior.ioStatus = none)
  (hvolume : volumeOf? volumes range.nsid = some volume) (hin : volume.Contains range.start range.count)
include hhealthy hvolume hin

lemma execute_read :
    Calm net (net.execute name controllerId id (.read range.nsid range.start range.count)).2 ∧
      (net.execute name controllerId id (.read range.nsid range.start range.count)).1 =
        deliver id (volume.readFrom range.start.toNat range.count.toNat) := by
  rw [execute_eq h, executeOn, hhealthy, hvolume]
  simp only [Volume.read, if_pos hin]
  exact ⟨setVolumes_calm h, trivial⟩

lemma execute_write {data : Bytes} (hdata : data.length = range.count.toNat * Limits.blockSize) :
    Alike net (net.execute name controllerId id (.write range.nsid range.start range.count data)).2 ∧
      (net.execute name controllerId id (.write range.nsid range.start range.count data)).1 = answer id .success ∧
      ∀ other, (net.execute name controllerId id (.write range.nsid range.start range.count data)).2.volumes? other =
        if other = name then some (volumes.set (range.nsid.toNat - 1)
          (volume.writeFrom range.start.toNat range.count.toNat data)) else net.volumes? other := by
  have hplace : volumes[range.nsid.toNat - 1]? = some volume := by
    unfold volumeOf? at hvolume
    split at hvolume
    · cases hvolume
    · exact hvolume
  have hsizes : (volumes.set (range.nsid.toNat - 1) (volume.writeFrom range.start.toNat range.count.toNat data)).map
      Volume.blocks = volumes.map Volume.blocks := by
    obtain ⟨hlt, rfl⟩ := List.getElem?_eq_some_iff.mp hplace
    rw [List.map_set, Volume.blocks_writeFrom, ← List.getElem_map Volume.blocks (h := by simpa using hlt),
      List.set_getElem_self]
  rw [execute_eq h, executeOn, hhealthy, hvolume]
  simp only [Volume.write, if_pos hin, if_pos hdata]
  refine ⟨setVolumes_alike h hsizes, trivial, fun other => ?_⟩
  rw [volumes?_setVolumes, h, Option.map_some]

end Loopback

end FabricHost
