import FabricHost.Proofs.Blocks.Contents
import FabricHost.Proofs.Loopback.Idle
import FabricHost.Proofs.Nvme.Pages
import FabricHost.Proofs.Session.Admission
import FabricHost.Proofs.Session.Errors

/-!
# Sessions of a simulated network

A session whose queue pairs are idle and whose controller is attached to its subsystem gets what it asks for, unless it
gives up waiting: the size of a namespace, the blocks of a range that it admits, or a write of them. It is left as it was,
ready for the next command.
-/

namespace FabricHost

namespace NamespaceInfo

lemma capacityBlocks_ofPage {nsid : UInt32} {info found : NamespaceInfo} (h : ofPage nsid info.toPage = .ok found) :
    found.capacityBlocks = info.capacityBlocks := by
  rw [ofPage_toPage] at h
  split at h
  · cases h
    rfl
  · cases h

end NamespaceInfo

/-- The error says that the range is not one to ask for, or that there is no session to ask. -/
def HostError.isRefusal : HostError → Bool
  | invalidParameter _ => true
  | bufferTooSmall .. => true
  | sessionClosed => true
  | transportError (.page _) => true
  | _ => false

namespace Session

def subsystem {C Q : Type} (session : Session C Q) : SubsystemName := ⟨session.target, session.subsystemNqn⟩

/-- A live session of a controller that is attached to the session's subsystem. Nothing is outstanding, and what the
session remembers of namespaces is true. -/
structure Attached (net : Loopback) (session : Session LoopbackController LoopbackQueue) : Prop where
  live : session.state = .live
  admin : session.admin.Ready net session.subsystem session.controller.controllerId
  isAdmin : session.admin.queue.isAdmin = true
  io : ∃ io, session.io = some io ∧ io.Ready net session.subsystem session.controller.controllerId ∧
    io.queue.isAdmin = false
  sizes : ∃ sizes, net.sizes? session.subsystem = some sizes ∧ session.namespaceCount = UInt32.ofNat sizes.length ∧
    ∀ (nsid : UInt32) (geometry : Geometry), session.geometries[nsid]? = some geometry →
      sizes[nsid.toNat - 1]? = some geometry.capacityBlocks

/-- How a session and its network are left by what changes no blocks. -/
structure Rests {W : Type} [Fabric W LoopbackController LoopbackQueue] [Clock W] (sim : Simulates W)
    (session : Session LoopbackController LoopbackQueue) (world world' : W) : Prop where
  calm : Loopback.Calm (sim.net world) (sim.net world')
  attached : session.Attached (sim.net world')

namespace Attached

variable {net net' : Loopback} {session : Session LoopbackController LoopbackQueue}

lemma congr (h : session.Attached net)
    (hattachments : net'.attachments[session.controller.controllerId]? = net.attachments[session.controller.controllerId]?)
    (hsizes : net'.sizes? session.subsystem = net.sizes? session.subsystem) : session.Attached net' where
  live := h.live
  admin := h.admin.congr hattachments
  isAdmin := h.isAdmin
  io := by
    obtain ⟨io, hio, hready, hkind⟩ := h.io
    exact ⟨io, hio, hready.congr hattachments, hkind⟩
  sizes := by
    rw [hsizes]
    exact h.sizes

lemma alike (h : session.Attached net) (halike : Loopback.Alike net net') : session.Attached net' :=
  h.congr (by rw [halike.attachments]) (halike.sizes _)

/-- The volume of a namespace whose number stands for one of the subsystem's. -/
lemma exists_volume {sizes : List UInt64} {name : SubsystemName} (hsizes : net.sizes? name = some sizes) {nsid : UInt32}
    (hnsid : 1 ≤ nsid.toNat) (hplace : nsid.toNat - 1 < sizes.length) :
    ∃ volumes volume, net.volumes? name = some volumes ∧ Loopback.volumeOf? volumes nsid = some volume ∧
      sizes[nsid.toNat - 1]? = some volume.blocks := by
  obtain ⟨volumes, hvolumes, rfl⟩ := Option.map_eq_some_iff.mp hsizes
  rw [List.length_map] at hplace
  have hne : nsid ≠ 0 := by
    rintro rfl
    cases hnsid
  refine ⟨volumes, volumes[nsid.toNat - 1], hvolumes, ?_, ?_⟩
  · rw [Loopback.volumeOf?, if_neg hne, List.getElem?_eq_getElem hplace]
  · rw [List.getElem?_map, List.getElem?_eq_getElem hplace, Option.map_some]

variable {W : Type} [Fabric W LoopbackController LoopbackQueue] [Clock W] (sim : Simulates W) {world : W}

/-- The page of a namespace that the session has. -/
lemma identifyPage (h : session.Attached (sim.net world)) {nsid : UInt32} (hcheck : session.checkNamespace nsid = .ok ())
    (budget : Nat) (deadline : Tick) (request : RequestId) :
    (∃ error, error.isTimeout = true ∧
        (session.identifyPage budget deadline request (.identifyNamespace nsid) world).1 = .error error) ∨
      ∃ id info world', session.identifyPage budget deadline request (.identifyNamespace nsid) world =
          (.ok (NamespaceInfo.toPage info), { session with admin := session.admin.done id }, world') ∧
        Loopback.Calm (sim.net world) (sim.net world') ∧
        ∀ sizes, (sim.net world).sizes? session.subsystem = some sizes →
          sizes[nsid.toNat - 1]? = some info.capacityBlocks := by
  have hadmin : (Command.identifyNamespace nsid).isAdmin = session.admin.queue.isAdmin := h.isAdmin.symm
  rcases h.admin.execute request _ sim hadmin deadline budget with ⟨error, htimeout, hgiven⟩ | ⟨id, world', hdone, hnet⟩
  · refine .inl ⟨error, htimeout, ?_⟩
    simp only [Session.identifyPage, hgiven]
    rfl
  · obtain ⟨sizes, hsizes, hcount, -⟩ := h.sizes
    obtain ⟨hpos, hle⟩ := checkNamespace_eq_ok_iff.mp hcheck
    have hplace : nsid.toNat - 1 < sizes.length := by
      rw [hcount, UInt32.toNat_ofNat'] at hle
      have := Nat.mod_le sizes.length (2 ^ 32)
      omega
    obtain ⟨volumes, volume, hvolumes, hvolume, hblocks⟩ := exists_volume hsizes hpos hplace
    have hcounted := Loopback.count_calm (sim.net world) (.identifyNamespace nsid)
    have hvolumes' := (hcounted.volumes session.subsystem).trans hvolumes
    obtain ⟨hcalm, hanswer⟩ := Loopback.execute_identify hvolumes' session.controller.controllerId id nsid
    rw [hvolume] at hanswer
    obtain ⟨info, hinfo, hcapacity⟩ : ∃ info : NamespaceInfo, _ = Loopback.deliver id info.toPage ∧
        info.capacityBlocks = volume.blocks := ⟨_, hanswer, rfl⟩
    rw [hinfo] at hdone
    refine .inr ⟨id, info, world', ?_, ?_, ?_⟩
    · simp only [Session.identifyPage, hdone]
      rfl
    · rw [hnet]
      exact hcounted.trans hcalm
    · intro sizes' hsizes'
      cases hsizes.symm.trans hsizes'
      rw [hcapacity]
      exact hblocks

lemma identifyNamespace (h : session.Attached (sim.net world)) {nsid : UInt32}
    (hcheck : session.checkNamespace nsid = .ok ()) (budget : Nat) (deadline : Tick) (request : RequestId) :
    let result := session.identifyNamespace budget deadline request nsid world
    (∃ error, error.isTimeout = true ∧ result.1 = .error error) ∨
      Rests sim result.2.1 world result.2.2 ∧ ∀ error, result.1 = .error error → error.isRefusal = true := by
  intro result
  simp only [result, Session.identifyNamespace]
  rcases h.identifyPage sim hcheck budget deadline request with
    ⟨error, htimeout, hgiven⟩ | ⟨id, info, world', hdone, hcalm, hplace⟩
  · rw [hgiven]
    exact .inl ⟨error, htimeout, rfl⟩
  · have hadmin : ({ session with admin := session.admin.done id } : Session _ _).Attached (sim.net world') := by
      have hafter := h.alike hcalm.toAlike
      exact ⟨hafter.live, hafter.admin.done id, hafter.isAdmin, hafter.io, hafter.sizes⟩
    rw [hdone]
    right
    cases hpage : NamespaceInfo.ofPage nsid info.toPage with
    | error error =>
      simp only [hpage, bind, Except.bind]
      refine ⟨⟨hcalm, hadmin⟩, fun other hother => ?_⟩
      cases hother
      rfl
    | ok found =>
      simp only [hpage, bind, Except.bind]
      refine ⟨⟨hcalm, hadmin.live, hadmin.admin, hadmin.isAdmin, hadmin.io, ?_⟩, fun error herror => (by cases herror)⟩
      obtain ⟨sizes, hsizes, hcount, hknown⟩ := hadmin.sizes
      refine ⟨sizes, hsizes, hcount, fun other geometry hfound => ?_⟩
      change (session.geometries.insert nsid (Geometry.ofInfo found))[other]? = some geometry at hfound
      rw [Std.ExtTreeMap.getElem?_insert] at hfound
      split at hfound
      · rename_i heq
        rw [Std.compare_eq_iff_eq] at heq
        cases hfound
        rw [← heq, Geometry.ofInfo, NamespaceInfo.capacityBlocks_ofPage hpage]
        exact hplace sizes (((hcalm.sizes _).symm.trans hsizes))
      · exact hknown other geometry hfound

lemma ensureGeometry (h : session.Attached (sim.net world)) (config : Config) (last : RequestId) (nsid : UInt32) :
    let result := session.ensureGeometry config last nsid world
    (∃ error, error.isTimeout = true ∧ result.1 = .error error) ∨
      Rests sim result.2.2.1 world result.2.2.2 ∧ ∀ error, result.1 = .error error → error.isRefusal = true := by
  intro result
  simp only [result, Session.ensureGeometry]
  split
  · exact .inr ⟨⟨.refl _, h⟩, fun error herror => (by cases herror)⟩
  · cases hcheck : session.checkNamespace nsid with
    | error error =>
      refine .inr ⟨⟨.refl _, h⟩, fun other hother => ?_⟩
      cases hother
      unfold checkNamespace at hcheck
      split at hcheck
      · cases hcheck
        rfl
      · cases hcheck
    | ok =>
      have hnow : sim.net (Clock.now world).2 = sim.net world := sim.now_net world
      rcases (hnow.symm ▸ h : session.Attached (sim.net (Clock.now world).2)).identifyNamespace sim hcheck config.pollBudget
        (Tick.after (Clock.now world).1 config.adminTimeoutMs) (last + 1) with
        ⟨error, htimeout, hgiven⟩ | ⟨hrests, hrefusal⟩
      · simp only [hgiven]
        exact .inl ⟨error, htimeout, rfl⟩
      · refine .inr ⟨⟨?_, hrests.attached⟩, fun error herror => hrefusal error (map_eq_error_iff.mp herror)⟩
        rw [← hnow]
        exact hrests.calm

/-- A range is permitted or refused, unless asking for the geometry takes too long. -/
lemma permit (h : session.Attached (sim.net world)) (config : Config) (last : RequestId) (range : BlockRange)
    (available : Nat) :
    let result := session.permit config last range available world
    (∃ error, error.isTimeout = true ∧ result.1 = .error error) ∨
      Rests sim result.2.2.1 world result.2.2.2 ∧ ∀ error, result.1 = .error error → error.isRefusal = true := by
  intro result
  simp only [result, Session.permit]
  split
  · exact .inr ⟨⟨.refl _, h⟩, fun error herror => (by cases herror; rfl)⟩
  · split
    · exact .inr ⟨⟨.refl _, h⟩, fun error herror => (by cases herror; rfl)⟩
    · rcases h.ensureGeometry sim config last range.nsid with ⟨error, htimeout, hgiven⟩ | ⟨hrests, hrefusal⟩
      · simp only [hgiven]
        exact .inl ⟨error, htimeout, rfl⟩
      · refine .inr ⟨hrests, fun error herror => ?_⟩
        rcases bind_eq_error_iff.mp herror with hgeometry | ⟨geometry, -, hrange⟩
        · exact hrefusal error hgeometry
        · unfold checkRange at hrange
          split at hrange
          · cases hrange
            rfl
          · split at hrange
            · cases hrange
              rfl
            · cases hrange

/-- A command on the I/O queue is executed, unless that takes too long. -/
lemma executeIo (h : session.Attached (sim.net world)) {command : Command} (hio : command.isAdmin = false) (budget : Nat)
    (deadline : Tick) (request : RequestId) :
    (∃ error, error.isTimeout = true ∧ (session.executeIo budget deadline request command world).1 = .error error) ∨
      ∃ id after world', session.executeIo budget deadline request command world =
          (Channel.successful (((sim.net world).count (LoopbackQueue.countCommand command)).execute session.subsystem
            session.controller.controllerId id command).1, after, world') ∧
        sim.net world' = (((sim.net world).count (LoopbackQueue.countCommand command)).execute session.subsystem
          session.controller.controllerId id command).2 ∧
        (Loopback.Alike (sim.net world) (sim.net world') → after.Attached (sim.net world')) := by
  obtain ⟨io, hsome, hready, hkind⟩ := h.io
  simp only [Session.executeIo, hsome]
  rcases hready.execute request _ sim (hio.trans hkind.symm) deadline budget with
    ⟨error, htimeout, hgiven⟩ | ⟨id, world', hdone, hnet⟩
  · rw [hgiven]
    exact .inl ⟨error, htimeout, rfl⟩
  · refine .inr ⟨id, { session with io := some (io.done id) }, world', ?_, hnet, fun halike => ?_⟩
    · rw [hdone]
      rfl
    · have hafter := h.alike halike
      have hready' : io.Ready (sim.net world') session.subsystem session.controller.controllerId :=
        hready.congr (by rw [halike.attachments])
      exact ⟨hafter.live, hafter.admin, hafter.isAdmin, ⟨_, rfl, hready'.done id, hkind⟩, hafter.sizes⟩

/-- The range that is admitted lies inside a volume of the subsystem. -/
lemma admitted_volume (h : session.Attached net) {range : BlockRange} {available : Nat}
    (hadmits : session.Admits range available) :
    ∃ volumes volume, net.volumes? session.subsystem = some volumes ∧
      Loopback.volumeOf? volumes range.nsid = some volume ∧ volume.Contains range.start range.count := by
  obtain ⟨sizes, hsizes, -, hknown⟩ := h.sizes
  obtain ⟨geometry, hfound, -, hin⟩ := hadmits.geometry
  have hplace := hknown _ _ hfound
  obtain ⟨volumes, volume, hvolumes, hvolume, hblocks⟩ :=
    exists_volume hsizes hadmits.nsid_pos (List.getElem?_eq_some_iff.mp hplace).1
  rw [Option.some.inj (hplace.symm.trans hblocks)] at hin
  exact ⟨volumes, volume, hvolumes, hvolume, hin⟩

section

variable {range : BlockRange} {writes : List BlockWrite} (hexecutes : (sim.net world).behavior.ioStatus = none)
  (hstores : (sim.net world).Stores writes) (config : Config) (deadline : Tick) (request : RequestId)
include hexecutes hstores

lemma readPermitted (h : session.Attached (sim.net world)) {buffer : Bytes}
    (hadmits : session.Admits range buffer.length) (henough : ∀ write ∈ writes, write.range.length ≤ write.data.length) :
    let result := Session.readPermitted config deadline range buffer request session world
    (∃ error, error.isTimeout = true ∧ result.1 = .error error) ∨
      result.1 = .ok (BlockWrite.contents writes session.subsystem range ++ buffer.drop range.length) ∧
        Rests sim result.2.1 world result.2.2 := by
  intro result
  simp only [result, Session.readPermitted]
  have hio : (Command.read range.nsid range.start range.count).isAdmin = false := rfl
  rcases h.executeIo sim hio config.pollBudget deadline request with
    ⟨error, htimeout, hgiven⟩ | ⟨id, after, world', hdone, hnet, hattached⟩
  · rw [hgiven]
    exact .inl ⟨error, htimeout, rfl⟩
  · obtain ⟨volumes, volume, hvolumes, hvolume, hin⟩ := h.admitted_volume hadmits
    have hcounted := Loopback.count_calm (sim.net world) (.read range.nsid range.start range.count)
    obtain ⟨hcalm, hanswer⟩ := Loopback.execute_read ((hcounted.volumes _).trans hvolumes) session.controller.controllerId id
      (hcounted.ioStatus.trans hexecutes) hvolume hin
    have hafter : Loopback.Calm (sim.net world) (sim.net world') := hnet ▸ hcounted.trans hcalm
    have hlength : (BlockWrite.contents writes session.subsystem range).length = range.length :=
      BlockWrite.length_contents henough range
    rw [hanswer, hstores.readFrom hvolumes hvolume] at hdone
    rw [hdone]
    refine .inr ⟨?_, hafter, hattached hafter.toAlike⟩
    have hfilled : readData range request (Loopback.deliver id (BlockWrite.contents writes session.subsystem range)) =
        .ok (BlockWrite.contents writes session.subsystem range) := by
      simp only [readData, Loopback.deliver, hlength, Nat.le_refl, if_true]
      rw [← hlength, List.take_length]
    have hsuccess : Channel.successful (Loopback.deliver id (BlockWrite.contents writes session.subsystem range)) =
        .ok (Loopback.deliver id (BlockWrite.contents writes session.subsystem range)) := rfl
    rw [hsuccess]
    simp only [bind, Except.bind, pure, Except.pure, hfilled, Bytes.overwrite, List.take_zero, List.nil_append, hlength,
      Nat.zero_add]

lemma writePermitted (h : session.Attached (sim.net world)) {data : Bytes} (hadmits : session.Admits range data.length) :
    let result := Session.writePermitted config deadline range data request session world
    (∃ error, error.isTimeout = true ∧ result.1 = .error error) ∨
      result.1 = .ok () ∧ Loopback.Alike (sim.net world) (sim.net result.2.2) ∧
        result.2.1.Attached (sim.net result.2.2) ∧
        (sim.net result.2.2).Stores (writes ++ [⟨session.subsystem, range, data⟩]) := by
  intro result
  simp only [result, Session.writePermitted]
  have hio : (Command.write range.nsid range.start range.count (data.take range.length)).isAdmin = false := rfl
  rcases h.executeIo sim hio config.pollBudget deadline request with
    ⟨error, htimeout, hgiven⟩ | ⟨id, after, world', hdone, hnet, hattached⟩
  · rw [hgiven]
    exact .inl ⟨error, htimeout, rfl⟩
  · obtain ⟨volumes, volume, hvolumes, hvolume, hin⟩ := h.admitted_volume hadmits
    have hcounted := Loopback.count_calm (sim.net world)
      (.write range.nsid range.start range.count (data.take range.length))
    have hdata : (data.take range.length).length = range.count.toNat * Limits.blockSize := by
      rw [List.length_take]
      exact Nat.min_eq_left hadmits.available
    obtain ⟨halike, hanswer, hafter⟩ := Loopback.execute_write ((hcounted.volumes _).trans hvolumes)
      session.controller.controllerId id (hcounted.ioStatus.trans hexecutes) hvolume hin hdata
    have halike' : Loopback.Alike (sim.net world) (sim.net world') := hnet ▸ hcounted.toAlike.trans halike
    rw [hanswer] at hdone
    rw [hdone]
    refine .inr ⟨rfl, halike', hattached halike', hstores.write hvolumes hvolume fun name => ?_⟩
    rw [hnet, hafter, hcounted.volumes]

end

/-- A call for a range that is not admitted is refused, and what it does for one that is it does on a session as good as
before, unless it takes too long. -/
lemma permitted {α : Type} (h : session.Attached (sim.net world)) (hmapped : session.Mapped) (config : Config)
    (last : RequestId) (range : BlockRange) (available : Nat)
    (action : RequestId → Session LoopbackController LoopbackQueue → W →
      Except HostError α × Session LoopbackController LoopbackQueue × W) :
    let result := session.permitted config last range available action world
    (∃ error, error.isTimeout = true ∧ result.1 = .error error) ∨
      (¬ result.2.2.1.Admits range available ∧ (∃ error, result.1 = .error error ∧ error.isRefusal = true) ∧
        Rests sim result.2.2.1 world result.2.2.2) ∨
      ∃ request session' world', session'.Admits range available ∧ session'.subsystem = session.subsystem ∧
        Rests sim session' world world' ∧ result.1 = (action request session' world').1 ∧
        result.2.2 = (action request session' world').2 := by
  have hpermit := h.permit sim config last range available
  have hadmits : (session.permit config last range available world).1 = .ok () →
      (session.permit config last range available world).2.2.1.Admits range available := admits_of_permit hmapped
  have hpermits : (session.permit config last range available world).2.2.1.Admits range available →
      (session.permit config last range available world).1 = .ok () := permit_of_admits hmapped
  have hsteps : Steps (fun _ _ => True) (fun _ => True) (session, world)
      (session.permit config last range available world).2.2 :=
    (session.permit_errands world config last range available).steps
  obtain ⟨-, htarget, hnqn⟩ := hsteps.association
  intro result
  simp only [result, Session.permitted]
  rcases heq : session.permit config last range available world with ⟨_ | _, last', session', world'⟩
  · rename_i error
    rw [heq] at hpermit hpermits
    rcases hpermit with ⟨other, htimeout, hother⟩ | ⟨hrests, hrefusal⟩
    · cases hother
      exact .inl ⟨error, htimeout, rfl⟩
    · exact .inr (.inl ⟨fun hin => (by cases hpermits hin), ⟨error, rfl, hrefusal error rfl⟩, hrests⟩)
  · rw [heq] at hpermit hadmits htarget hnqn
    rcases hpermit with ⟨other, -, hother⟩ | ⟨hrests, -⟩
    · cases hother
    · refine .inr (.inr ⟨last' + 1, session', world', hadmits rfl, ?_, hrests, rfl, rfl⟩)
      rw [subsystem, htarget, hnqn]
      rfl

variable {range : BlockRange} {writes : List BlockWrite} (hmapped : session.Mapped)
  (hexecutes : (sim.net world).behavior.ioStatus = none) (hstores : (sim.net world).Stores writes) (config : Config)
  (deadline : Tick) (last : RequestId)
include hmapped hexecutes hstores

/-- A read that does not take too long brings what the range holds, or is refused. -/
lemma read (h : session.Attached (sim.net world)) (henough : ∀ write ∈ writes, write.range.length ≤ write.data.length)
    (buffer : Bytes) :
    let result := session.permitted config last range buffer.length (Session.readPermitted config deadline range buffer)
      world
    (∃ error, error.isTimeout = true ∧ result.1 = .error error) ∨
      Rests sim result.2.2.1 world result.2.2.2 ∧
        (result.2.2.1.Admits range buffer.length →
          result.1 = .ok (BlockWrite.contents writes session.subsystem range ++ buffer.drop range.length)) ∧
        (¬ result.2.2.1.Admits range buffer.length → ∃ error, result.1 = .error error ∧ error.isRefusal = true) := by
  intro result
  rcases h.permitted sim hmapped config last range buffer.length (Session.readPermitted config deadline range buffer) with
    htimeout | ⟨hout, hrefused, hrests⟩ | ⟨request, session', world', hadmits, hname, hrests, hanswer, hafter⟩
  · exact .inl htimeout
  · exact .inr ⟨hrests, fun hin => (hout hin).elim, fun _ => hrefused⟩
  · have hexecutes' := hrests.calm.ioStatus.trans hexecutes
    have hread := hrests.attached.readPermitted sim hexecutes' (hstores.congr hrests.calm.volumes) config deadline request
      hadmits henough
    have hsame := session'.executeIo_map config.pollBudget deadline request (.read range.nsid range.start range.count) world'
    have hadmits' : (Session.readPermitted config deadline range buffer request session' world').2.1.Admits range
        buffer.length := hadmits.congr hsame.1 hsame.2
    rw [hname] at hread
    simp only [result, hanswer, hafter]
    refine hread.imp_right fun ⟨hfilled, hrests'⟩ => ⟨⟨hrests.calm.trans hrests'.calm, hrests'.attached⟩, fun _ => hfilled,
      fun hout => (hout hadmits').elim⟩

/-- A write that does not take too long is stored, or is refused and changes nothing. -/
lemma write (h : session.Attached (sim.net world)) (data : Bytes) :
    let result := session.permitted config last range data.length (Session.writePermitted config deadline range data) world
    (∃ error, error.isTimeout = true ∧ result.1 = .error error) ∨
      (Loopback.Alike (sim.net world) (sim.net result.2.2.2) ∧ result.2.2.1.Attached (sim.net result.2.2.2)) ∧
        (result.2.2.1.Admits range data.length → result.1 = .ok () ∧
          (sim.net result.2.2.2).Stores (writes ++ [⟨session.subsystem, range, data⟩])) ∧
        (¬ result.2.2.1.Admits range data.length → (∃ error, result.1 = .error error ∧ error.isRefusal = true) ∧
          Loopback.Calm (sim.net world) (sim.net result.2.2.2)) := by
  intro result
  rcases h.permitted sim hmapped config last range data.length (Session.writePermitted config deadline range data) with
    htimeout | ⟨hout, hrefused, hrests⟩ | ⟨request, session', world', hadmits, hname, hrests, hanswer, hafter⟩
  · exact .inl htimeout
  · exact .inr ⟨⟨hrests.calm.toAlike, hrests.attached⟩, fun hin => (hout hin).elim, fun _ => ⟨hrefused, hrests.calm⟩⟩
  · have hexecutes' := hrests.calm.ioStatus.trans hexecutes
    have hwrite := hrests.attached.writePermitted sim hexecutes' (hstores.congr hrests.calm.volumes) config deadline request
      hadmits
    have hsame := session'.executeIo_map config.pollBudget deadline request
      (.write range.nsid range.start range.count (data.take range.length)) world'
    have hadmits' : (Session.writePermitted config deadline range data request session' world').2.1.Admits range
        data.length := hadmits.congr hsame.1 hsame.2
    rw [hname] at hwrite
    simp only [result, hanswer, hafter]
    exact hwrite.imp_right fun ⟨hdone, halike, hattached, hstored⟩ =>
      ⟨⟨hrests.calm.toAlike.trans halike, hattached⟩, fun _ => ⟨hdone, hstored⟩, fun hout => (hout hadmits').elim⟩

end Attached

end Session

end FabricHost
