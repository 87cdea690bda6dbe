import FabricHost.Proofs.Host.Invariants

/-!
# Ranges that a session admits

A range is permitted only if it is not empty, the caller's bytes suffice, and it lies inside a namespace that the session
has and whose remembered geometry is one of 512-byte blocks. What is wrong with a range apart from the geometry is found
before anybody is asked about it.
-/

namespace FabricHost.Session

variable {W C Q : Type} [Fabric W C Q] [Clock W] {session : Session C Q}

/-- The range is one that the session may read or write with the bytes that the caller has. -/
structure Admits (session : Session C Q) (range : BlockRange) (available : Nat) : Prop where
  nsid_pos : 1 ≤ range.nsid.toNat
  nsid_le : range.nsid.toNat ≤ session.namespaceCount.toNat
  count_pos : 1 ≤ range.count.toNat
  available : range.count.toNat * 512 ≤ available
  geometry : ∃ geometry, session.geometries[range.nsid]? = some geometry ∧ geometry.blockSize = 512 ∧
    range.start.toNat + range.count.toNat ≤ geometry.capacityBlocks.toNat

/-- Every namespace with a remembered geometry is one that the session has. -/
def Mapped (session : Session C Q) : Prop :=
  ∀ nsid geometry, session.geometries[nsid]? = some geometry → session.checkNamespace nsid = .ok ()

omit [Fabric W C Q] [Clock W] in
lemma checkNamespace_eq_ok_iff {nsid : UInt32} :
    session.checkNamespace nsid = .ok () ↔ 1 ≤ nsid.toNat ∧ nsid.toNat ≤ session.namespaceCount.toNat := by
  have hzero : nsid = 0 ↔ nsid.toNat = 0 := by rw [← UInt32.toNat_inj]; rfl
  have hpast : session.namespaceCount < nsid ↔ session.namespaceCount.toNat < nsid.toNat := UInt32.lt_iff_toNat_lt
  unfold checkNamespace
  split
  · rename_i hout
    rw [hzero, hpast] at hout
    simp only [reduceCtorEq, false_iff]
    omega
  · rename_i hin
    rw [hzero, hpast] at hin
    simp only [true_iff]
    omega

lemma mapped_kept : Session.Kept W (Session.Mapped (C := C) (Q := Q)) where
  opened := by
    rintro session ⟨plan, association, io, timer, heq⟩ nsid geometry hfound
    rw [heq] at hfound
    simp [Host.newSession] at hfound
  step h hmapped := by
    cases h with
    | learn _ hcheck geometry =>
      intro other known hfound
      simp only [learn, Std.ExtTreeMap.getElem?_insert] at hfound
      split at hfound
      · rename_i heq
        rw [Std.compare_eq_iff_eq] at heq
        exact heq ▸ hcheck
      · exact hmapped other known hfound
    | _ => exact hmapped
  reset world hmapped := by
    rename_i session
    rcases session.reset_cases world with ⟨_, _, _, -, heq⟩ | ⟨_, _, -, heq⟩ <;> rw [heq] <;> exact hmapped
  reestablish depth world hmapped := by
    rename_i session
    unfold reestablish
    split
    · exact hmapped
    · split <;> exact hmapped
    · exact hmapped
    · exact hmapped

variable {config : Config} {last : RequestId} {range : BlockRange} {available : Nat} {world : W}

/-- What identify tells about a namespace is remembered. -/
lemma identifyNamespace_known {budget : Nat} {deadline : Tick} {request : RequestId} {nsid : UInt32}
    {info : NamespaceInfo} (h : (session.identifyNamespace budget deadline request nsid world).1 = .ok info) :
    (session.identifyNamespace budget deadline request nsid world).2.1.namespaceCount = session.namespaceCount ∧
      (session.identifyNamespace budget deadline request nsid world).2.1.geometries[nsid]? =
        some (Geometry.ofInfo info) := by
  unfold identifyNamespace at h ⊢
  simp only at h ⊢
  split at h
  · cases h
  · cases h
    exact ⟨rfl, Std.ExtTreeMap.getElem?_insert_self⟩

/-- A geometry is given for a namespace that the session has, and is remembered. -/
lemma ensureGeometry_known (hmapped : session.Mapped) {nsid : UInt32} {geometry : Geometry}
    (h : (session.ensureGeometry config last nsid world).1 = .ok geometry) :
    session.checkNamespace nsid = .ok () ∧
      (session.ensureGeometry config last nsid world).2.2.1.namespaceCount = session.namespaceCount ∧
      (session.ensureGeometry config last nsid world).2.2.1.geometries[nsid]? = some geometry := by
  unfold ensureGeometry at h ⊢
  split at h
  · rename_i known hfound
    cases h
    exact ⟨hmapped nsid geometry hfound, rfl, hfound⟩
  · split at h
    · cases h
    · rename_i hcheck
      simp only at h ⊢
      cases hinfo : (session.identifyNamespace config.pollBudget
          (Tick.after (Clock.now world).1 config.adminTimeoutMs) (last + 1) nsid (Clock.now world).2).1 with
      | error error =>
        rw [hinfo] at h
        cases h
      | ok info =>
        rw [hinfo] at h
        cases h
        exact ⟨hcheck, identifyNamespace_known hinfo⟩

omit [Fabric W C Q] [Clock W] in
lemma checkRange_eq_ok_iff {geometry : Geometry} : checkRange geometry range = .ok () ↔
    geometry.blockSize = 512 ∧ range.start.toNat + range.count.toNat ≤ geometry.capacityBlocks.toNat := by
  have hsize : Limits.blockSize = 512 := rfl
  unfold checkRange
  split
  · rename_i hblock
    simp only [reduceCtorEq, false_iff, not_and]
    exact fun heq => (hblock (heq.trans hsize.symm)).elim
  · rename_i hblock
    split
    · rename_i hpast
      simp only [reduceCtorEq, false_iff]
      omega
    · rename_i hin
      simp only [true_iff]
      omega

/-- What is permitted is admitted. -/
lemma admits_of_permit (hmapped : session.Mapped)
    (h : (session.permit config last range available world).1 = .ok ()) :
    (session.permit config last range available world).2.2.1.Admits range available := by
  unfold permit at h ⊢
  by_cases hcount : range.count = 0
  · rw [if_pos hcount] at h
    cases h
  · rw [if_neg hcount] at h ⊢
    by_cases hbytes : available < range.length
    · rw [if_pos hbytes] at h
      cases h
    · rw [if_neg hbytes] at h ⊢
      simp only at h ⊢
      cases hgeometry : (session.ensureGeometry config last range.nsid world).1 with
      | error error =>
        rw [hgeometry] at h
        cases h
      | ok geometry =>
        rw [hgeometry] at h
        obtain ⟨hcheck, hsame, hfound⟩ := ensureGeometry_known hmapped hgeometry
        obtain ⟨hpos, hle⟩ := checkNamespace_eq_ok_iff.mp hcheck
        have hnonzero : range.count.toNat ≠ 0 := fun hzero => hcount (UInt32.toNat_inj.mp hzero)
        refine ⟨hpos, ?_, Nat.one_le_iff_ne_zero.mpr hnonzero, Nat.not_lt.mp hbytes, geometry, hfound,
          checkRange_eq_ok_iff.mp h⟩
        rw [hsame]
        exact hle

/-- A geometry that is not given is not remembered. -/
lemma ensureGeometry_unknown {nsid : UInt32} {error : HostError}
    (h : (session.ensureGeometry config last nsid world).1 = .error error) :
    (session.ensureGeometry config last nsid world).2.2.1.geometries[nsid]? = none := by
  unfold ensureGeometry at h ⊢
  split at h
  · cases h
  · rename_i hunknown
    split at h
    · exact hunknown
    · simp only at h ⊢
      unfold identifyNamespace at h ⊢
      simp only at h ⊢
      split
      · exact hunknown
      · rename_i heq
        rw [heq] at h
        cases h

/-- What is admitted is permitted. -/
lemma permit_of_admits (hmapped : session.Mapped)
    (h : (session.permit config last range available world).2.2.1.Admits range available) :
    (session.permit config last range available world).1 = .ok () := by
  unfold permit at h ⊢
  have hcount : range.count ≠ 0 := by
    intro heq
    rw [if_pos heq] at h
    have hpos := h.count_pos
    rw [heq] at hpos
    cases hpos
  rw [if_neg hcount] at h ⊢
  have hbytes : ¬ available < range.length := by
    intro hshort
    rw [if_pos hshort] at h
    exact absurd hshort (Nat.not_lt.mpr h.available)
  rw [if_neg hbytes] at h ⊢
  obtain ⟨geometry, hfound, hsize, hin⟩ := h.geometry
  simp only at hfound ⊢
  cases hgeometry : (session.ensureGeometry config last range.nsid world).1 with
  | error error =>
    rw [ensureGeometry_unknown hgeometry] at hfound
    cases hfound
  | ok known =>
    obtain ⟨-, -, hknown⟩ := ensureGeometry_known hmapped hgeometry
    cases hknown.symm.trans hfound
    exact checkRange_eq_ok_iff.mpr ⟨hsize, hin⟩

/-- What is wrong with a range whatever the geometry is found before anything is asked. -/
lemma permit_refused (hmapped : session.Mapped)
    (h : range.count = 0 ∨ available < range.count.toNat * 512 ∨ session.checkNamespace range.nsid ≠ .ok ()) :
    ∃ error, session.permit config last range available world = (.error error, last, session, world) := by
  unfold permit
  split
  · exact ⟨_, rfl⟩
  · rename_i hcount
    split
    · exact ⟨_, rfl⟩
    · rename_i hbytes
      have hcheck := (h.resolve_left hcount).resolve_left hbytes
      have hunknown : session.geometries[range.nsid]? = none :=
        Option.eq_none_iff_forall_ne_some.mpr fun geometry hfound => hcheck (hmapped range.nsid geometry hfound)
      cases hnamespace : session.checkNamespace range.nsid with
      | error error => exact ⟨error, by simp only [ensureGeometry, hunknown, hnamespace]; rfl⟩
      | ok => exact (hcheck hnamespace).elim

lemma executeIo_map (session : Session C Q) (budget : Nat) (deadline : Tick) (request : RequestId) (command : Command)
    (world : W) : (session.executeIo budget deadline request command world).2.1.geometries = session.geometries ∧
      (session.executeIo budget deadline request command world).2.1.namespaceCount = session.namespaceCount := by
  unfold executeIo
  split <;> exact ⟨rfl, rfl⟩

omit [Clock W] in
lemma submitIo_map (session : Session C Q) (request : RequestId) (command : Command) (world : W) :
    (session.submitIo request command world).2.1.geometries = session.geometries ∧
      (session.submitIo request command world).2.1.namespaceCount = session.namespaceCount := by
  unfold submitIo
  simp only
  split
  · exact ⟨rfl, rfl⟩
  · split
    · split <;> exact ⟨rfl, rfl⟩
    · exact ⟨rfl, rfl⟩

omit [Fabric W C Q] [Clock W] in
lemma Admits.congr {session' : Session C Q} (h : session.Admits range available)
    (hgeometries : session'.geometries = session.geometries) (hcount : session'.namespaceCount = session.namespaceCount) :
    session'.Admits range available := by
  refine ⟨h.nsid_pos, ?_, h.count_pos, h.available, ?_⟩
  · rw [hcount]
    exact h.nsid_le
  · rw [hgeometries]
    exact h.geometry

end FabricHost.Session
