import FabricHost.Proofs.Record.Field
import FabricHost.Proofs.Record.Reading

/-!
# Records are read as they were written

A record can be written exactly when each text of its value fits, it always has the length of its layout, and reading it
gives the value back, whatever follows it. Sets of attempts are records one after another behind their count.
-/

namespace FabricHost

namespace Field

lemma Carries.congr {α : Type} {field : Field α} {Good Good' : α → Prop} (h : field.Carries Good)
    (hgood : ∀ value, Good value ↔ Good' value) : field.Carries Good' :=
  { h with writes_iff := fun value => (h.writes_iff value).trans (hgood value) }

end Field

/-- Every text of the attempt fits its field. -/
structure Attempt.Storable (a : Attempt) : Prop where
  name : Fits Limits.attemptName a.name
  localIp : Fits Limits.ipText a.localIp
  subnetMask : Fits Limits.ipText a.subnetMask
  gateway : Fits Limits.ipText a.gateway
  transportType : Fits Limits.transportType a.transportType
  targetAddress : Fits Limits.targetAddress a.targetAddress
  subsystemNqn : Fits Limits.nqn a.subsystemNqn
  hostNqn : Fits Limits.nqn a.hostNqn
  securityKeyPath : Fits Limits.keyPath a.securityKeyPath

/-- Every text among the defaults fits its field. -/
structure HostDefaults.Storable (d : HostDefaults) : Prop where
  hostNqn : Fits Limits.nqn d.hostNqn
  credentialPath : Fits Limits.keyPath d.credentialPath

lemma Attempt.layout_carries : Attempt.layout.Carries Attempt.Storable := by
  have hmode : (Field.choice "ip_mode" IpMode.toByte IpMode.ofByte?).Carries _ :=
    Field.choice_carries IpMode.ofByte?_toByte
  have hauth : (Field.choice "auth_type" AuthMethod.toByte AuthMethod.ofByte?).Carries _ :=
    Field.choice_carries AuthMethod.ofByte?_toByte
  have hpieces := (Field.text_carries "name" Limits.attemptName).pair <|
    Field.flag_carries.pair <| Field.flag_carries.pair <| hmode.pair <|
    Field.flag_carries.pair <| hauth.pair <|
    Field.flag_carries.pair <| Field.byte_carries.pair <| Field.reserved_carries.pair <|
    Field.word_carries.pair <| Field.word_carries.pair <|
    (Field.text_carries "local_ip" Limits.ipText).pair <|
    (Field.text_carries "subnet_mask" Limits.ipText).pair <|
    (Field.text_carries "gateway" Limits.ipText).pair <|
    (Field.text_carries "transport_type" Limits.transportType).pair <|
    (Field.text_carries "target_address" Limits.targetAddress).pair <|
    (Field.text_carries "subsystem_nqn" Limits.nqn).pair <|
    (Field.text_carries "host_nqn" Limits.nqn).pair <|
    Field.uuid_carries.pair <|
    Field.text_carries "security_key_path" Limits.keyPath
  apply (hpieces.as fun _ => rfl).congr
  intro a
  constructor
  · rintro ⟨hname, -, -, -, -, -, -, -, -, -, -, hlocal, hmask, hgateway, htransport, htarget, hnqn, hhost, -, hkey⟩
    exact ⟨hname, hlocal, hmask, hgateway, htransport, htarget, hnqn, hhost, hkey⟩
  · rintro ⟨hname, hlocal, hmask, hgateway, htransport, htarget, hnqn, hhost, hkey⟩
    simp only [true_and]
    exact ⟨hname, hlocal, hmask, hgateway, htransport, htarget, hnqn, hhost, hkey⟩

lemma HostDefaults.layout_carries : HostDefaults.layout.Carries HostDefaults.Storable := by
  have hpieces := Field.flag_carries.pair <| Field.reserved_carries.pair <| Field.word_carries.pair <|
    (Field.text_carries "host_nqn" Limits.nqn).pair <|
    Field.uuid_carries.pair <|
    Field.text_carries "credential_path" Limits.keyPath
  apply (hpieces.as fun _ => rfl).congr
  intro d
  constructor
  · rintro ⟨-, -, -, hhost, -, hkey⟩
    exact ⟨hhost, hkey⟩
  · rintro ⟨hhost, hkey⟩
    simp only [true_and]
    exact ⟨hhost, hkey⟩

namespace Record

variable {α : Type} {layout : Field α} {Good : α → Prop} {value : α} {bytes : Bytes}

lemma write_eq_ok_iff : write layout value = .ok bytes ↔
    ∃ image, layout.write value = .ok image ∧ Bytes.ofNatLE 2 Limits.recordVersion ++ image = bytes := by
  simp only [write, bind_eq_ok_iff, pure, Except.pure, Except.ok.injEq]

section

variable (h : layout.Carries Good)
include h

lemma writes_iff (value : α) : (∃ bytes, write layout value = .ok bytes) ↔ Good value := by
  rw [← h.writes_iff]
  constructor
  · rintro ⟨bytes, hwrite⟩
    obtain ⟨image, himage, -⟩ := write_eq_ok_iff.mp hwrite
    exact ⟨image, himage⟩
  · rintro ⟨image, himage⟩
    exact ⟨_, write_eq_ok_iff.mpr ⟨image, himage, rfl⟩⟩

lemma length_write (hwrite : write layout value = .ok bytes) : bytes.length = 2 + layout.width := by
  obtain ⟨image, himage, rfl⟩ := write_eq_ok_iff.mp hwrite
  rw [List.length_append, Bytes.length_ofNatLE, h.length_write himage]

lemma read_write (hwrite : write layout value = .ok bytes) : read layout bytes = .ok value := by
  obtain ⟨image, himage, rfl⟩ := write_eq_ok_iff.mp hwrite
  exact read_eq_ok_iff.mpr ⟨image, h.length_write himage, h.read_write himage _, rfl⟩

end

lemma exists_forall₂_iff {β : Type} {R : α → β → Prop} {values : List α} :
    (∃ images, List.Forall₂ R values images) ↔ ∀ value ∈ values, ∃ image, R value image := by
  induction values with
  | nil => exact iff_of_true ⟨[], .nil⟩ (by simp)
  | cons value rest ih =>
    rw [List.forall_mem_cons, ← ih]
    constructor
    · rintro ⟨images, hall⟩
      cases hall with
      | cons himage hmore => exact ⟨⟨_, himage⟩, ⟨_, hmore⟩⟩
    · rintro ⟨⟨image, himage⟩, ⟨more, hmore⟩⟩
      exact ⟨image :: more, .cons himage hmore⟩

lemma mapM_eq_ok_iff {ε β : Type} {f : α → Except ε β} {values : List α} {images : List β} :
    values.mapM f = .ok images ↔ List.Forall₂ (fun value image => f value = .ok image) values images := by
  induction values generalizing images with
  | nil =>
    rw [List.mapM_nil, List.forall₂_nil_left_iff]
    constructor
    · intro heq
      cases heq
      rfl
    · rintro rfl
      rfl
  | cons value rest ih =>
    simp only [List.mapM_cons, bind_eq_ok_iff, ih, pure, Except.pure, Except.ok.injEq]
    constructor
    · rintro ⟨image, himage, more, hmore, rfl⟩
      exact .cons himage hmore
    · intro hall
      cases hall with
      | cons himage hmore => exact ⟨_, himage, _, hmore, rfl⟩

lemma writeAll_eq_ok_iff {values : List α} : writeAll layout values = .ok bytes ↔
    ∃ images, List.Forall₂ (fun value image => write layout value = .ok image) values images ∧
      images.flatten = bytes := by
  simp only [writeAll, bind_eq_ok_iff, mapM_eq_ok_iff, pure, Except.pure, Except.ok.injEq]

end Record

namespace Attempt

variable {a : Attempt} {attempts : List Attempt} {bytes : Bytes}

lemma encodes_iff (a : Attempt) : (∃ bytes, a.encode = .ok bytes) ↔ a.Storable := Record.writes_iff layout_carries a

lemma length_encode (h : a.encode = .ok bytes) : bytes.length = recordLength := Record.length_write layout_carries h

lemma decode_encode (h : a.encode = .ok bytes) : decode bytes = .ok a := Record.read_write layout_carries h

lemma encodeSet_eq_ok_iff : encodeSet attempts = .ok bytes ↔ attempts.length ≤ Limits.setCount ∧
    ∃ images, List.Forall₂ (fun a image => encode a = .ok image) attempts images ∧
      Bytes.ofNatLE 2 attempts.length ++ images.flatten = bytes := by
  unfold encodeSet
  by_cases hcount : attempts.length ≤ Limits.setCount
  · rw [if_neg (by omega)]
    simp only [bind_eq_ok_iff, Record.writeAll_eq_ok_iff, pure, Except.pure, Except.ok.injEq, hcount, true_and]
    constructor
    · rintro ⟨_, ⟨images, hall, rfl⟩, rfl⟩
      exact ⟨images, hall, rfl⟩
    · rintro ⟨images, hall, rfl⟩
      exact ⟨_, ⟨images, hall, rfl⟩, rfl⟩
  · rw [if_pos (by omega)]
    exact iff_of_false (by rintro ⟨⟩) fun h => hcount h.1

lemma encodesSet_iff (attempts : List Attempt) : (∃ bytes, encodeSet attempts = .ok bytes) ↔
    attempts.length ≤ Limits.setCount ∧ ∀ a ∈ attempts, a.Storable := by
  simp only [encodeSet_eq_ok_iff, exists_and_left, ← encodes_iff, ← Record.exists_forall₂_iff]
  apply and_congr_right
  intro _
  constructor
  · rintro ⟨_, images, hall, -⟩
    exact ⟨images, hall⟩
  · rintro ⟨images, hall⟩
    exact ⟨_, images, hall, rfl⟩

/-- A set is read as its count says. -/
lemma decodeSet_append {count : Nat} (hcount : count ≤ Limits.setCount) (body : Bytes) :
    decodeSet (Bytes.ofNatLE 2 count ++ body) = Record.readMany layout count body >>= Record.whole := by
  have htwo : (Bytes.ofNatLE 2 count).length = 2 := Bytes.length_ofNatLE 2 _
  have hensure : Record.ensure (Bytes.ofNatLE 2 count ++ body) 2 = .ok () := by
    rw [Record.ensure_eq_ok_iff, List.length_append]
    omega
  have hread : Bytes.toNatLE (Bytes.ofNatLE 2 count) = count := by
    rw [Bytes.toNatLE_ofNatLE]
    exact Nat.mod_eq_of_lt (Nat.lt_of_le_of_lt hcount (by decide))
  unfold decodeSet
  rw [hensure, List.take_left' htwo, List.drop_left' htwo, hread]
  rfl

lemma decodeSet_encodeSet (h : encodeSet attempts = .ok bytes) : decodeSet bytes = .ok attempts := by
  obtain ⟨hcount, images, hall, rfl⟩ := encodeSet_eq_ok_iff.mp h
  have hblocks : List.Forall₂ (Record.IsBlock layout) images attempts :=
    hall.flip.imp fun _ _ h => ⟨length_encode h, decode_encode h⟩
  have hmany : Record.readMany layout attempts.length images.flatten = .ok (attempts, []) :=
    Record.readMany_eq_ok_iff.mpr ⟨images, hall.length_eq.symm, hblocks, (List.append_nil _).symm⟩
  rw [decodeSet_append hcount, hmany]
  rfl

end Attempt

namespace HostDefaults

variable {d : HostDefaults} {bytes : Bytes}

lemma encodes_iff (d : HostDefaults) : (∃ bytes, d.encode = .ok bytes) ↔ d.Storable := Record.writes_iff layout_carries d

lemma length_encode (h : d.encode = .ok bytes) : bytes.length = recordLength := Record.length_write layout_carries h

lemma decode_encode (h : d.encode = .ok bytes) : decode bytes = .ok d := Record.read_write layout_carries h

end HostDefaults

lemma exists_error_iff {ε α : Type} {result : Except ε α} :
    (∃ error, result = .error error) ↔ ¬∃ value, result = .ok value := by
  cases result with
  | error error => simp
  | ok value => simp

/-- Exactly the attempts, sets of attempts and host defaults whose texts fit can be written, sets only of as many
attempts as can be counted. Records have one length each, a set is its count and its records, and all are read back as
they were. -/
theorem records_round_trip :
    (∀ a : Attempt,
      (a.Storable ↔ ∃ bytes, a.encode = .ok bytes ∧ bytes.length = Attempt.recordLength ∧ Attempt.decode bytes = .ok a) ∧
      ((∃ error, a.encode = .error error) ↔ ¬a.Storable)) ∧
    (∀ attempts : List Attempt,
      ((attempts.length ≤ Limits.setCount ∧ ∀ a ∈ attempts, a.Storable) ↔
        ∃ images, List.Forall₂ (fun a image => Attempt.encode a = .ok image) attempts images ∧
          Attempt.encodeSet attempts = .ok (Bytes.ofNatLE 2 attempts.length ++ images.flatten) ∧
          Attempt.decodeSet (Bytes.ofNatLE 2 attempts.length ++ images.flatten) = .ok attempts) ∧
      ((∃ error, Attempt.encodeSet attempts = .error error) ↔
        Limits.setCount < attempts.length ∨ ∃ a ∈ attempts, ¬a.Storable)) ∧
    ∀ d : HostDefaults,
      (d.Storable ↔
        ∃ bytes, d.encode = .ok bytes ∧ bytes.length = HostDefaults.recordLength ∧ HostDefaults.decode bytes = .ok d) ∧
      ((∃ error, d.encode = .error error) ↔ ¬d.Storable) := by
  refine ⟨fun a => ⟨?_, ?_⟩, fun attempts => ⟨?_, ?_⟩, fun d => ⟨?_, ?_⟩⟩
  · rw [← Attempt.encodes_iff]
    constructor
    · rintro ⟨bytes, h⟩
      exact ⟨bytes, h, Attempt.length_encode h, Attempt.decode_encode h⟩
    · rintro ⟨bytes, h, -⟩
      exact ⟨bytes, h⟩
  · rw [exists_error_iff, Attempt.encodes_iff]
  · rw [← Attempt.encodesSet_iff]
    constructor
    · rintro ⟨bytes, h⟩
      obtain ⟨-, images, hall, rfl⟩ := Attempt.encodeSet_eq_ok_iff.mp h
      exact ⟨images, hall, h, Attempt.decodeSet_encodeSet h⟩
    · rintro ⟨images, -, h, -⟩
      exact ⟨_, h⟩
  · rw [exists_error_iff, Attempt.encodesSet_iff, not_and_or, Nat.not_le]
    simp only [not_forall, exists_prop]
  · rw [← HostDefaults.encodes_iff]
    constructor
    · rintro ⟨bytes, h⟩
      exact ⟨bytes, h, HostDefaults.length_encode h, HostDefaults.decode_encode h⟩
    · rintro ⟨bytes, h, -⟩
      exact ⟨bytes, h⟩
  · rw [exists_error_iff, HostDefaults.encodes_iff]

end FabricHost
