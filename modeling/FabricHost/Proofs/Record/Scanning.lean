import FabricHost.Proofs.Record.Field
import FabricHost.Proofs.Record.Reading

/-!
# Records are read inside their bytes

A `Scan` reads from the front of a byte string and trusts that the bytes are there: it cuts, skips and reads numbers, and
where there are too few bytes it overruns, which nothing catches. The readers of records are scans that count the bytes
once, before the first field. They never overrun, and give what the layouts give.
-/

namespace FabricHost

/-- What a scan comes to. -/
inductive Scanned (α : Type) where
  | value (value : α) (rest : Bytes)
  | refused (error : RecordError)
  /-- More bytes were asked for than there are. -/
  | overrun

/-- Reads from the front of a byte string. -/
structure Scan (α : Type) where
  front : Bytes → Scanned α

namespace Scan

instance : Monad Scan where
  pure value := ⟨fun bytes => .value value bytes⟩
  bind scan next := ⟨fun bytes =>
    match scan.front bytes with
    | .value value rest => (next value).front rest
    | .refused error => .refused error
    | .overrun => .overrun⟩

/-- The answer of a scan, unless it overruns. -/
def run {α : Type} (scan : Scan α) (bytes : Bytes) : Option (Except RecordError α) :=
  match scan.front bytes with
  | .value value _ => some (.ok value)
  | .refused error => some (.error error)
  | .overrun => none

def refuse {α : Type} (error : RecordError) : Scan α := ⟨fun _ => .refused error⟩

/-- Counts the bytes that are left. -/
def ensure (needed : Nat) : Scan Unit where
  front bytes := if bytes.length < needed then .refused (.truncated needed bytes.length) else .value () bytes

/-- Nothing is left. -/
def ended : Scan Unit where
  front bytes := if bytes = [] then .value () bytes else .refused (.trailingData bytes.length)

/-- Skips bytes. -/
def advance (n : Nat) : Scan Unit where
  front bytes := if n ≤ bytes.length then .value () (bytes.drop n) else .overrun

/-- Cuts off the first bytes, which stay to be read. -/
def peek (n : Nat) : Scan Bytes where
  front bytes := if n ≤ bytes.length then .value (bytes.take n) bytes else .overrun

/-- Cuts off the first of some bytes that were cut off before. -/
def cut (part : Bytes) (n : Nat) : Scan Bytes where
  front bytes := if n ≤ part.length then .value (part.take n) bytes else .overrun

def byte : Scan UInt8 where
  front
    | [] => .overrun
    | first :: rest => .value first rest

/-- A number of two bytes, the low one first. -/
def number : Scan Nat where
  front
    | low :: high :: rest => .value (low.toNat + 256 * high.toNat) rest
    | _ => .overrun

def flag : Scan Bool := do return (← byte) != 0

def word : Scan UInt16 := do return UInt16.ofNat (← number)

def choice {α : Type} (name : String) (ofByte? : UInt8 → Option α) : Scan α := do
  let value ← byte
  match ofByte? value with
  | some choice => return choice
  | none => refuse (.invalidValue name value)

def uuid : Scan Uuid := do
  let bytes ← peek 16
  advance 16
  match Uuid.ofBytes? bytes with
  | some id => return id
  | none => ⟨fun _ => .overrun⟩

def text (name : String) (capacity : Nat) : Scan String := do
  let field ← peek capacity
  let used ← cut field (field.findIdx (· == 0))
  match Utf8.decode? used with
  | some value =>
    advance capacity
    return value
  | none => refuse (.invalidText name)

/-- The version of a record. -/
def version : Scan Unit := do
  ensure 2
  let found ← number
  if found ≠ Limits.recordVersion then refuse (.unsupportedVersion found)

def attemptFields : Scan Attempt := do
  let name ← text "name" Limits.attemptName
  let enabled ← flag
  let dhcp ← flag
  let ipMode ← choice "ip_mode" IpMode.ofByte?
  let useHostNqn ← flag
  let auth ← choice "auth_type" AuthMethod.ofByte?
  let dnsMode ← flag
  let retryCount ← byte
  advance 1
  let targetPort ← word
  let connectTimeoutMs ← word
  let localIp ← text "local_ip" Limits.ipText
  let subnetMask ← text "subnet_mask" Limits.ipText
  let gateway ← text "gateway" Limits.ipText
  let transportType ← text "transport_type" Limits.transportType
  let targetAddress ← text "target_address" Limits.targetAddress
  let subsystemNqn ← text "subsystem_nqn" Limits.nqn
  let hostNqn ← text "host_nqn" Limits.nqn
  let hostId ← uuid
  let securityKeyPath ← text "security_key_path" Limits.keyPath
  return {
    name, enabled, dhcp, ipMode, useHostNqn, auth, dnsMode, retryCount, targetPort, connectTimeoutMs, localIp, subnetMask,
    gateway, transportType, targetAddress, subsystemNqn, hostNqn, hostId, securityKeyPath : Attempt }

def defaultsFields : Scan HostDefaults := do
  let enabled ← flag
  advance 1
  let targetCount ← word
  let hostNqn ← text "host_nqn" Limits.nqn
  let hostId ← uuid
  let credentialPath ← text "credential_path" Limits.keyPath
  return { enabled, targetCount, hostNqn, hostId, credentialPath : HostDefaults }

/-- A record. The bytes of its fields are counted once, before the first of them. -/
def record {α : Type} (size : Nat) (fields : Scan α) : Scan α := do
  version
  ensure size
  fields

/-- An attempt, counted by the sizes of its fields. -/
def attempt : Scan Attempt :=
  record (Limits.attemptName + 8 + 4 + 3 * Limits.ipText + Limits.transportType + Limits.targetAddress + 2 * Limits.nqn +
    16 + Limits.keyPath) attemptFields

/-- Host defaults, counted by the sizes of their fields. -/
def defaults : Scan HostDefaults := record (1 + 1 + 2 + Limits.nqn + 16 + Limits.keyPath) defaultsFields

/-- One scan as often as counted. -/
def repeated {α : Type} (scan : Scan α) : Nat → Scan (List α)
  | 0 => return []
  | count + 1 => do return (← scan) :: (← repeated scan count)

/-- A scan that takes up a whole byte string. -/
def whole {α : Type} (scan : Scan α) : Scan α := do
  let value ← scan
  ended
  return value

def attemptSet : Scan (List Attempt) := whole do
  ensure 2
  repeated attempt (← number)

section

variable {α β γ : Type} {bytes : Bytes}

lemma bind_of_value {scan : Scan α} {next : α → Scan β} {value : α} {rest : Bytes}
    (h : scan.front bytes = .value value rest) : (scan >>= next).front bytes = (next value).front rest := by
  simp only [bind, h]

lemma bind_of_refused {scan : Scan α} {next : α → Scan β} {error : RecordError}
    (h : scan.front bytes = .refused error) : (scan >>= next).front bytes = .refused error := by
  simp only [bind, h]

lemma advance_of_le {n : Nat} (h : n ≤ bytes.length) : (advance n).front bytes = .value () (bytes.drop n) := if_pos h

lemma peek_of_le {n : Nat} (h : n ≤ bytes.length) : (peek n).front bytes = .value (bytes.take n) bytes := if_pos h

/-- With enough bytes at hand, the scan reads what the field reads and goes on behind it. What is read is packed. -/
def Follows (scan : Scan γ) (field : Field α) (pack : α → γ) : Prop :=
  ∀ bytes (h : field.width ≤ bytes.length),
    scan.front bytes = match field.read (bytes.take field.width) (List.length_take_of_le h) with
      | .ok value => .value (pack value) (bytes.drop field.width)
      | .error error => .refused error

lemma byte_follows : Follows byte Field.byte id := by
  intro bytes h
  cases bytes with
  | nil => cases h
  | cons first rest => rfl

lemma flag_follows : Follows flag Field.flag id := by
  intro bytes h
  cases bytes with
  | nil => cases h
  | cons first rest => rfl

lemma reserved_follows : Follows (advance 1) Field.reserved id := fun _ h => advance_of_le h

lemma word_follows : Follows word Field.word id := by
  intro bytes h
  match bytes, h with
  | low :: high :: rest, _ => rfl

lemma choice_follows (name : String) (toByte : α → UInt8) (ofByte? : UInt8 → Option α) :
    Follows (choice name ofByte?) (Field.choice name toByte ofByte?) id := by
  intro bytes h
  cases bytes with
  | nil => cases h
  | cons first rest =>
    rw [choice, bind_of_value (show byte.front (first :: rest) = .value first rest from rfl)]
    simp only [Field.choice, List.take_succ_cons, List.take_zero, List.getElem_cons_zero]
    cases ofByte? first <;> rfl

lemma uuid_follows : Follows uuid Field.uuid id := by
  intro bytes h
  have hsize : 16 ≤ bytes.length := h
  have hlength : (bytes.take 16).length = 16 := List.length_take_of_le hsize
  have hread : Uuid.ofBytes? (bytes.take 16) = some ⟨⟨(bytes.take 16).toArray, hlength⟩⟩ := dif_pos hlength
  rw [uuid, bind_of_value (peek_of_le hsize), bind_of_value (advance_of_le hsize)]
  simp only [hread]
  rfl

lemma text_follows (name : String) (capacity : Nat) : Follows (text name capacity) (Field.text name capacity) id := by
  intro bytes h
  have hsize : capacity ≤ bytes.length := h
  have hused : (cut (bytes.take capacity) ((bytes.take capacity).findIdx (· == 0))).front bytes =
      .value ((bytes.take capacity).takeWhile (· != 0)) bytes := by
    simp only [cut, if_pos List.findIdx_le_length, List.takeWhile_eq_take_findIdx_not, bne, Bool.not_not]
  rw [text, bind_of_value (peek_of_le hsize), bind_of_value hused]
  simp only [Field.text]
  cases Utf8.decode? ((bytes.take capacity).takeWhile (· != 0)) with
  | none => rfl
  | some value => exact bind_of_value (advance_of_le hsize)

/-- Scans one after another follow fields side by side. -/
lemma Follows.pair {first : Field α} {second : Field β} {scan : Scan α} {next : α → Scan γ} {pack : α × β → γ}
    (h : Follows scan first id) (hnext : ∀ a, Follows (next a) second fun b => pack (a, b)) :
    Follows (scan >>= next) (first.pair second) pack := by
  intro bytes hwidth
  have hsum : first.width + second.width ≤ bytes.length := hwidth
  have hwidth' : first.width ≤ bytes.length := by omega
  have hfirst := h bytes hwidth'
  have hfront : (bytes.take (first.width + second.width)).take first.width = bytes.take first.width := by
    rw [List.take_take, Nat.min_eq_left (Nat.le_add_right _ _)]
  have hback : (bytes.take (first.width + second.width)).drop first.width = (bytes.drop first.width).take second.width := by
    rw [List.drop_take, Nat.add_sub_cancel_left]
  simp only [Field.pair, hfront, hback]
  cases hread : first.read (bytes.take first.width) (List.length_take_of_le hwidth') with
  | error error =>
    rw [hread] at hfirst
    exact bind_of_refused hfirst
  | ok a =>
    rw [hread] at hfirst
    have hsecond := hnext a (bytes.drop first.width) (by rw [List.length_drop]; omega)
    rw [bind_of_value hfirst, id_eq, hsecond]
    simp only [bind, Except.bind]
    cases second.read ((bytes.drop first.width).take second.width) _ with
    | error error => rfl
    | ok b => simp [pure, Except.pure, List.drop_drop]

/-- The last scan packs what all of them read. -/
lemma Follows.last {field : Field α} {scan : Scan α} (h : Follows scan field id) (pack : α → γ) :
    Follows (scan >>= fun a => pure (pack a)) field pack := by
  intro bytes hwidth
  have hscan := h bytes hwidth
  cases hread : field.read (bytes.take field.width) (List.length_take_of_le hwidth) with
  | error error =>
    rw [hread] at hscan
    rw [bind_of_refused hscan]
  | ok a =>
    rw [hread] at hscan
    rw [bind_of_value hscan]
    rfl

lemma Follows.as {field : Field α} {scan : Scan β} {pack : α → β} (h : Follows scan field pack) (unpack : β → α) :
    Follows scan (field.as pack unpack) id := by
  intro bytes hwidth
  rw [h bytes hwidth]
  simp only [Field.as]
  cases field.read (bytes.take field.width) (List.length_take_of_le hwidth) <;> rfl

lemma attemptFields_follow : Follows attemptFields Attempt.layout id := by
  apply Follows.as
  exact (text_follows _ _).pair fun name => flag_follows.pair fun enabled => flag_follows.pair fun dhcp =>
    (choice_follows _ _ _).pair fun ipMode => flag_follows.pair fun useHostNqn => (choice_follows _ _ _).pair fun auth =>
    flag_follows.pair fun dnsMode => byte_follows.pair fun retryCount => reserved_follows.pair fun _ =>
    word_follows.pair fun targetPort => word_follows.pair fun connectTimeoutMs =>
    (text_follows _ _).pair fun localIp => (text_follows _ _).pair fun subnetMask => (text_follows _ _).pair fun gateway =>
    (text_follows _ _).pair fun transportType => (text_follows _ _).pair fun targetAddress =>
    (text_follows _ _).pair fun subsystemNqn => (text_follows _ _).pair fun hostNqn =>
    uuid_follows.pair fun hostId => (text_follows _ _).last _

lemma defaultsFields_follow : Follows defaultsFields HostDefaults.layout id := by
  apply Follows.as
  exact flag_follows.pair fun enabled => reserved_follows.pair fun _ => word_follows.pair fun targetCount =>
    (text_follows _ _).pair fun hostNqn => uuid_follows.pair fun hostId => (text_follows _ _).last _

/-- The scan gives what reading gives, for every byte string, and leaves what reading leaves. -/
def Gives (scan : Scan α) (read : Bytes → Except RecordError (α × Bytes)) : Prop :=
  ∀ bytes, scan.front bytes = match read bytes with
    | .ok (value, rest) => .value value rest
    | .error error => .refused error

lemma ensure_of_le {needed : Nat} (h : needed ≤ bytes.length) : (ensure needed).front bytes = .value () bytes :=
  if_neg (Nat.not_lt_of_le h)

lemma version_front (low high : UInt8) (body : Bytes) : version.front (low :: high :: body) =
    if low.toNat + 256 * high.toNat ≠ Limits.recordVersion then
      .refused (.unsupportedVersion (low.toNat + 256 * high.toNat))
    else .value () body := by
  have hnumber : number.front (low :: high :: body) = .value (low.toNat + 256 * high.toNat) body := rfl
  rw [version, bind_of_value (ensure_of_le (Nat.le_add_left 2 body.length)), bind_of_value hnumber]
  split <;> rfl

lemma readFront_cons (layout : Field α) (low high : UInt8) (body : Bytes) :
    Record.readFront layout (low :: high :: body) =
      if low.toNat + 256 * high.toNat ≠ Limits.recordVersion then
        .error (.unsupportedVersion (low.toNat + 256 * high.toNat))
      else if h : layout.width ≤ body.length then
        (layout.read (body.take layout.width) (List.length_take_of_le h)).map fun value => (value, body.drop layout.width)
      else .error (.truncated layout.width body.length) :=
  (Record.readFront_eq layout (low :: high :: body)).trans (if_neg (Nat.not_lt_of_le (Nat.le_add_left 2 body.length)))

lemma record_gives {layout : Field α} {fields : Scan α} (h : Follows fields layout id) {size : Nat}
    (hsize : size = layout.width) : Gives (record size fields) (Record.readFront layout) := by
  subst hsize
  intro bytes
  match bytes with
  | [] => rfl
  | [_] => rfl
  | low :: high :: body =>
    have hversion := version_front low high body
    rw [readFront_cons]
    by_cases hunknown : low.toNat + 256 * high.toNat ≠ Limits.recordVersion
    · rw [if_pos hunknown] at hversion
      rw [record, bind_of_refused hversion, if_pos hunknown]
    · rw [if_neg hunknown] at hversion
      rw [record, bind_of_value hversion, if_neg hunknown]
      by_cases hwidth : layout.width ≤ body.length
      · rw [bind_of_value (ensure_of_le hwidth), h body hwidth, dif_pos hwidth]
        cases layout.read (body.take layout.width) (List.length_take_of_le hwidth) <;> rfl
      · have hshort : (ensure layout.width).front body = .refused (.truncated layout.width body.length) :=
          if_pos (Nat.lt_of_not_le hwidth)
        rw [bind_of_refused hshort, dif_neg hwidth]

lemma repeated_gives {layout : Field α} {scan : Scan α} (h : Gives scan (Record.readFront layout)) (count : Nat) :
    Gives (repeated scan count) (Record.readMany layout count) := by
  induction count with
  | zero => exact fun _ => rfl
  | succ count ih =>
    intro bytes
    have hfirst := h bytes
    rw [Record.readMany, repeated]
    cases hread : Record.readFront layout bytes with
    | error error =>
      rw [hread] at hfirst
      exact bind_of_refused hfirst
    | ok front =>
      obtain ⟨value, rest⟩ := front
      rw [hread] at hfirst
      have hmore := ih rest
      rw [bind_of_value hfirst]
      cases hreads : Record.readMany layout count rest with
      | error error =>
        rw [hreads] at hmore
        simp only [bind, Except.bind, hreads]
        exact bind_of_refused hmore
      | ok more =>
        rw [hreads] at hmore
        simp only [bind, Except.bind, hreads]
        exact bind_of_value hmore

/-- The answer of a scan of a whole byte string. -/
lemma run_whole {scan : Scan α} {read : Bytes → Except RecordError (α × Bytes)} (h : Gives scan read) (bytes : Bytes) :
    (whole scan).run bytes = some (read bytes >>= Record.whole) := by
  have hscan := h bytes
  cases hread : read bytes with
  | error error =>
    rw [hread] at hscan
    rw [run, whole, bind_of_refused hscan]
    rfl
  | ok front =>
    obtain ⟨value, rest⟩ := front
    rw [hread] at hscan
    rw [run, whole, bind_of_value hscan]
    by_cases hrest : rest = []
    · subst hrest
      rfl
    · have hended : ended.front rest = .refused (.trailingData rest.length) := if_neg hrest
      rw [bind_of_refused hended]
      exact congrArg some (if_neg hrest).symm

lemma attempt_gives : Gives attempt (Record.readFront Attempt.layout) := record_gives attemptFields_follow rfl

lemma defaults_gives : Gives defaults (Record.readFront HostDefaults.layout) := record_gives defaultsFields_follow rfl

lemma attemptSet_gives :
    Gives (do ensure 2; repeated attempt (← number)) fun bytes => (do
      Record.ensure bytes 2
      Record.readMany Attempt.layout (Bytes.toNatLE (bytes.take 2)) (bytes.drop 2)) := by
  intro bytes
  match bytes with
  | [] => rfl
  | [_] => rfl
  | low :: high :: body =>
    have hnumber : number.front (low :: high :: body) = .value (low.toNat + 256 * high.toNat) body := rfl
    have hmany := repeated_gives attempt_gives (low.toNat + 256 * high.toNat) body
    rw [bind_of_value (ensure_of_le (Nat.le_add_left 2 body.length)), bind_of_value hnumber, hmany]
    rfl

lemma attemptSet_run (bytes : Bytes) : attemptSet.run bytes = some (Attempt.decodeSet bytes) := by
  rw [attemptSet, run_whole attemptSet_gives]
  unfold Attempt.decodeSet
  cases Record.ensure bytes 2 <;> rfl

end

end Scan

end FabricHost
