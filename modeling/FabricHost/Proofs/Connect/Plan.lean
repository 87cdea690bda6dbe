import FabricHost.Connect.Plan
import FabricHost.Proofs.Attempts.Store
import FabricHost.Proofs.Net.IpAddress
import FabricHost.Proofs.Uuid.Text

/-!
# Accepted attempts can be connected

An attempt that the rules accept becomes a command that the plan's checks accept, once its target has an address of the
attempt's IP mode. The plan says what the attempt says: automatic configuration, which the command cannot spell, is
settled by the address.
-/

namespace FabricHost

namespace IpMode

variable {mode : IpMode} {address : IpAddress}

lemma parseAddress?_eq_some_iff {s : String} :
    mode.parseAddress? s = some address ↔ IpAddress.parse? s = some address ∧ mode.admits address = true := by
  cases mode with
  | autoconfig => simp [parseAddress?, admits]
  | ipv4 => simp [parseAddress?, admits, IpAddress.parseAs?_eq_some_iff]
  | ipv6 => simp [parseAddress?, admits, IpAddress.parseAs?_eq_some_iff]

/-- Where the mode says the family, every address of that mode has it. -/
lemma familyOf_eq_of_ne {s : String} (hmode : mode ≠ .autoconfig) (hadmits : mode.admits address = true) :
    ConnectCommand.familyOf mode s = address.family := by
  cases mode with
  | autoconfig => exact absurd rfl hmode
  | ipv4 => exact (of_decide_eq_true hadmits).symm
  | ipv6 => exact (of_decide_eq_true hadmits).symm

/-- The family that a target is connected over is its own. -/
lemma familyOf_eq {s : String} (h : IpAddress.parse? s = some address) (hadmits : mode.admits address = true) :
    ConnectCommand.familyOf mode s = address.family := by
  by_cases hmode : mode = .autoconfig
  · subst hmode
    simp [ConnectCommand.familyOf, h]
  · exact familyOf_eq_of_ne hmode hadmits

end IpMode

/-- The addresses that an attempt's target can have: the one that it gives, or any of its IP mode that the name may be
resolved to. -/
def Attempt.ReachedAt (a : Attempt) (address : String) : Prop :=
  if a.dnsMode = true then ∃ ip : IpAddress, a.ipMode.admits ip = true ∧ address = ip.text
  else address = a.targetAddress

/-- The host's own addresses are those that the attempt gives. -/
structure LocalBinding.Follows (binding : LocalBinding) (a : Attempt) : Prop where
  address : IpAddress.parse? a.localIp = some binding.address
  subnetMask : IpAddress.parse? a.subnetMask = some binding.subnetMask
  gateway : binding.gateway = if a.gateway = "" then none else IpAddress.parse? a.gateway
  gateway_eq_none_iff : binding.gateway = none ↔ a.gateway = ""

/-- The plan says what the attempt says, and the host's defaults where the attempt says nothing. -/
structure ConnectPlan.Follows (plan : ConnectPlan) (a : Attempt) (address : String) (defaults : HostDefaults)
    (keepAliveTimeoutMs : UInt64) : Prop where
  kind : FabricKind.parse? a.transportType = some plan.params.kind
  address : IpAddress.parse? address = some plan.params.target.address
  port : plan.params.target.port = a.targetPort
  subsystemNqn : plan.params.subsystemNqn = a.subsystemNqn
  retryCount : plan.retryCount = a.retryCount
  connectTimeoutMs : plan.connectTimeoutMs = a.connectTimeoutMs
  attempt : plan.attempt = some a.name
  local_eq_none_iff : plan.params.local? = none ↔ a.dhcp = true
  static : ∀ binding, plan.params.local? = some binding → binding.Follows a
  hostId : plan.params.hostId = if a.hostId.isNil then defaults.hostId else a.hostId
  hostNqn : plan.params.hostNqn =
    if a.useHostNqn then a.hostNqn
    else if a.hostId.isNil ∧ defaults.hostNqn ≠ "" then defaults.hostNqn
    else Limits.hostNqnStem ++ plan.params.hostId.text
  mac : plan.params.mac? = none
  keepAliveTimeoutMs : plan.params.keepAliveTimeoutMs = keepAliveTimeoutMs

namespace ConnectCommand

lemma checkCapacities_eq_ok_iff {c : ConnectCommand} : c.checkCapacities = .ok () ↔
    Fits Limits.transportType c.transportType ∧ Fits Limits.nqn c.subsystemNqn ∧
      Fits Limits.targetAddress c.targetAddress ∧ Fits Limits.identityText c.hostIdentity ∧ Fits Limits.macText c.mac ∧
      Fits Limits.ipText c.localIp ∧ Fits Limits.ipText c.subnetMask ∧ Fits Limits.ipText c.gateway ∧
      Fits Limits.nqn c.hostNqn := by
  simp only [checkCapacities, rules_bind_eq_ok_iff, mapError_eq_ok_iff, checkCapacity_eq_ok_iff]

lemma address_eq_ok_iff {family : IpFamily} {field value : String} {ip : IpAddress} :
    address family field value = .ok ip ↔ IpAddress.parse? value = some ip ∧ ip.family = family := by
  rw [← IpAddress.parseAs?_eq_some_iff, address]
  cases IpAddress.parseAs? family value with
  | none => simp
  | some other => simp

/-- A command is accepted when each of its parts is, and then has the plan made of them. -/
lemma plan_eq_ok_iff {c : ConnectCommand} {defaults : HostDefaults} {keepAliveTimeoutMs : UInt64} {plan : ConnectPlan} :
    c.plan defaults keepAliveTimeoutMs = .ok plan ↔
      c.checkCapacities = .ok () ∧ ∃ kind, c.transportKind = .ok kind ∧ c.subsystemNqn ≠ "" ∧
        ∃ family, c.family = .ok family ∧ ∃ target, address family "target_address" c.targetAddress = .ok target ∧
          c.targetPort ≠ 0 ∧ c.connectTimeoutMs ≠ 0 ∧ c.retryCount ≤ Limits.maxRetryCount ∧
            ∃ binding, c.localBinding family = .ok binding ∧ ∃ id, c.hostId defaults = .ok id ∧ plan = {
              params := {
                kind
                target := { address := target, port := c.targetPort }
                subsystemNqn := c.subsystemNqn
                hostNqn := c.effectiveHostNqn defaults id
                hostId := id
                keepAliveTimeoutMs
                local? := binding
                mac? := if c.mac = "" then none else some c.mac }
              connectTimeoutMs := c.connectTimeoutMs
              retryCount := c.retryCount
              attempt := c.attempt } := by
  simp only [ConnectCommand.plan, bind_eq_ok_iff, exists_unit_iff, require_eq_ok_iff, pure, Except.pure, Except.ok.injEq,
    eq_comm (a := plan)]

/-- The host's own addresses are accepted where they are all of the family, the gateway's only if there is one. -/
lemma localBinding_eq_ok_some {c : ConnectCommand} {family : IpFamily} {binding : LocalBinding} (hne : c.localIp ≠ "")
    (hown : address family "local_ip" c.localIp = .ok binding.address)
    (hmask : address family "subnet_mask" c.subnetMask = .ok binding.subnetMask)
    (hgateway : if c.gateway = "" then binding.gateway = none
      else ∃ gateway, address family "gateway" c.gateway = .ok gateway ∧ binding.gateway = some gateway) :
    c.localBinding family = .ok (some binding) := by
  obtain ⟨own, subnetMask, gateway⟩ := binding
  rw [localBinding, if_neg hne]
  by_cases hempty : c.gateway = ""
  · rw [if_pos hempty] at hgateway
    subst hgateway
    simp only [hown, hmask, hempty, if_true]
    rfl
  · rw [if_neg hempty] at hgateway
    obtain ⟨ip, haddress, rfl⟩ := hgateway
    simp only [hown, hmask, hempty, if_false, haddress]
    rfl

end ConnectCommand

namespace Attempt

variable {a : Attempt} {address : String}

lemma Names.ne_empty {value : String} (h : a.Names value) : value ≠ "" := by
  rintro rfl
  have hnone : a.ipMode.parseAddress? "" = none := by cases a.ipMode <;> decide
  rw [Names, hnone] at h
  cases h

/-- What stands in a field of an attempt whose IP mode is a family is an address of the family to connect over. -/
lemma Names.address_eq_ok {value : String} (h : a.Names value) (hmode : a.ipMode ≠ .autoconfig)
    (address field : String) :
    ∃ ip, IpAddress.parse? value = some ip ∧
      ConnectCommand.address (ConnectCommand.familyOf a.ipMode address) field value = .ok ip := by
  obtain ⟨ip, hread⟩ := Option.isSome_iff_exists.mp h
  obtain ⟨hparse, hadmits⟩ := IpMode.parseAddress?_eq_some_iff.mp hread
  exact ⟨ip, hparse, ConnectCommand.address_eq_ok_iff.mpr ⟨hparse, (IpMode.familyOf_eq_of_ne hmode hadmits).symm⟩⟩

/-- The address that an enabled attempt is connected at is one of its IP mode, and fits the command. -/
lemma Valid.reached (valid : a.Valid) (enabled : a.enabled = true) (reached : a.ReachedAt address) :
    Fits Limits.targetAddress address ∧ ∃ ip, IpAddress.parse? address = some ip ∧ a.ipMode.admits ip = true := by
  unfold ReachedAt at reached
  split at reached
  · obtain ⟨ip, hadmits, rfl⟩ := reached
    exact ⟨ip.fits_text (by decide), ip, ip.parse?_text, hadmits⟩
  · rename_i hdns
    subst reached
    have hnames := valid.target (Bool.eq_false_iff.mpr hdns) (valid.targetAddress enabled)
    obtain ⟨ip, hread⟩ := Option.isSome_iff_exists.mp hnames
    exact ⟨valid.storable.targetAddress, ip, IpMode.parseAddress?_eq_some_iff.mp hread⟩

end Attempt

namespace ConnectCommand

variable {a : Attempt} {address : String}

lemma family_ofAttempt : (ofAttempt a address).family = .ok (familyOf a.ipMode address) := by
  unfold family ofAttempt
  cases familyOf a.ipMode address <;> rfl

lemma fits_empty (capacity : Nat) : Fits capacity "" := ⟨Nat.zero_le _, by decide⟩

lemma fits_ite_empty {capacity : Nat} {condition : Bool} {s : String} (h : Fits capacity s) :
    Fits capacity (if condition then "" else s) := by
  cases condition with
  | false => exact h
  | true => exact fits_empty capacity

lemma checkCapacities_ofAttempt (valid : a.Valid) (haddress : Fits Limits.targetAddress address) :
    (ofAttempt a address).checkCapacities = .ok () := by
  have fits := valid.storable
  exact checkCapacities_eq_ok_iff.mpr ⟨fits.transportType, fits.subsystemNqn, haddress,
    fits_ite_empty (a.hostId.fits_text (by decide)), fits_empty _, fits_ite_empty fits.localIp,
    fits_ite_empty fits.subnetMask, fits_ite_empty fits.gateway, fits.hostNqn⟩

lemma hostId_ofAttempt (defaults : HostDefaults) :
    (ofAttempt a address).hostId defaults = .ok (if a.hostId.isNil then defaults.hostId else a.hostId) := by
  unfold hostId ofAttempt
  cases a.hostId.isNil with
  | true => rfl
  | false => simp [Uuid.text_ne_empty, Uuid.parse?_text]

lemma effectiveHostNqn_ofAttempt (valid : a.Valid) (defaults : HostDefaults) (id : Uuid) :
    (ofAttempt a address).effectiveHostNqn defaults id =
      if a.useHostNqn then a.hostNqn
      else if a.hostId.isNil ∧ defaults.hostNqn ≠ "" then defaults.hostNqn
      else Limits.hostNqnStem ++ id.text := by
  have hidentity : (ofAttempt a address).hostIdentity = "" ↔ a.hostId.isNil = true := by
    unfold ofAttempt
    cases a.hostId.isNil with
    | true => simp
    | false => simp [Uuid.text_ne_empty]
  have hnamed : (ofAttempt a address).useHostNqn = true ∧ (ofAttempt a address).hostNqn ≠ "" ↔ a.useHostNqn = true :=
    ⟨And.left, fun h => ⟨h, valid.hostNqn h⟩⟩
  simp only [effectiveHostNqn, hidentity, hnamed]
  rfl

/-- The command of an attempt with addresses of its own has them in its plan, one without has none. -/
lemma localBinding_ofAttempt (valid : a.Valid) (address : String) : ∃ binding : Option LocalBinding,
    (ofAttempt a address).localBinding (familyOf a.ipMode address) = .ok binding ∧ (binding = none ↔ a.dhcp = true) ∧
      ∀ own, binding = some own → own.Follows a := by
  by_cases hdhcp : a.dhcp = true
  · refine ⟨none, ?_, ?_, ?_⟩
    · simp [localBinding, ofAttempt, hdhcp]
    · simp [hdhcp]
    · intro own h
      cases h
  · have hstatic := Bool.eq_false_iff.mpr hdhcp
    have hmode : a.ipMode ≠ .autoconfig := fun h => hdhcp (valid.dhcp h)
    have hnames := valid.localIp hstatic
    obtain ⟨own, hown, hown'⟩ := hnames.address_eq_ok hmode address "local_ip"
    obtain ⟨mask, hmask, hmask'⟩ := (valid.subnetMask hstatic).address_eq_ok hmode address "subnet_mask"
    have hgateway : ∃ gateway : Option IpAddress, (if a.gateway = "" then gateway = none
        else ∃ ip, ConnectCommand.address (familyOf a.ipMode address) "gateway" a.gateway = .ok ip ∧ gateway = some ip) ∧
        gateway = (if a.gateway = "" then none else IpAddress.parse? a.gateway) ∧ (gateway = none ↔ a.gateway = "") := by
      by_cases hempty : a.gateway = ""
      · exact ⟨none, by simp [hempty]⟩
      · obtain ⟨ip, hparse, hip⟩ := (valid.gateway hstatic hempty).address_eq_ok hmode address "gateway"
        exact ⟨some ip, by simp [hempty, hip, hparse]⟩
    obtain ⟨gateway, hgateway, hread, hnone⟩ := hgateway
    refine ⟨some { address := own, subnetMask := mask, gateway }, ?_, by simp [hstatic], ?_⟩
    · apply localBinding_eq_ok_some <;> simp only [ofAttempt, hstatic, Bool.false_eq_true, if_false]
      · exact hnames.ne_empty
      · exact hown'
      · exact hmask'
      · exact hgateway
    · rintro _ ⟨⟩
      exact ⟨hown, hmask, hread, hnone⟩

end ConnectCommand

/-- An attempt that the rules accept, enabled and reached at an address of its mode, is accepted as a command, and the
plan is the one that the attempt asks for. This holds of every enabled attempt of a store in particular. -/
theorem accepted_attempt_planned {a : Attempt} {address : String}
    (accepted : (∃ taken, a.check taken = .ok ()) ∨ ∃ store, AttemptStore.Reachable store ∧ a ∈ store.attempts)
    (enabled : a.enabled = true) (reached : a.ReachedAt address) (defaults : HostDefaults)
    (keepAliveTimeoutMs : UInt64) :
    ∃ plan, (ConnectCommand.ofAttempt a address).plan defaults keepAliveTimeoutMs = .ok plan ∧
      plan.Follows a address defaults keepAliveTimeoutMs := by
  have valid : a.Valid := by
    rcases accepted with ⟨taken, h⟩ | ⟨store, reachable, hmem⟩
    · exact (Attempt.check_eq_ok_iff.mp h).2
    · exact reachable.sound.valid a hmem
  obtain ⟨hfits, ip, hparse, hadmits⟩ := valid.reached enabled reached
  obtain ⟨kind, hkind⟩ := Option.isSome_iff_exists.mp valid.kind
  obtain ⟨binding, hbinding, hnone, hown⟩ := ConnectCommand.localBinding_ofAttempt valid address
  have hcapacities := ConnectCommand.checkCapacities_ofAttempt valid hfits
  have htransport : (ConnectCommand.ofAttempt a address).transportKind = .ok kind := by
    simp [ConnectCommand.transportKind, ConnectCommand.ofAttempt, hkind]
  have htarget : ConnectCommand.address (ConnectCommand.familyOf a.ipMode address) "target_address" address = .ok ip :=
    ConnectCommand.address_eq_ok_iff.mpr ⟨hparse, (IpMode.familyOf_eq hparse hadmits).symm⟩
  have htimeout : a.connectTimeoutMs ≠ 0 := by
    intro h
    have hmin := valid.le_connectTimeout
    rw [h] at hmin
    exact absurd hmin (by decide)
  refine ⟨_, ConnectCommand.plan_eq_ok_iff.mpr ⟨hcapacities, kind, htransport, valid.subsystemNqn enabled, _,
    ConnectCommand.family_ofAttempt, ip, htarget, valid.targetPort enabled, htimeout, valid.retryCount_le, binding,
    hbinding, _, ConnectCommand.hostId_ofAttempt defaults, rfl⟩, ?_⟩
  exact {
    kind := hkind
    address := hparse
    port := rfl
    subsystemNqn := rfl
    retryCount := rfl
    connectTimeoutMs := rfl
    attempt := rfl
    local_eq_none_iff := hnone
    static := hown
    hostId := rfl
    hostNqn := ConnectCommand.effectiveHostNqn_ofAttempt valid defaults _
    mac := rfl
    keepAliveTimeoutMs := rfl }

/-- An attempt with addresses of its own and a target that is found by name. -/
def namedAttempt : Attempt where
  name := "boot1"
  enabled := true
  dhcp := false
  ipMode := .ipv6
  localIp := "2001:db8::2"
  subnetMask := "ffff:ffff:ffff:ffff::"
  gateway := "2001:db8::1"
  targetAddress := "storage.example"
  subsystemNqn := "nvmet-test"
  dnsMode := true

/-- Where its target is found. -/
def namedTarget : IpAddress := .v6 ⟨#v[0x2001, 0xdb8, 0, 0, 0, 0, 0, 0x29]⟩

theorem accepted_attempt_planned_named : namedAttempt.check [] = .ok () ∧ namedTarget.text = "2001:db8::29" ∧
    ∃ plan, (ConnectCommand.ofAttempt namedAttempt namedTarget.text).plan {} 10000 = .ok plan ∧
      plan.Follows namedAttempt namedTarget.text {} 10000 := by
  have hcheck : namedAttempt.check [] = .ok () := by decide +kernel
  have reached : namedAttempt.ReachedAt namedTarget.text := by
    rw [Attempt.ReachedAt, if_pos (show namedAttempt.dnsMode = true from rfl)]
    exact ⟨namedTarget, rfl, rfl⟩
  exact ⟨hcheck, by decide +kernel, accepted_attempt_planned (.inl ⟨[], hcheck⟩) rfl reached {} 10000⟩

end FabricHost
