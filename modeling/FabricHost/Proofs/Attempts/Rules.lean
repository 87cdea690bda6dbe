import FabricHost.Attempt.Rules
import FabricHost.Proofs.Record.Layout

/-!
# What the rules for attempts let through

An attempt is accepted exactly when it is valid by itself and its name is not taken. In particular a valid attempt can
be stored.
-/

namespace FabricHost.Attempt

/-- Whether an address text is one of the attempt's IP mode. -/
def Names (a : Attempt) (value : String) : Prop := (a.ipMode.parseAddress? value).isSome = true

/-- The rules that an attempt keeps whatever names are taken. -/
structure Valid (a : Attempt) : Prop where
  storable : a.Storable
  name_ne_empty : a.name ≠ ""
  name_chars : a.name.toList.all isNameChar = true
  kind : (FabricKind.parse? a.transportType).isSome = true
  retryCount_le : a.retryCount ≤ Limits.maxRetryCount
  le_connectTimeout : Limits.minConnectTimeoutMs ≤ a.connectTimeoutMs
  connectTimeout_le : a.connectTimeoutMs ≤ Limits.maxConnectTimeoutMs
  subsystemNqn : a.enabled = true → a.subsystemNqn ≠ ""
  targetAddress : a.enabled = true → a.targetAddress ≠ ""
  targetPort : a.enabled = true → a.targetPort ≠ 0
  target : a.dnsMode = false → a.targetAddress ≠ "" → a.Names a.targetAddress
  dhcp : a.ipMode = .autoconfig → a.dhcp = true
  localIp : a.dhcp = false → a.Names a.localIp
  subnetMask : a.dhcp = false → a.Names a.subnetMask
  gateway : a.dhcp = false → a.gateway ≠ "" → a.Names a.gateway
  hostNqn : a.useHostNqn = true → a.hostNqn ≠ ""
  securityKey : a.auth = .chap → a.securityKeyPath ≠ ""

variable {a : Attempt} {taken : List String}

lemma checkAddress_eq_ok_iff {field value : String} : a.checkAddress field value = .ok () ↔ a.Names value :=
  require_eq_ok_iff

lemma checkName_eq_ok_iff {name : String} : checkName name = .ok () ↔
    name ≠ "" ∧ Fits Limits.attemptName name ∧ name.toList.all isNameChar = true := by
  simp only [checkName, rules_bind_eq_ok_iff, require_eq_ok_iff, mapError_eq_ok_iff, checkCapacity_eq_ok_iff]

lemma checkCapacities_eq_ok_iff : a.checkCapacities = .ok () ↔
    Fits Limits.transportType a.transportType ∧ Fits Limits.ipText a.localIp ∧ Fits Limits.ipText a.subnetMask ∧
      Fits Limits.ipText a.gateway ∧ Fits Limits.targetAddress a.targetAddress ∧ Fits Limits.nqn a.subsystemNqn ∧
      Fits Limits.nqn a.hostNqn ∧ Fits Limits.keyPath a.securityKeyPath := by
  simp only [checkCapacities, rules_bind_eq_ok_iff, mapError_eq_ok_iff, checkCapacity_eq_ok_iff]

lemma checkConnection_eq_ok_iff : a.checkConnection = .ok () ↔
    (FabricKind.parse? a.transportType).isSome = true ∧ a.retryCount ≤ Limits.maxRetryCount ∧
      (Limits.minConnectTimeoutMs ≤ a.connectTimeoutMs ∧ a.connectTimeoutMs ≤ Limits.maxConnectTimeoutMs) ∧
      (a.enabled = true → a.subsystemNqn ≠ "") ∧ (a.enabled = true → a.targetAddress ≠ "") ∧
      (a.enabled = true → a.targetPort ≠ 0) := by
  simp only [checkConnection, rules_bind_eq_ok_iff, require_eq_ok_iff]

lemma checkIdentity_eq_ok_iff : a.checkIdentity = .ok () ↔
    (a.useHostNqn = true → a.hostNqn ≠ "") ∧ (a.auth = .chap → a.securityKeyPath ≠ "") := by
  simp only [checkIdentity, rules_bind_eq_ok_iff, require_eq_ok_iff]

lemma checkAddresses_eq_ok_iff : a.checkAddresses = .ok () ↔
    (a.dnsMode = false → a.targetAddress ≠ "" → a.Names a.targetAddress) ∧ (a.ipMode = .autoconfig → a.dhcp = true) ∧
      (a.dhcp = false → a.Names a.localIp ∧ a.Names a.subnetMask ∧ (a.gateway ≠ "" → a.Names a.gateway)) := by
  simp only [checkAddresses, conditional_bind_eq_ok_iff, conditional_eq_ok_iff, rules_bind_eq_ok_iff,
    require_eq_ok_iff, checkAddress_eq_ok_iff, Bool.and_eq_true, Bool.not_eq_true', decide_eq_true_eq, and_imp]

/-- The check accepts exactly the valid attempts whose names are not taken. -/
theorem check_eq_ok_iff : a.check taken = .ok () ↔ a.name ∉ taken ∧ a.Valid := by
  simp only [check, rules_bind_eq_ok_iff, require_eq_ok_iff, checkName_eq_ok_iff, checkCapacities_eq_ok_iff,
    checkConnection_eq_ok_iff, checkAddresses_eq_ok_iff, checkIdentity_eq_ok_iff]
  constructor
  · rintro ⟨⟨hname, hfits, hchars⟩, htaken, ⟨htype, hlocal, hmask, hgateway, htarget, hnqn, hhost, hkey⟩,
      ⟨hkind, hretry, ⟨hmin, hmax⟩, hsub, haddress, hport⟩, ⟨hnamed, hdhcp, hown⟩, ⟨hnqn', hkey'⟩⟩
    exact ⟨htaken, {
      storable := ⟨hfits, hlocal, hmask, hgateway, htype, htarget, hnqn, hhost, hkey⟩
      name_ne_empty := hname
      name_chars := hchars
      kind := hkind
      retryCount_le := hretry
      le_connectTimeout := hmin
      connectTimeout_le := hmax
      subsystemNqn := hsub
      targetAddress := haddress
      targetPort := hport
      target := hnamed
      dhcp := hdhcp
      localIp := fun h => (hown h).1
      subnetMask := fun h => (hown h).2.1
      gateway := fun h => (hown h).2.2
      hostNqn := hnqn'
      securityKey := hkey' }⟩
  · rintro ⟨htaken, valid⟩
    have fits := valid.storable
    exact ⟨⟨valid.name_ne_empty, fits.name, valid.name_chars⟩, htaken,
      ⟨fits.transportType, fits.localIp, fits.subnetMask, fits.gateway, fits.targetAddress, fits.subsystemNqn,
        fits.hostNqn, fits.securityKeyPath⟩,
      ⟨valid.kind, valid.retryCount_le, ⟨valid.le_connectTimeout, valid.connectTimeout_le⟩, valid.subsystemNqn,
        valid.targetAddress, valid.targetPort⟩,
      ⟨valid.target, valid.dhcp, fun h => ⟨valid.localIp h, valid.subnetMask h, valid.gateway h⟩⟩,
      ⟨valid.hostNqn, valid.securityKey⟩⟩

end FabricHost.Attempt
