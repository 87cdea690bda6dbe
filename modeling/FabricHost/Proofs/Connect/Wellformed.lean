import FabricHost.AttemptStore.Basic
import FabricHost.Proofs.Connect.Plan

/-!
# Plans are well formed

What a plan hands to the handshake was checked, with one exception. The host's name is the command's own, which was
checked, one made from an identifier, which always fits, or the default, which is taken as it is. A default that can be
stored fits; one that was only set in memory need not.
-/

namespace FabricHost

/-- All addresses of a binding. -/
def LocalBinding.addresses (binding : LocalBinding) : List IpAddress :=
  binding.address :: binding.subnetMask :: binding.gateway.toList

/-- What every plan over addresses of a family is made of, but for what the host's name looks like. -/
structure ConnectPlan.Checked (plan : ConnectPlan) (family : IpFamily) : Prop where
  subsystemNqn_ne_empty : plan.params.subsystemNqn ≠ ""
  subsystemNqn_fits : Fits Limits.nqn plan.params.subsystemNqn
  hostNqn_ne_empty : plan.params.hostNqn ≠ ""
  port_ne_zero : plan.params.target.port ≠ 0
  timeout_ne_zero : plan.connectTimeoutMs ≠ 0
  retryCount_le : plan.retryCount ≤ Limits.maxRetryCount
  target : plan.params.target.address.family = family
  binding : ∀ binding, plan.params.local? = some binding → ∀ address ∈ binding.addresses, address.family = family

/-- Both names are such as a handshake can carry. -/
structure ConnectPlan.WellFormed (plan : ConnectPlan) (family : IpFamily) : Prop extends plan.Checked family where
  hostNqn_fits : Fits Limits.nqn plan.params.hostNqn

namespace ConnectCommand

variable {c : ConnectCommand} {defaults : HostDefaults} {family : IpFamily}

/-- The host goes by its default name: the command neither has a name of its own to use nor gives an identifier. -/
def TakesDefault (c : ConnectCommand) (defaults : HostDefaults) : Prop :=
  ¬(c.useHostNqn = true ∧ c.hostNqn ≠ "") ∧ c.hostIdentity = "" ∧ defaults.hostNqn ≠ ""

lemma effectiveHostNqn_of_takesDefault (h : c.TakesDefault defaults) (id : Uuid) :
    c.effectiveHostNqn defaults id = defaults.hostNqn := by
  rw [effectiveHostNqn, if_neg h.1, if_pos h.2]

/-- A name made from an identifier fits. -/
lemma fits_identified (id : Uuid) : Fits Limits.nqn (Limits.hostNqnStem ++ id.text) := by
  obtain ⟨hsize, hnul⟩ := id.fits_text (Nat.le_refl 36)
  constructor
  · have hstem : Limits.hostNqnStem.utf8ByteSize = 32 := by decide
    have hlimit : Limits.nqn = 224 := rfl
    rw [String.utf8ByteSize_append]
    omega
  · rw [String.toList_append, List.mem_append]
    exact fun h => h.elim (by decide) hnul

lemma effectiveHostNqn_ne_empty (id : Uuid) : c.effectiveHostNqn defaults id ≠ "" := by
  unfold effectiveHostNqn
  split
  · rename_i hown
    exact hown.2
  · split
    · rename_i hdefault
      exact hdefault.2
    · intro h
      have hlist := congrArg String.toList h
      rw [String.toList_append] at hlist
      exact absurd (List.append_eq_nil_iff.mp hlist).1 (by decide)

/-- Whether the host's name fits is up to the default, where that is taken. -/
lemma fits_effectiveHostNqn_iff (hown : Fits Limits.nqn c.hostNqn) (id : Uuid) :
    Fits Limits.nqn (c.effectiveHostNqn defaults id) ↔ (c.TakesDefault defaults → Fits Limits.nqn defaults.hostNqn) := by
  by_cases htakes : c.TakesDefault defaults
  · rw [effectiveHostNqn_of_takesDefault htakes]
    exact ⟨fun hfits _ => hfits, fun hfits => hfits htakes⟩
  · refine iff_of_true ?_ fun h => absurd h htakes
    unfold effectiveHostNqn
    split
    · exact hown
    · rename_i hnamed
      rw [if_neg fun hdefault => htakes ⟨hnamed, hdefault⟩]
      exact fits_identified id

lemma ipMode_of_family (h : c.family = .ok family) : c.ipMode = familyByte family := by
  unfold ConnectCommand.family at h
  split at h
  · cases h
    assumption
  · split at h
    · cases h
      assumption
    · cases h

/-- The host's own addresses are of the family that they were read in. -/
lemma family_of_localBinding {binding : LocalBinding} (h : c.localBinding family = .ok (some binding)) :
    ∀ address ∈ binding.addresses, address.family = family := by
  unfold localBinding at h
  split at h
  · cases h
  · obtain ⟨own, hown, h⟩ := bind_eq_ok_iff.mp h
    obtain ⟨mask, hmask, h⟩ := bind_eq_ok_iff.mp h
    have hfirst : ∀ address ∈ [own, mask], address.family = family := by
      simp only [List.forall_mem_cons, List.not_mem_nil, false_implies, implies_true, and_true]
      exact ⟨(address_eq_ok_iff.mp hown).2, (address_eq_ok_iff.mp hmask).2⟩
    split at h
    · cases h
      exact hfirst
    · obtain ⟨gateway, hgateway, h⟩ := bind_eq_ok_iff.mp h
      cases h
      obtain ⟨ip, hip, heq⟩ := map_eq_ok_iff.mp hgateway
      cases heq
      intro address hmem
      have hall : address ∈ [own, mask] ++ [ip] := hmem
      rcases List.mem_append.mp hall with hmem | hmem
      · exact hfirst address hmem
      · rw [List.mem_singleton.mp hmem]
        exact (address_eq_ok_iff.mp hip).2

end ConnectCommand

/-- A plan is well formed over the family that its command names, exactly if the host's default name fits or is not what
the host goes by; all else of a plan always is. In particular it is where the defaults can be stored. -/
theorem planned_wellFormed_iff {c : ConnectCommand} {defaults : HostDefaults} {keepAliveTimeoutMs : UInt64}
    {plan : ConnectPlan} (h : c.plan defaults keepAliveTimeoutMs = .ok plan) :
    ∃ family, c.ipMode = ConnectCommand.familyByte family ∧ plan.Checked family ∧
      (plan.WellFormed family ↔ (c.TakesDefault defaults → Fits Limits.nqn defaults.hostNqn)) ∧
      ∀ image, defaults.encode = .ok image → plan.WellFormed family := by
  obtain ⟨hcapacities, kind, -, hsubsystem, family, hfamily, target, htarget, hport, htimeout, hretries, binding, hbinding,
    id, -, heq⟩ := ConnectCommand.plan_eq_ok_iff.mp h
  obtain ⟨-, hfits, -, -, -, -, -, -, hown⟩ := ConnectCommand.checkCapacities_eq_ok_iff.mp hcapacities
  have hchecked : plan.Checked family := by
    subst heq
    exact {
      subsystemNqn_ne_empty := hsubsystem
      subsystemNqn_fits := hfits
      hostNqn_ne_empty := ConnectCommand.effectiveHostNqn_ne_empty id
      port_ne_zero := hport
      timeout_ne_zero := htimeout
      retryCount_le := hretries
      target := (ConnectCommand.address_eq_ok_iff.mp htarget).2
      binding := fun own hsome => ConnectCommand.family_of_localBinding (hbinding.trans (congrArg Except.ok hsome)) }
  have hname : Fits Limits.nqn plan.params.hostNqn ↔ (c.TakesDefault defaults → Fits Limits.nqn defaults.hostNqn) := by
    subst heq
    exact ConnectCommand.fits_effectiveHostNqn_iff hown id
  refine ⟨family, ConnectCommand.ipMode_of_family hfamily, hchecked, ?_, fun image hstored => ?_⟩
  · exact ⟨fun hformed => hname.mp hformed.hostNqn_fits, fun hdefault => ⟨hchecked, hname.mpr hdefault⟩⟩
  · exact ⟨hchecked, hname.mpr fun _ => (defaults.encodes_iff.mp ⟨image, hstored⟩).hostNqn⟩

/-- A command over version 4 with addresses of its own. -/
def ConnectCommand.static : ConnectCommand where
  targetAddress := "10.0.0.1"
  subsystemNqn := "nqn.2014-08.example:disk"
  localIp := "10.0.0.9"
  subnetMask := "255.255.255.0"
  gateway := "10.0.0.254"

/-- The defaults of a new store after the host was given a name. -/
def HostDefaults.named (name : String) : HostDefaults :=
  ((AttemptStore.fresh .nil).updateDefaults fun defaults => { defaults with hostNqn := name }).defaults

lemma exists_ok_of_toOption {ε α β : Type} {result : Except ε α} {view : α → β} {value : β}
    (h : result.toOption.map view = some value) : ∃ a, result = .ok a ∧ view a = value := by
  cases result with
  | error => cases h
  | ok a => exact ⟨a, rfl, Option.some.inj h⟩

/-- The host's default name is handed on, and the plan is well formed. -/
theorem planned_wellFormed_static : ∃ plan,
    ConnectCommand.static.plan (.named "nqn.2014-08.example:host") 10000 = .ok plan ∧
      plan.params.hostNqn = "nqn.2014-08.example:host" ∧ plan.params.local?.isSome = true ∧ plan.WellFormed .v4 := by
  have hplanned : (ConnectCommand.static.plan (.named "nqn.2014-08.example:host") 10000).toOption.map
      (fun plan => (plan.params.hostNqn, plan.params.local?.isSome)) = some ("nqn.2014-08.example:host", true) := by
    decide +kernel
  obtain ⟨plan, hplan, hparts⟩ := exists_ok_of_toOption hplanned
  obtain ⟨hhost, hlocal⟩ := Prod.mk.inj hparts
  obtain ⟨family, hfamily, -, hformed, -⟩ := planned_wellFormed_iff hplan
  have hv4 : family = .v4 := by
    cases family with
    | v4 => rfl
    | v6 => exact absurd hfamily (by decide)
  subst hv4
  exact ⟨plan, hplan, hhost, hlocal, hformed.mpr fun _ => by decide +kernel⟩

/-- A default name with a NUL is handed on in a plan, whose host name then does not fit. -/
theorem planned_unfit_default : ∃ plan, ConnectCommand.static.plan (.named "nqn.host\x00tail") 10000 = .ok plan ∧
    ¬Fits Limits.nqn plan.params.hostNqn := by
  have hplanned : (ConnectCommand.static.plan (.named "nqn.host\x00tail") 10000).toOption.map
      (fun plan => plan.params.hostNqn) = some "nqn.host\x00tail" := by decide +kernel
  obtain ⟨plan, hplan, hhost⟩ := exists_ok_of_toOption hplanned
  refine ⟨plan, hplan, ?_⟩
  rw [hhost]
  decide +kernel

end FabricHost
