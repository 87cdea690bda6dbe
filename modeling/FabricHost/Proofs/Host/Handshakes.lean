import FabricHost.Loopback.Network
import FabricHost.Proofs.Connect.Plan
import FabricHost.Proofs.Host.Connecting
import FabricHost.Proofs.Host.Views
import Mathlib.Logic.Function.Iterate

/-!
# How many handshakes a connect makes

A dialled fabric notes down every handshake that is made. A connect that is refused makes none; any other makes one after
another, with a pause between each two, until one succeeds or there are no retries left, and then the last of them is the
one to blame.
-/

namespace FabricHost

/-- A handshake that was made. -/
structure Dial (C Q : Type) where
  params : HandshakeParams
  timeoutMs : Nat
  outcome : HandshakeOutcome C Q

/-- A world with the handshakes that were made in it. -/
structure Dialled (W C Q : Type) where
  world : W
  dials : List (Dial C Q) := []

namespace Dialled

variable {W C Q : Type}

instance [Clock W] : Clock (Dialled W C Q) where
  now dialled :=
    let (tick, world) := Clock.now dialled.world
    (tick, { dialled with world })

instance [QueuePairs W Q] : QueuePairs (Dialled W C Q) Q where
  submit queue command dialled :=
    let (answer, queue, world) := QueuePairs.submit queue command dialled.world
    (answer, queue, { dialled with world })
  process queue limit dialled :=
    let (answer, queue, world) := QueuePairs.process queue limit dialled.world
    (answer, queue, { dialled with world })
  outstanding queue dialled := QueuePairs.outstanding queue dialled.world
  release queue dialled := { dialled with world := QueuePairs.release queue dialled.world }

variable [Fabric W C Q]

instance : Fabric (Dialled W C Q) C Q where
  name dialled := Fabric.name dialled.world
  supports kind dialled := Fabric.supports kind dialled.world
  resolve host dialled :=
    let (answer, world) := Fabric.resolve host dialled.world
    (answer, { dialled with world })
  connect params timeoutMs dialled :=
    let (outcome, world) := Fabric.connect params timeoutMs dialled.world
    (outcome, { world, dials := dialled.dials ++ [⟨params, timeoutMs, outcome⟩] })
  wait ms dialled := { dialled with world := Fabric.wait ms dialled.world }
  createIoQueue controller depth dialled :=
    let (answer, controller, world) := Fabric.createIoQueue controller depth dialled.world
    (answer, controller, { dialled with world })
  resetController controller dialled :=
    let (answer, controller, world) := Fabric.resetController controller dialled.world
    (answer, controller, { dialled with world })
  releaseController controller dialled :=
    { dialled with world := Fabric.releaseController controller dialled.world }

/-- The fabric whose handshakes are noted down. -/
def plain (W C Q : Type) [Fabric W C Q] [Clock W] : View (Dialled W C Q) C Q W C Q where
  world := Dialled.world
  controller := id
  queue := id
  now_eq _ := rfl
  submit_eq _ _ _ := rfl
  process_eq _ _ _ := rfl
  release_eq _ _ := rfl
  name_eq _ := rfl
  supports_eq _ _ := rfl
  resolve_eq _ _ := rfl
  connect_eq params timeoutMs dialled := by
    simp only [Fabric.connect]
    rcases Fabric.connect params timeoutMs dialled.world with ⟨_ | _ | _, world⟩ <;> rfl
  wait_eq _ _ := rfl
  createIoQueue_eq controller depth dialled := by
    simp only [Fabric.createIoQueue, id_eq]
    rcases Fabric.createIoQueue controller depth dialled.world with ⟨_ | _, controller, world⟩ <;> rfl
  resetController_eq _ _ := rfl
  releaseController_eq _ _ := rfl

end Dialled

namespace ConnectPlan

variable {W C Q : Type} [Fabric W C Q] (plan : ConnectPlan) (pauseMs : Nat) (world : W)

/-- The handshake that is made in a world, and the world after it. -/
def dial : HandshakeOutcome C Q × W := Fabric.connect plan.params plan.connectTimeoutMs.toNat world

/-- The world of the next handshake. -/
def redial : W := Fabric.wait pauseMs (plan.dial world).2

/-- The world of the handshake that follows `n` others. -/
def worldOf (n : Nat) : W := (plan.redial pauseMs)^[n] world

/-- The outcome of the handshake that follows `n` others. -/
def outcomeOf (n : Nat) : HandshakeOutcome C Q := (plan.dial (plan.worldOf pauseMs world n)).1

/-- The first `count` handshakes. -/
def dials (count : Nat) : List (Dial C Q) :=
  (List.range count).map fun n => ⟨plan.params, plan.connectTimeoutMs.toNat, plan.outcomeOf pauseMs world n⟩

end ConnectPlan

/-- A handshake that gives a controller. -/
def HandshakeOutcome.Succeeds {C Q : Type} (outcome : HandshakeOutcome C Q) : Prop :=
  ∃ association, outcome = .connected association

/-- What a connect is told when none of its handshakes gave a controller: how the last of them ended. -/
def HostError.Blames {C Q : Type} (error : HostError) (outcome : HandshakeOutcome C Q) : Prop :=
  outcome = .timedOut ∧ error = .timeout ∨
    ∃ failure reach, outcome = .failed failure ∧ error = .transportUnreachable reach ∧ reach.message = failure.message

namespace Host

variable {W C Q : Type} [Fabric W C Q] {plan : ConnectPlan} {pauseMs retries n : Nat} {world after : W}
  {association : Association C Q}

/-- A handshake that gives no controller is followed by another while there are retries. -/
lemma handshake_redials (h : ¬(plan.dial world).1.Succeeds) :
    handshake plan pauseMs (retries + 1) world = handshake plan pauseMs retries (plan.redial pauseMs world) := by
  rw [handshake, ConnectPlan.redial]
  rcases hdial : plan.dial world with ⟨association | failure | _, after⟩
  all_goals
    rw [hdial] at h
    rw [show Fabric.connect plan.params plan.connectTimeoutMs.toNat world = _ from hdial]
  exact absurd ⟨association, rfl⟩ h

lemma handshake_succeeds (hretries : n ≤ retries) (hearlier : ∀ k < n, ¬(plan.outcomeOf pauseMs world k).Succeeds)
    (h : plan.dial (plan.worldOf pauseMs world n) = (.connected association, after)) :
    handshake plan pauseMs retries world = (.ok association, after) := by
  induction n generalizing retries world with
  | zero =>
    have hdial : Fabric.connect plan.params plan.connectTimeoutMs.toNat world = (.connected association, after) := h
    rw [handshake, hdial]
  | succ n ih =>
    have hfirst : ¬(plan.dial world).1.Succeeds := hearlier 0 (Nat.succ_pos n)
    cases retries with
    | zero => cases hretries
    | succ retries =>
      rw [handshake_redials hfirst]
      exact ih (Nat.le_of_succ_le_succ hretries) (fun k hk => hearlier (k + 1) (Nat.succ_lt_succ hk)) h

lemma handshake_fails (hnone : ∀ k ≤ retries, ¬(plan.outcomeOf pauseMs world k).Succeeds) :
    ∃ error, handshake plan pauseMs retries world = (.error error, (plan.dial (plan.worldOf pauseMs world retries)).2) ∧
      error.Blames (plan.outcomeOf pauseMs world retries) := by
  induction retries generalizing world with
  | zero =>
    have hlast : ¬(plan.dial world).1.Succeeds := hnone 0 (Nat.le_refl 0)
    change ∃ error, handshake plan pauseMs 0 world = (.error error, (plan.dial world).2) ∧ error.Blames (plan.dial world).1
    rw [handshake]
    rcases hdial : plan.dial world with ⟨association | failure | _, after⟩
    all_goals
      rw [hdial] at hlast
      rw [show Fabric.connect plan.params plan.connectTimeoutMs.toNat world = _ from hdial]
    · exact absurd ⟨association, rfl⟩ hlast
    · exact ⟨_, rfl, .inr ⟨failure, _, rfl, rfl, rfl⟩⟩
    · exact ⟨_, rfl, .inl ⟨rfl, rfl⟩⟩
  | succ retries ih =>
    have hfirst : ¬(plan.dial world).1.Succeeds := hnone 0 (Nat.zero_le _)
    rw [handshake_redials hfirst]
    exact ih fun k hk => hnone (k + 1) (Nat.succ_le_succ hk)

variable [Clock W] (host : Host C Q) {command : ConnectCommand} {defaults : HostDefaults} (world : W)
  (hplan : command.plan defaults host.config.keepAliveTimeoutMs = .ok plan)
include hplan

/-- Nothing is tried over a fabric that does not carry the transport, nor by a host that has no room. -/
lemma connect_refused (h : Fabric.supports plan.params.kind world = false ∨ host.registry.isFull = true) :
    ∃ error, host.connect command defaults world = (.error error, host, world) := by
  simp only [connect, hplan]
  cases hsupports : Fabric.supports plan.params.kind world with
  | false => exact ⟨_, rfl⟩
  | true =>
    have hfull : host.registry.isFull = true := h.resolve_left (by rw [hsupports]; exact Bool.noConfusion)
    simp only [hfull]
    exact ⟨_, rfl⟩

section

variable (hsupports : Fabric.supports plan.params.kind world = true) (hroom : host.registry.isFull = false)
include hsupports hroom

/-- A connect that is not refused fails as its handshakes do. -/
lemma connect_fails {error : HostError} (h : handshake (C := C) (Q := Q) plan host.config.connectRetryDelayMs
    plan.retryCount.toNat world = (.error error, after)) :
    host.connect command defaults world = (.error error, host, after) := by
  simp only [connect, hplan, hsupports, hroom, h, Bool.not_true, Bool.false_eq_true, if_false]

/-- A connect registers what its handshakes gave. -/
lemma connect_registers (h : handshake plan host.config.connectRetryDelayMs plan.retryCount.toNat world =
    (.ok association, after)) : host.connect command defaults world = host.register plan association after := by
  simp only [connect, hplan, hsupports, hroom, h, Bool.not_true, Bool.false_eq_true, if_false]

end

end Host

namespace ConnectPlan

variable {W C Q : Type} [Fabric W C Q] (plan : ConnectPlan) (pauseMs : Nat) (world : W)

@[simp]
lemma length_dials (count : Nat) : (plan.dials pauseMs world count).length = count := by simp [dials]

lemma dials_succ (count : Nat) : plan.dials pauseMs world (count + 1) =
    plan.dials pauseMs world count ++
      [⟨plan.params, plan.connectTimeoutMs.toNat, plan.outcomeOf pauseMs world count⟩] := by
  rw [dials, List.range_succ, List.map_append]
  rfl

lemma worldOf_dialled (n : Nat) : plan.worldOf pauseMs (⟨world, []⟩ : Dialled W C Q) n =
    ⟨plan.worldOf pauseMs world n, plan.dials pauseMs world n⟩ := by
  induction n with
  | zero => rfl
  | succ n ih =>
    unfold worldOf at ih ⊢
    rw [Function.iterate_succ_apply', ih, Function.iterate_succ_apply', dials_succ]
    rfl

lemma dial_dialled (n : Nat) : plan.dial (plan.worldOf pauseMs (⟨world, []⟩ : Dialled W C Q) n) =
    (plan.outcomeOf pauseMs world n,
      ⟨(plan.dial (plan.worldOf pauseMs world n)).2, plan.dials pauseMs world (n + 1)⟩) := by
  rw [worldOf_dialled, dials_succ]
  rfl

lemma outcomeOf_dialled (n : Nat) :
    plan.outcomeOf pauseMs (⟨world, []⟩ : Dialled W C Q) n = plan.outcomeOf pauseMs world n :=
  congrArg Prod.fst (plan.dial_dialled pauseMs world n)

end ConnectPlan

namespace Dialled

variable {W C Q : Type} [Fabric W C Q] [Clock W]

lemma host_plain (host : Host C Q) : (plain W C Q).blur.host host = host := by
  have hsession : (plain W C Q).blur.session = id := by
    funext session
    obtain ⟨_, _, _, io⟩ := session
    cases io <;> rfl
  simp only [Blur.host, Blur.registry, hsession, List.map_id]

/-- Noting down handshakes does not change what a connect does. -/
lemma connect_plain (host : Host C Q) (command : ConnectCommand) (defaults : HostDefaults) (world : W) :
    host.connect command defaults world =
      (host.connect command defaults (⟨world, []⟩ : Dialled W C Q)).map id (Prod.map id Dialled.world) := by
  have hview := (plain W C Q).blur.host_connect host ⟨world, []⟩ command defaults
  rw [host_plain, show (plain W C Q).blur.host = id from funext host_plain] at hview
  exact hview

/-- Registering makes no handshake. -/
lemma register_dials {host : Host C Q} (hroom : host.registry.isFull = false) (plan : ConnectPlan)
    (association : Association C Q) (dialled : Dialled W C Q) :
    (host.register plan association dialled).2.2.dials = dialled.dials := by
  have hcreate : ∀ {answer controller dialled'},
      Fabric.createIoQueue association.controller host.config.ioQueueDepth dialled = (answer, controller, dialled') →
        dialled'.dials = dialled.dials := fun h => (congrArg (·.2.2.dials) h).symm
  rcases Host.register_cases hroom plan association dialled with
    ⟨failure, controller, dialled', h, heq⟩ | ⟨io, controller, dialled', h, ⟨-, heq⟩ | ⟨key, timer, -, -, heq⟩⟩
  all_goals
    have hdials := hcreate h
    rw [heq]
    exact hdials

end Dialled

/-- A connect that is refused makes no handshake and leaves everything as it was. Any other makes handshakes up to the
first that succeeds, and registers what that gave; or as many as it may, if none succeeds, and then the answer is how the
last of them ended, and no session is registered. Noting the handshakes down does not change the connect. -/
theorem handshake_discipline {W C Q : Type} [Fabric W C Q] [Clock W] (host : Host C Q) (command : ConnectCommand)
    (defaults : HostDefaults) (world : W) :
    let result := host.connect command defaults world
    let dialled := host.connect command defaults (⟨world, []⟩ : Dialled W C Q)
    let pauseMs := host.config.connectRetryDelayMs
    let retries := command.retryCount.toNat
    result = (dialled.1, dialled.2.1, dialled.2.2.world) ∧
      (∀ error, command.plan defaults host.config.keepAliveTimeoutMs = .error error →
        dialled.2.2.dials = [] ∧ result = (.error (.invalidParameter error), host, world)) ∧
      ∀ plan, command.plan defaults host.config.keepAliveTimeoutMs = .ok plan →
        (Fabric.supports plan.params.kind world = false ∨ host.registry.isFull = true →
          dialled.2.2.dials = [] ∧ ∃ error, result = (.error error, host, world)) ∧
        (Fabric.supports plan.params.kind world = true → host.registry.isFull = false →
          (∀ n association after, n ≤ retries → (∀ k < n, ¬(plan.outcomeOf pauseMs world k).Succeeds) →
            plan.dial (plan.worldOf pauseMs world n) = (.connected association, after) →
            dialled.2.2.dials = plan.dials pauseMs world (n + 1) ∧ result = host.register plan association after) ∧
          ((∀ k ≤ retries, ¬(plan.outcomeOf pauseMs world k).Succeeds) →
            dialled.2.2.dials = plan.dials pauseMs world (retries + 1) ∧
              ∃ error last, result = (.error error, host, last) ∧
                error.Blames (plan.outcomeOf pauseMs world retries))) := by
  intro result dialled pauseMs retries
  refine ⟨Dialled.connect_plain host command defaults world, ?_, ?_⟩
  · intro error hplan
    simp only [result, dialled, Host.connect, hplan, and_self]
  · intro plan hplan
    have hretries : plan.retryCount.toNat = retries := by
      obtain ⟨-, -, -, -, -, -, -, -, -, -, -, -, -, -, -, rfl⟩ := ConnectCommand.plan_eq_ok_iff.mp hplan
      rfl
    constructor
    · intro hrefused
      obtain ⟨error, hdialled⟩ := host.connect_refused (⟨world, []⟩ : Dialled W C Q) hplan hrefused
      exact ⟨congrArg (·.2.2.dials) hdialled, host.connect_refused world hplan hrefused⟩
    · intro hsupports hroom
      rw [← hretries]
      constructor
      · intro n association after hn hearlier hdial
        have hearlier' : ∀ k < n, ¬(plan.outcomeOf pauseMs (⟨world, []⟩ : Dialled W C Q) k).Succeeds := by
          simpa only [plan.outcomeOf_dialled] using hearlier
        have hdial' : plan.dial (plan.worldOf pauseMs (⟨world, []⟩ : Dialled W C Q) n) =
            (.connected association, ⟨after, plan.dials pauseMs world (n + 1)⟩) := by
          rw [plan.dial_dialled, ConnectPlan.outcomeOf, hdial]
        have hdialled := host.connect_registers (⟨world, []⟩ : Dialled W C Q) hplan hsupports hroom
          (Host.handshake_succeeds hn hearlier' hdial')
        refine ⟨?_, host.connect_registers world hplan hsupports hroom (Host.handshake_succeeds hn hearlier hdial)⟩
        simp only [dialled, hdialled]
        exact Dialled.register_dials hroom plan association _
      · intro hnone
        have hnone' : ∀ k ≤ plan.retryCount.toNat,
            ¬(plan.outcomeOf pauseMs (⟨world, []⟩ : Dialled W C Q) k).Succeeds := by
          simpa only [plan.outcomeOf_dialled] using hnone
        obtain ⟨error, hfails, hblames⟩ := Host.handshake_fails hnone
        obtain ⟨error', hfails', -⟩ := Host.handshake_fails hnone'
        rw [plan.dial_dialled] at hfails'
        have hdialled := host.connect_fails (⟨world, []⟩ : Dialled W C Q) hplan hsupports hroom hfails'
        exact ⟨congrArg (·.2.2.dials) hdialled, error, _, host.connect_fails world hplan hsupports hroom hfails, hblames⟩

/-- A command for a target where nobody listens, with two retries. -/
def ConnectCommand.unanswered : ConnectCommand where
  targetAddress := "192.0.2.1"
  targetPort := 4420
  subsystemNqn := "nqn.2014-08.example:disk"
  retryCount := 2

/-- Three handshakes are made where nobody listens, and the last of them is to blame. -/
theorem handshake_discipline_unanswered :
    let host : Host LoopbackController LoopbackQueue := .ofConfig {}
    let dialled := host.connect .unanswered {} (⟨{}, []⟩ : Dialled Simulation LoopbackController LoopbackQueue)
    dialled.2.2.dials.length = 3 ∧ ∃ reach, dialled.1 = .error (.transportUnreachable reach) := by
  intro host dialled
  obtain ⟨hplain, -, haccepted⟩ := handshake_discipline host .unanswered {} ({} : Simulation)
  have hchecked : (ConnectCommand.unanswered.plan {} host.config.keepAliveTimeoutMs).isOk = true := by decide +kernel
  cases hplan : ConnectCommand.unanswered.plan {} host.config.keepAliveTimeoutMs with
  | error error =>
    rw [hplan] at hchecked
    cases hchecked
  | ok plan =>
    obtain ⟨-, hfails⟩ := (haccepted plan hplan).2 rfl rfl
    have hnone : ∀ k ≤ 2, ¬(plan.outcomeOf host.config.connectRetryDelayMs ({} : Simulation) k).Succeeds := by
      rintro k hk ⟨association, hsucceeds⟩
      match k, hk with
      | 0, _ => cases hsucceeds
      | 1, _ => cases hsucceeds
      | 2, _ => cases hsucceeds
    obtain ⟨hdials, error, last, hresult, ⟨htimedOut, -⟩ | ⟨failure, reach, -, rfl, -⟩⟩ := hfails hnone
    · cases htimedOut
    · have hlength := congrArg List.length hdials
      rw [ConnectPlan.length_dials] at hlength
      exact ⟨hlength, reach, (congrArg Prod.fst hplain).symm.trans (congrArg Prod.fst hresult)⟩

end FabricHost
