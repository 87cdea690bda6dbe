import FabricHost.Proofs.Host.Registry

/-!
# The ways of a connect

A connect is refused before any handshake, fails in the handshake, or gets a controller and goes on with it. With a
controller in hand it fails to create an I/O queue pair, finds no free key, or registers a session; that the registry
refuses the session cannot happen.
-/

namespace FabricHost

/-- The errors of a connect that gets no controller. -/
inductive HostError.OfDialling : HostError → Prop
  | refused (error : ParameterError) : OfDialling (.invalidParameter error)
  | full (limit : Nat) : OfDialling (.outOfResources (.sessions limit))
  | unreachable (error : ReachError) : OfDialling (.transportUnreachable error)
  | late : OfDialling .timeout

/-- They are neither about a key in use nor about keys having run out. -/
lemma HostError.OfDialling.notAboutKeys {error : HostError} (h : error.OfDialling) :
    (∀ key, error ≠ .duplicateSession key) ∧ ∀ target, error ≠ .outOfResources (.keys target) := by
  cases h <;> simp

lemma HostError.OfDialling.ne_exhausted {α : Type} {error : HostError} (h : error.OfDialling) :
    (.error error : Except HostError α) ≠ .error .pollsExhausted := by
  cases h <;> nofun

/-- A session as a connect builds it. -/
def Session.Opened {C Q : Type} (session : Session C Q) : Prop :=
  ∃ (plan : ConnectPlan) (association : Association C Q) (io : Q) (timer : KeepAliveTimer),
    session = Host.newSession plan association io session.key timer

namespace Host

variable {W C Q : Type} [Fabric W C Q]

lemma handshake_error {plan : ConnectPlan} {pauseMs retries : Nat} {world : W} {error : HostError}
    (h : (handshake (C := C) (Q := Q) plan pauseMs retries world).1 = .error error) : error.OfDialling := by
  induction retries generalizing world with
  | zero =>
    unfold handshake at h
    split at h
    · cases h
    · split at h
      · rename_i hzero _ _
        cases hzero
      · cases h
        exact .unreachable _
      · cases h
        exact .late
  | succ retries ih =>
    unfold handshake at h
    split at h
    · cases h
    · exact ih h

/-- Of all handshakes that are made, only the last can bring a controller. Those before it were only tried. -/
lemma handshake_leaves (Tried : W → W → Prop) (Brings : Association C Q → W → W → Prop) (plan : ConnectPlan)
    (pauseMs : Nat)
    (hconnected : ∀ {world association world'}, Fabric.connect plan.params plan.connectTimeoutMs.toNat world =
      (.connected association, world') → Brings association world world')
    (hother : ∀ {world outcome world'}, Fabric.connect plan.params plan.connectTimeoutMs.toNat world = (outcome, world') →
      (∀ association, outcome ≠ .connected association) → Tried world world')
    (hwait : ∀ {first second}, Tried first second → Tried first (Fabric.wait pauseMs second))
    (htrans : ∀ {first second third}, Tried first second → Tried second third → Tried first third)
    (hbrings : ∀ {first second association third}, Tried first second → Brings association second third →
      Brings association first third) (retries : Nat) (world : W) :
    (∀ error world', handshake plan pauseMs retries world = (.error error, world') → Tried world world') ∧
      ∀ association world', handshake plan pauseMs retries world = (.ok association, world') →
        Brings association world world' := by
  induction retries generalizing world with
  | zero =>
    unfold handshake
    rcases heq : Fabric.connect plan.params plan.connectTimeoutMs.toNat world with ⟨_ | _ | _, world'⟩
    · exact ⟨fun _ _ h => (by cases h), fun _ _ h => (by cases h; exact hconnected heq)⟩
    all_goals exact ⟨fun _ _ h => (by cases h; exact hother heq (by simp)), fun _ _ h => (by cases h)⟩
  | succ retries ih =>
    unfold handshake
    rcases heq : Fabric.connect plan.params plan.connectTimeoutMs.toNat world with ⟨_ | _ | _, world'⟩
    · exact ⟨fun _ _ h => (by cases h), fun _ _ h => (by cases h; exact hconnected heq)⟩
    all_goals
      have hwaited := hwait (hother heq (by simp))
      obtain ⟨hfail, hdone⟩ := ih (Fabric.wait pauseMs world')
      exact ⟨fun error last h => htrans hwaited (hfail error last h),
        fun association last h => hbrings hwaited (hdone association last h)⟩

variable [Clock W]

/-- What registering does with a controller and what is made of it. -/
lemma register_cases {host : Host C Q} (hroom : host.registry.isFull = false) (plan : ConnectPlan)
    (association : Association C Q) (world : W) :
    (∃ failure controller world',
      Fabric.createIoQueue association.controller host.config.ioQueueDepth world = (.error failure, controller, world') ∧
        host.register plan association world =
          (.error (.ofFailure failure), host, Fabric.releaseController controller world')) ∨
      ∃ io controller world',
        Fabric.createIoQueue association.controller host.config.ioQueueDepth world = (.ok io, controller, world') ∧
          (SessionKey.variants ≤ host.registry.keys.length ∧ host.register plan association world =
              (.error (.outOfResources (.keys plan.params.target)), host,
                Fabric.releaseController controller (QueuePairs.release io world')) ∨
            ∃ key timer, key ∉ host.registry.keys ∧
              timer = KeepAliveTimer.start (Clock.now world').1 host.config.keepAliveInterval ∧
              host.register plan association world = (.ok key,
                { host with registry := { host.registry with sessions :=
                  host.registry.sessions ++ [newSession plan { association with controller } io key timer] } },
                (Clock.now world').2)) := by
  unfold register
  rcases hcreate : Fabric.createIoQueue association.controller host.config.ioQueueDepth world with
    ⟨failure | io, controller, world'⟩
  · exact .inl ⟨failure, controller, world', rfl, rfl⟩
  · refine .inr ⟨io, controller, world', rfl, ?_⟩
    simp only
    split
    · rename_i hnone
      refine .inl ⟨?_, rfl⟩
      exact SessionKey.variants_le_of_firstFree?_eq_none (fun key => (Registry.contains_iff _ key).mp) hnone
    · rename_i key hkey
      have hfree := SessionKey.derive?_eq_some hkey
      have hnew : key ∉ host.registry.keys := by
        rw [← Registry.contains_iff, hfree]
        exact Bool.false_ne_true
      right
      refine ⟨key, _, hnew, rfl, ?_⟩
      have hinsert : ∀ session : Session C Q, session.key = key → host.registry.insert session =
          .ok { host.registry with sessions := host.registry.sessions ++ [session] } := by
        intro session hsession
        unfold Registry.insert
        rw [hsession, hfree, hroom]
        rfl
      rw [hinsert _ rfl]

/-- How a connect comes to its answer. -/
lemma connect_cases (host : Host C Q) (command : ConnectCommand) (defaults : HostDefaults) (world : W) :
    (∃ error, error.OfDialling ∧ host.connect command defaults world = (.error error, host, world)) ∨
      ∃ plan : ConnectPlan, host.registry.isFull = false ∧
        ((∃ error world', handshake plan host.config.connectRetryDelayMs plan.retryCount.toNat world =
              (.error error, world') ∧
            host.connect command defaults world = (.error error, host, world')) ∨
          ∃ association world', handshake plan host.config.connectRetryDelayMs plan.retryCount.toNat world =
              (.ok association, world') ∧
            host.connect command defaults world = host.register plan association world') := by
  unfold connect
  split
  · exact .inl ⟨_, .refused _, rfl⟩
  · rename_i plan _
    split
    · exact .inl ⟨_, .refused _, rfl⟩
    · split
      · exact .inl ⟨_, .full _, rfl⟩
      · rename_i hroom
        refine .inr ⟨plan, by simpa using hroom, ?_⟩
        split
        · rename_i error world' heq
          exact .inl ⟨error, world', heq, rfl⟩
        · rename_i association world' heq
          exact .inr ⟨association, world', heq, rfl⟩

omit [Clock W] in
lemma resolve_cases (attempt : Attempt) (world : W) :
    (∃ error, error.OfDialling ∧
        resolve attempt world = (.error error, (Fabric.resolve attempt.targetAddress world).2)) ∨
      ∃ address, resolve attempt world = (.ok address, (Fabric.resolve attempt.targetAddress world).2) := by
  unfold resolve
  rcases Fabric.resolve attempt.targetAddress world with ⟨reason | addresses, world'⟩
  · exact .inl ⟨_, .unreachable (.unresolved attempt.targetAddress reason), rfl⟩
  · simp only
    split
    · rename_i address _
      exact .inr ⟨address, rfl⟩
    · exact .inl ⟨_, .unreachable (.noAddressOfMode attempt.targetAddress attempt.ipMode), rfl⟩

/-- Connecting an attempt is connecting by a command, once its target's name is resolved. -/
lemma connectAttempt_cases (host : Host C Q) (attempt : Attempt) (defaults : HostDefaults) (world : W) :
    ∃ world', (world' = world ∨ ∃ name, world' = (Fabric.resolve name world).2) ∧
      ((∃ error, error.OfDialling ∧ host.connectAttempt attempt defaults world = (.error error, host, world')) ∨
        ∃ command, host.connectAttempt attempt defaults world = host.connect command defaults world') := by
  unfold connectAttempt
  split
  · exact ⟨world, .inl rfl, .inl ⟨_, .refused _, rfl⟩⟩
  · split
    · refine ⟨(Fabric.resolve attempt.targetAddress world).2, .inr ⟨_, rfl⟩, ?_⟩
      rcases resolve_cases attempt world with ⟨error, hother, heq⟩ | ⟨address, heq⟩
      · rw [heq]
        exact .inl ⟨error, hother, rfl⟩
      · rw [heq]
        exact .inr ⟨_, rfl⟩
    · exact ⟨world, .inl rfl, .inr ⟨_, rfl⟩⟩

end Host

end FabricHost
