import FabricHost.Proofs.Host.Membership
import FabricHost.Proofs.Session.Lifecycle

/-!
# Invariants of sessions

What a new session has, and what steps, resets and re-establishing keep, every registered session has after any run. In
particular every registered session is settled.
-/

namespace FabricHost

variable {W C Q : Type} [Fabric W C Q] [Clock W]

/-- A property of sessions that new ones have and that is never lost. -/
structure Session.Kept (W : Type) {C Q : Type} [Fabric W C Q] [Clock W] (Holds : Session C Q → Prop) : Prop where
  opened : ∀ {session : Session C Q}, session.Opened → Holds session
  step : ∀ {own : SessionKey → RequestId → Prop} {sends : Command → Prop} {before after : Session C Q × W},
    Session.Step own sends before after → Holds before.1 → Holds after.1
  reset : ∀ {session : Session C Q} (world : W), Holds session → Holds (session.reset world).2.1
  reestablish : ∀ {session : Session C Q} (depth : UInt16) (world : W), Holds session →
    Holds (session.reestablish depth world).2.1

lemma Session.settled_kept : Session.Kept W (Session.Settled (C := C) (Q := Q)) where
  opened := by
    rintro session ⟨plan, association, io, timer, heq⟩
    rw [heq]
    exact .inl ⟨rfl, rfl⟩
  step h hsettled := h.settled hsettled
  reset world h := h.reset world
  reestablish depth world h := h.reestablish depth world

namespace Host

variable {Holds : Session C Q → Prop} {host : Host C Q}

lemma Steps.kept (hkept : Session.Kept W Holds) {own : SessionKey → RequestId → Prop} {sends : Command → Prop}
    {before after : Host C Q × W} (h : Steps own sends before after)
    (hall : ∀ session ∈ before.1.registry.sessions, Holds session) :
    ∀ session ∈ after.1.registry.sessions, Holds session := by
  induction h with
  | refl => exact hall
  | tail _ hstep ih =>
    cases hstep with
    | now => exact ih
    | number => exact ih
    | session hsplit h =>
      rw [hsplit] at ih
      intro session hsession
      rcases List.mem_append.mp hsession with hmem | hmem
      · exact ih session (List.mem_append_left _ hmem)
      · rcases List.mem_cons.mp hmem with rfl | hmem
        · exact hkept.step h (ih _ (by simp))
        · exact ih session (by simp [hmem])

omit [Fabric W C Q] [Clock W] in
lemma replace_kept {registry : Registry C Q} (session' : Session C Q) (hnew : Holds session')
    (hall : ∀ session ∈ registry.sessions, Holds session) :
    ∀ session ∈ (registry.replace session').sessions, Holds session := by
  intro session hsession
  obtain ⟨other, hother, rfl⟩ := List.mem_map.mp hsession
  split
  · exact hnew
  · exact hall other hother

omit [Fabric W C Q] [Clock W] in
lemma onSession_kept {α : Type} (key : SessionKey) (missing : HostError)
    {action : Session C Q → W → Except HostError α × Session C Q × W}
    (haction : ∀ session world, Holds session → Holds (action session world).2.1) (world : W)
    (hall : ∀ session ∈ host.registry.sessions, Holds session) :
    ∀ session ∈ (host.onSession key missing action world).2.1.registry.sessions, Holds session := by
  unfold onSession
  split
  · exact hall
  · rename_i found hfind
    have hnew := haction found world (hall found (List.mem_of_find?_eq_some hfind))
    exact replace_kept (action found world).2.1 hnew hall

omit [Fabric W C Q] [Clock W] in
lemma onLive_kept {α : Type} (key : SessionKey)
    {action : RequestId → Session C Q → W → Except HostError α × RequestId × Session C Q × W}
    (haction : ∀ last session world, Holds session → Holds (action last session world).2.2.1) (world : W)
    (hall : ∀ session ∈ host.registry.sessions, Holds session) :
    ∀ session ∈ (host.onLive key action world).2.1.registry.sessions, Holds session := by
  unfold onLive
  split
  · exact hall
  · rename_i found hfind
    split
    · have hnew := haction host.lastRequest found world (hall found (List.mem_of_find?_eq_some hfind))
      exact replace_kept (action host.lastRequest found world).2.2.1 hnew hall
    · exact hall

lemma connects_kept (hopened : ∀ {session : Session C Q}, session.Opened → Holds session)
    (hall : ∀ session ∈ host.registry.sessions, Holds session) {call : HostCall} (hconnects : call.connects) (world : W) :
    ∀ session ∈ (host.perform call world).2.1.registry.sessions, Holds session := by
  rcases host.perform_membership hconnects world with ⟨_, _, heq, -⟩ | ⟨opened, _, -, -, hnew, heq⟩
  · rw [heq]
    exact hall
  · rw [heq]
    intro session hsession
    rcases List.mem_append.mp hsession with hold | hlast
    · exact hall session hold
    · rw [List.mem_singleton.mp hlast]
      exact hopened hnew

lemma perform_kept (hkept : Session.Kept W Holds) (hnodup : host.registry.keys.Nodup)
    (hall : ∀ session ∈ host.registry.sessions, Holds session) (call : HostCall) (world : W) :
    ∀ session ∈ (host.perform call world).2.1.registry.sessions, Holds session := by
  cases call with
  | connect | connectAttempt => exact connects_kept hkept.opened hall rfl world
  | disconnect key =>
    simp only [perform, disconnect]
    split
    · exact hall
    · exact fun session hsession => hall session (List.mem_of_mem_eraseP hsession)
  | disconnectAll => exact fun session hsession => (List.not_mem_nil hsession).elim
  | reset key => exact onSession_kept key _ (fun _ world h => hkept.reset world h) world hall
  | reestablish key => exact onSession_kept key _ (fun _ world h => hkept.reestablish _ world h) world hall
  | _ => exact (perform_steps hnodup rfl world).kept hkept hall

omit [Fabric W C Q] [Clock W] in
lemma lastRequest_onSession {α : Type} (key : SessionKey) (missing : HostError)
    (action : Session C Q → W → Except HostError α × Session C Q × W) (world : W) :
    (host.onSession key missing action world).2.1.lastRequest = host.lastRequest := by
  unfold onSession
  split <;> rfl

lemma Steps.lastRequest {own : SessionKey → RequestId → Prop} {sends : Command → Prop} {before after : Host C Q × W}
    (h : Steps own sends before after) : before.1.lastRequest ≤ after.1.lastRequest := by
  induction h with
  | refl => exact Nat.le_refl _
  | tail _ hstep ih =>
    cases hstep with
    | now => exact ih
    | number _ hle => exact Nat.le_trans ih hle
    | session => exact ih

/-- Requests are numbered upwards. -/
lemma lastRequest_perform (hnodup : host.registry.keys.Nodup) (call : HostCall) (world : W) :
    host.lastRequest ≤ (host.perform call world).2.1.lastRequest := by
  have hconnect : ∀ call : HostCall, call.connects →
      host.lastRequest ≤ (host.perform call world).2.1.lastRequest := by
    intro call hconnects
    rcases host.perform_membership hconnects world with ⟨_, _, heq, -⟩ | ⟨_, _, -, -, -, heq⟩
    · exact Nat.le_of_eq (by rw [heq])
    · exact Nat.le_of_eq (by rw [heq])
  cases call with
  | connect | connectAttempt => exact hconnect _ rfl
  | disconnect key =>
    simp only [perform, disconnect]
    split <;> exact Nat.le_refl _
  | disconnectAll => exact Nat.le_refl _
  | reset key => exact Nat.le_of_eq (lastRequest_onSession key _ Session.reset world).symm
  | reestablish key =>
    exact Nat.le_of_eq
      (lastRequest_onSession key _ (fun session => session.reestablish host.config.ioQueueDepth) world).symm
  | _ => exact (perform_steps hnodup rfl world).lastRequest

/-- What is known of a host after a run: who is registered, and that these sessions are settled. -/
structure Sound (config : Config) (log : List (HostCall × HostAnswer)) (host : Host C Q) : Prop where
  enrolled : Enrolled config log host
  settled : ∀ session ∈ host.registry.sessions, session.Settled

namespace Sound

variable {config : Config} {log : List (HostCall × HostAnswer)}

lemma start (config : Config) : Sound config [] (Host.ofConfig config : Host C Q) :=
  ⟨.start config, fun _ hsession => (List.not_mem_nil hsession).elim⟩

lemma perform (h : Sound config log host) (call : HostCall) (world : W) :
    Sound config (log ++ [(call, (host.perform call world).1)]) (host.perform call world).2.1 :=
  ⟨h.enrolled.perform call world, perform_kept Session.settled_kept h.enrolled.nodup h.settled call world⟩

lemma run (h : Sound config log host) (world : W) (calls : List (HostCall × (W → W))) :
    Sound config (log ++ (host.run world calls).1) (host.run world calls).2.1 :=
  run_induction (fun log host _ => Sound config log host) (fun _ _ world call h => h.perform call world) calls
    (fun _ _ _ _ _ h => h) h

end Sound

/-- What is kept holds of all sessions after every run. -/
lemma run_kept (hkept : Session.Kept W Holds) (config : Config) (world : W) (calls : List (HostCall × (W → W))) :
    ∀ session ∈ ((Host.ofConfig config : Host C Q).run world calls).2.1.registry.sessions, Holds session := by
  refine (run_induction
    (fun log host _ => Sound config log host ∧ ∀ session ∈ host.registry.sessions, Holds session) ?_ calls
    (fun _ _ _ _ _ h => h) ⟨Sound.start config, fun _ hsession => (List.not_mem_nil hsession).elim⟩).2
  exact fun _ _ world call ⟨hsound, hall⟩ =>
    ⟨hsound.perform call world, perform_kept hkept hsound.enrolled.nodup hall call world⟩

end Host

end FabricHost
