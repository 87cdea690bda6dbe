import FabricHost.Proofs.Requests.Lifecycle

/-!
# Calls that fail

A connect or a disconnect that fails leaves the host as it was. So does a reset or a re-establishing, but for what the
fabric made of the controller of the session. A poll does not look at controllers, so requests that were outstanding
before are polled with the same answers after.
-/

namespace FabricHost

variable {W C Q : Type}

/-- The session with a change made to its controller. -/
def Session.withController (change : SessionKey → C → C) (session : Session C Q) : Session C Q :=
  { session with controller := change session.key session.controller }

/-- The host with changes made to the controllers of its sessions. -/
def Host.withControllers (change : SessionKey → C → C) (host : Host C Q) : Host C Q :=
  { host with registry := { host.registry with
    sessions := host.registry.sessions.map (Session.withController change) } }

/-- Polling looks at the I/O queue and at nothing else. -/
lemma Session.pollIo_withController [Fabric W C Q] (change : SessionKey → C → C) (session : Session C Q)
    (request : RequestId) (world : W) : (session.withController change).pollIo request world =
      (session.pollIo request world).map id (Prod.map (Session.withController change) id) := by
  have hio : (session.withController change).io = session.io := rfl
  unfold Session.pollIo
  rw [hio]
  rcases session.io with _ | io
  · rfl
  · simp only
    split
    · rfl
    · rcases io.reap world with ⟨_ | _, io, world⟩ <;> rfl

namespace Host

lemma withControllers_same (host : Host C Q) : host.withControllers (fun _ controller => controller) = host := by
  have hsame : Session.withController (fun _ controller => controller) = @id (Session C Q) := rfl
  rw [withControllers, hsame, List.map_id]

/-- A change of one controller is a change of controllers. -/
lemma withControllers_middle {host : Host C Q} {key : SessionKey} {before behind : List (Session C Q)}
    {session : Session C Q} (hsplit : host.registry.sessions = before ++ session :: behind) (hkey : session.key = key)
    (hothers : ∀ other ∈ before ++ behind, other.key ≠ key) (controller : C) :
    { host with registry := { host.registry with sessions := before ++ { session with controller } :: behind } } =
      host.withControllers (fun other kept => if other = key then controller else kept) := by
  have hsame : ∀ others : List (Session C Q), (∀ other ∈ others, other.key ≠ key) →
      others.map (Session.withController fun other kept => if other = key then controller else kept) = others := by
    intro others hothers
    refine (List.map_congr_left fun other hother => ?_).trans (List.map_id _)
    rw [Session.withController, if_neg (hothers other hother)]
    rfl
  have hbefore := hsame before fun other hother => hothers other (List.mem_append_left behind hother)
  have hbehind := hsame behind fun other hother => hothers other (List.mem_append_right before hother)
  rw [withControllers, hsplit, List.map_append, List.map_cons, hbefore, hbehind, Session.withController, if_pos hkey]

section

variable [Fabric W C Q] {host : Host C Q} (hnodup : host.registry.keys.Nodup) (key : SessionKey) {world : W}
  {error : HostError}
include hnodup

lemma reset_failed (h : (host.reset key world).1 = .error error) :
    ∃ change, (host.reset key world).2.1 = host.withControllers change := by
  unfold reset at h ⊢
  rcases onSession_cases hnodup key (.notFound (.session key)) Session.reset Session.reset_key world with
    ⟨-, heq⟩ | ⟨before, session, behind, hsplit, hkey, hothers, heq⟩
  · rw [heq]
    exact ⟨_, host.withControllers_same.symm⟩
  · rw [heq] at h ⊢
    rcases session.reset_cases world with ⟨_, controller, _, -, hreset⟩ | ⟨_, _, -, hreset⟩
    · rw [hreset]
      exact ⟨_, withControllers_middle hsplit hkey hothers controller⟩
    · rw [hreset] at h
      cases h

lemma reestablish_failed (hsettled : ∀ session ∈ host.registry.sessions, session.Settled)
    (h : (host.reestablish key world).1 = .error error) :
    ∃ change, (host.reestablish key world).2.1 = host.withControllers change := by
  unfold reestablish at h ⊢
  rcases onSession_cases hnodup key (.notFound (.session key)) (fun session => session.reestablish host.config.ioQueueDepth)
    (fun session world => session.reestablish_key _ world) world with
    ⟨-, heq⟩ | ⟨before, session, behind, hsplit, hkey, hothers, heq⟩
  · rw [heq]
    exact ⟨_, host.withControllers_same.symm⟩
  · rw [heq] at h ⊢
    rcases (hsettled session (by simp [hsplit])).reestablish_cases host.config.ioQueueDepth world with
      ⟨-, hdone⟩ | ⟨-, -, ⟨_, controller, _, -, hdone⟩ | ⟨_, _, _, -, hdone⟩⟩
    · rw [hdone] at h
      cases h
    · rw [hdone]
      exact ⟨_, withControllers_middle hsplit hkey hothers controller⟩
    · rw [hdone] at h
      cases h

end

section

variable (change : SessionKey → C → C) (host : Host C Q)

lemma find?_withControllers (key : SessionKey) :
    (host.withControllers change).registry.find? key =
      (host.registry.find? key).map (Session.withController change) := by
  simp only [withControllers, Registry.find?, List.find?_map]
  rfl

lemma replace_withControllers (session : Session C Q) :
    (host.withControllers change).registry.replace (session.withController change) =
      (({ host with registry := host.registry.replace session } : Host C Q).withControllers change).registry := by
  simp only [withControllers, Registry.replace, List.map_map, Registry.mk.injEq, true_and]
  refine List.map_congr_left fun other _ => ?_
  by_cases hkey : other.key = session.key
  · have hsame : (other.withController change).key = (session.withController change).key := hkey
    simp only [Function.comp_apply, if_pos hkey, if_pos hsame]
  · have hother : (other.withController change).key ≠ (session.withController change).key := hkey
    simp only [Function.comp_apply, if_neg hkey, if_neg hother]

variable [Fabric W C Q]

lemma poll_withControllers (handle : RequestHandle) (world : W) :
    (host.withControllers change).poll handle world =
      (host.poll handle world).map id (Prod.map (withControllers change) id) := by
  unfold poll onLive
  rw [find?_withControllers]
  rcases host.registry.find? handle.session with _ | session
  · rfl
  · have hstate : (session.withController change).state = session.state := rfl
    simp only [Option.map_some, hstate, session.pollIo_withController]
    split
    · simp only [Prod.map_fst, Prod.map_snd, replace_withControllers]
      rfl
    · rfl

variable [Clock W]

lemma run_polls_withControllers (polls : List (RequestHandle × (W → W))) (world : W) :
    (host.withControllers change).run world (polls.map fun poll => (.poll poll.1, poll.2)) =
      (host.run world (polls.map fun poll => (.poll poll.1, poll.2))).map id (Prod.map (withControllers change) id) := by
  induction polls generalizing host world with
  | nil => rfl
  | cons poll rest ih =>
    simp only [List.map_cons, run, perform, poll_withControllers, Prod.map_fst, Prod.map_snd, id_eq, ih]
    rfl

end

variable [Fabric W C Q] [Clock W] {host : Host C Q} {call : HostCall} {world : W} {error : HostError}

/-- A connect or a disconnect that fails does nothing to the host. -/
lemma perform_failed (hnodup : host.registry.keys.Nodup) (htraffic : call.isTraffic = false)
    (hreset : ∀ key, call ≠ .reset key ∧ call ≠ .reestablish key)
    (h : (host.perform call world).1.error? = some error) : (host.perform call world).2.1 = host := by
  have hconnecting : call.connects → (host.perform call world).2.1 = host := by
    intro hconnects
    rcases host.perform_membership hconnects world with ⟨_, _, heq, -⟩ | ⟨_, _, -, -, -, heq⟩
    · rw [heq]
    · rw [heq] at h
      cases h
  cases call with
  | connect | connectAttempt => exact hconnecting rfl
  | disconnect key =>
    rcases disconnect_cases hnodup key world with ⟨-, heq⟩ | ⟨_, _, _, -, -, -, heq⟩
    · exact congrArg (·.2.1) heq
    · rw [perform, heq] at h
      cases h
  | disconnectAll => cases h
  | reset key => exact ((hreset key).1 rfl).elim
  | reestablish key => exact ((hreset key).2 rfl).elim
  | _ => cases htraffic

lemma perform_failed_withControllers (hnodup : host.registry.keys.Nodup)
    (hsettled : ∀ session ∈ host.registry.sessions, session.Settled) (htraffic : call.isTraffic = false)
    (h : (host.perform call world).1.error? = some error) :
    ∃ change, (host.perform call world).2.1 = host.withControllers change := by
  have herror : ∀ {result : Except HostError Unit}, (HostAnswer.done result).error? = some error → result = .error error := by
    rintro (_ | _) ⟨⟩
    rfl
  by_cases hreset : ∀ key, call ≠ .reset key ∧ call ≠ .reestablish key
  · exact ⟨_, (perform_failed hnodup htraffic hreset h).trans host.withControllers_same.symm⟩
  · obtain ⟨key, hkey⟩ := not_forall.mp hreset
    by_cases hcall : call = .reset key
    · subst hcall
      exact reset_failed hnodup key (herror h)
    · have hcall' : call = .reestablish key := by
        by_contra hother
        exact hkey ⟨hcall, hother⟩
      subst hcall'
      exact reestablish_failed hnodup key hsettled (herror h)

end Host

/-- After any run, a connect, disconnect, reset or re-establishing that fails leaves the host as it was, but for what the
fabric made of the controller in the last two cases. Any polls after it bring the same as they would without it. -/
theorem failed_calls_keep_sessions [Fabric W C Q] [Clock W] (config : Config) (world : W)
    (calls : List (HostCall × (W → W))) (call : HostCall) (htraffic : call.isTraffic = false) (now : W) (error : HostError) :
    let host := ((Host.ofConfig config : Host C Q).run world calls).2.1
    let failed := host.perform call now
    failed.1.error? = some error →
      ((∀ key, call ≠ .reset key ∧ call ≠ .reestablish key) → failed.2.1 = host) ∧
        ∃ change, failed.2.1 = host.withControllers change ∧
          ∀ (later : W) (polls : List (RequestHandle × (W → W))),
            failed.2.1.run later (polls.map fun poll => (.poll poll.1, poll.2)) =
              (host.run later (polls.map fun poll => (.poll poll.1, poll.2))).map id
                (Prod.map (Host.withControllers change) id) := by
  intro host failed h
  have sound : Host.Sound config _ host := (Host.Sound.start config).run world calls
  obtain ⟨change, hchange⟩ := Host.perform_failed_withControllers sound.enrolled.nodup sound.settled htraffic h
  refine ⟨fun hreset => Host.perform_failed sound.enrolled.nodup htraffic hreset h, change, hchange, ?_⟩
  intro later polls
  rw [hchange]
  exact host.run_polls_withControllers change polls later

/-- A host has submitted a read. -/
def Simulation.reading : List (HostCall × HostAnswer) × Host LoopbackController LoopbackQueue × Simulation :=
  (Host.ofConfig {}).run Simulation.single [(Simulation.connectSingle, id), (.submitRead Simulation.singleKey ⟨1, 0, 1⟩, id)]

/-- Resets fail on the network of that host. -/
def Simulation.refused : HostAnswer × Host LoopbackController LoopbackQueue × Simulation :=
  Simulation.reading.2.1.perform (.reset Simulation.singleKey) { Simulation.reading.2.2 with
    net := Simulation.reading.2.2.net.configure fun behavior => { behavior with failReset := true } }

def Simulation.readPoll : HostCall × (Simulation → Simulation) := (.poll ⟨Simulation.singleKey, 2, .read⟩, id)

set_option maxRecDepth 10000 in
/-- The data of an outstanding read comes with the next poll, though a reset failed before it. -/
theorem failed_reset_simulated :
    Simulation.refused.1.error? = some (.ofFailure (.queueFailed "controller reset failed")) ∧
      (Simulation.refused.2.1.run Simulation.refused.2.2 [Simulation.readPoll]).1 =
        (Simulation.reading.2.1.run Simulation.refused.2.2 [Simulation.readPoll]).1 ∧
      (Simulation.reading.2.1.run Simulation.refused.2.2 [Simulation.readPoll]).1.map Prod.snd =
        [.polled (.ok (some { request := 2, data := some (List.replicate 512 0) }))] := by
  obtain ⟨herror, hdata⟩ :
      Simulation.refused.1.error? = some (.ofFailure (.queueFailed "controller reset failed")) ∧
        (Simulation.reading.2.1.run Simulation.refused.2.2 [Simulation.readPoll]).1.map Prod.snd =
          [.polled (.ok (some { request := 2, data := some (List.replicate 512 0) }))] := by decide +kernel
  obtain ⟨-, change, -, hpolls⟩ := failed_calls_keep_sessions {} Simulation.single
    [(Simulation.connectSingle, id), (.submitRead Simulation.singleKey ⟨1, 0, 1⟩, id)]
    (.reset Simulation.singleKey) rfl { Simulation.reading.2.2 with
      net := Simulation.reading.2.2.net.configure fun behavior => { behavior with failReset := true } } _ herror
  have hsame := congrArg Prod.fst (hpolls Simulation.refused.2.2 [(⟨Simulation.singleKey, 2, .read⟩, id)])
  rw [Prod.map_fst, id_eq] at hsame
  exact ⟨herror, hsame, hdata⟩

end FabricHost
