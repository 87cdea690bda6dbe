import FabricHost.Proofs.Host.Calls
import FabricHost.Proofs.Session.Views
import Mathlib.Data.List.Forall2

/-!
# Hosts in view

What a host answers does not depend on what a view leaves out or blurs, and what it does is seen through the view as what
the host in view does. So a fabric that only notes down what happens does not change a run.
-/

namespace FabricHost

namespace Blur

variable {W' C' Q' W C Q : Type} [Fabric W' C' Q'] [Clock W'] [Fabric W C Q] [Clock W] (blur : Blur W' C' Q' W C Q)

@[simps]
def registry (registry : Registry C' Q') : Registry C Q where
  limit := registry.limit
  sessions := registry.sessions.map blur.session

@[simps]
def host (host : Host C' Q') : Host C Q where
  config := host.config
  registry := blur.registry host.registry
  lastRequest := host.lastRequest

section

variable (registry : Registry C' Q') (key : SessionKey) (session : Session C' Q')

lemma registry_find? : (blur.registry registry).find? key = (registry.find? key).map blur.session := by
  simp only [Registry.find?, Blur.registry, List.find?_map]
  rfl

lemma registry_contains : (blur.registry registry).contains = registry.contains := by
  funext key
  rw [Registry.contains, blur.registry_find?, Option.isSome_map]
  rfl

lemma registry_isFull : (blur.registry registry).isFull = registry.isFull := by
  simp only [Registry.isFull, Registry.size, Blur.registry, List.length_map]
  rfl

lemma registry_insert :
    (blur.registry registry).insert (blur.session session) = (registry.insert session).map blur.registry := by
  unfold Registry.insert
  rw [blur.registry_contains, blur.registry_isFull, blur.session_key]
  split
  · rfl
  · split
    · rfl
    · simp [Blur.registry, Except.map]

lemma registry_erase : (blur.registry registry).erase key = blur.registry (registry.erase key) := by
  simp only [Registry.erase, Blur.registry, List.eraseP_map]
  rfl

lemma registry_replace :
    (blur.registry registry).replace (blur.session session) = blur.registry (registry.replace session) := by
  simp only [Registry.replace, Blur.registry, List.map_map, Registry.mk.injEq, true_and]
  refine List.map_congr_left fun other _ => ?_
  simp only [Function.comp_apply, blur.session_key]
  split <;> rfl

end

variable (host : Host C' Q') (key : SessionKey) (world : W') {α : Type}

lemma host_onSession (missing : HostError) {action : Session C Q → W → Except HostError α × Session C Q × W}
    {action' : Session C' Q' → W' → Except HostError α × Session C' Q' × W'}
    (haction : ∀ session world, action (blur.session session) (blur.world world) =
      (action' session world).map id (Prod.map blur.session blur.world)) :
    (blur.host host).onSession key missing action (blur.world world) =
      (host.onSession key missing action' world).map id (Prod.map blur.host blur.world) := by
  unfold Host.onSession
  rw [blur.host_registry, blur.registry_find?]
  cases host.registry.find? key with
  | none => rfl
  | some session =>
    simp only [Option.map_some, haction, Prod.map_fst, Prod.map_snd, blur.registry_replace]
    rfl

lemma host_onLive {action : RequestId → Session C Q → W → Except HostError α × RequestId × Session C Q × W}
    (action' : RequestId → Session C' Q' → W' → Except HostError α × RequestId × Session C' Q' × W')
    (haction : ∀ last session world, action last (blur.session session) (blur.world world) =
      (action' last session world).map id (Prod.map id (Prod.map blur.session blur.world))) :
    (blur.host host).onLive key action (blur.world world) =
      (host.onLive key action' world).map id (Prod.map blur.host blur.world) := by
  unfold Host.onLive
  rw [blur.host_registry, blur.registry_find?]
  cases host.registry.find? key with
  | none => rfl
  | some session =>
    simp only [Option.map_some, blur.session_state, blur.host_lastRequest]
    split
    · simp only [haction, Prod.map_fst, Prod.map_snd, blur.registry_replace]
      rfl
    · rfl

def association (association : Association C' Q') : Association C Q := association.map blur.controller blur.queue

lemma host_handshake (plan : ConnectPlan) (pauseMs retries : Nat) :
    Host.handshake plan pauseMs retries (blur.world world) =
      (Host.handshake plan pauseMs retries world).map (Except.map blur.association) blur.world := by
  induction retries generalizing world with
  | zero =>
    unfold Host.handshake
    rw [blur.connect_eq]
    rcases Fabric.connect plan.params plan.connectTimeoutMs.toNat world with ⟨_ | _ | _, world⟩ <;> rfl
  | succ retries ih =>
    unfold Host.handshake
    rw [blur.connect_eq]
    rcases Fabric.connect plan.params plan.connectTimeoutMs.toNat world with ⟨_ | _ | _, world⟩
    · rfl
    · have hrest := ih (Fabric.wait pauseMs world)
      rw [← blur.wait_eq] at hrest
      exact hrest
    · have hrest := ih (Fabric.wait pauseMs world)
      rw [← blur.wait_eq] at hrest
      exact hrest

lemma host_register (plan : ConnectPlan) (association : Association C' Q') :
    (blur.host host).register plan (blur.association association) (blur.world world) =
      (host.register plan association world).map id (Prod.map blur.host blur.world) := by
  have hcontroller : (blur.association association).controller = blur.controller association.controller := rfl
  unfold Host.register
  rw [hcontroller, blur.host_config, blur.host_registry, blur.createIoQueue_eq, blur.registry_contains]
  rcases Fabric.createIoQueue association.controller host.config.ioQueueDepth world with ⟨_ | io, controller, world⟩
  · exact Prod.ext rfl (Prod.ext rfl (blur.releaseController_eq controller world))
  · simp only [Prod.map_apply, Except.map]
    split
    · simp only [blur.release_eq, blur.releaseController_eq]
      rfl
    · rename_i key _
      simp only [blur.now_eq]
      generalize KeepAliveTimer.start (Clock.now world).1 host.config.keepAliveInterval = timer
      have hsession : Host.newSession plan { blur.association association with controller := blur.controller controller }
          (blur.queue io) key timer =
            blur.session (Host.newSession plan { association with controller } io key timer) := rfl
      rw [hsession, blur.registry_insert]
      rcases host.registry.insert (Host.newSession plan { association with controller } io key timer) with _ | registry
      · exact Prod.ext rfl (Prod.ext rfl (blur.session_release _ _))
      · rfl

lemma host_connect (command : ConnectCommand) (defaults : HostDefaults) :
    (blur.host host).connect command defaults (blur.world world) =
      (host.connect command defaults world).map id (Prod.map blur.host blur.world) := by
  unfold Host.connect
  rw [blur.host_config, blur.host_registry, blur.registry_isFull, blur.name_eq, blur.registry_limit]
  split
  · rfl
  · rename_i plan _
    rw [blur.supports_eq, blur.host_handshake]
    split
    · rfl
    · split
      · rfl
      · rcases Host.handshake plan host.config.connectRetryDelayMs plan.retryCount.toNat world with
          ⟨_ | association, world⟩
        · rfl
        · exact blur.host_register host world plan association

lemma host_resolve (attempt : Attempt) :
    Host.resolve attempt (blur.world world) = (Host.resolve attempt world).map id blur.world := by
  unfold Host.resolve
  rw [blur.resolve_eq]
  rcases Fabric.resolve attempt.targetAddress world with ⟨_ | addresses, world⟩
  · rfl
  · simp only [Prod.map_apply, id_eq]
    split <;> rfl

lemma host_connectAttempt (attempt : Attempt) (defaults : HostDefaults) :
    (blur.host host).connectAttempt attempt defaults (blur.world world) =
      (host.connectAttempt attempt defaults world).map id (Prod.map blur.host blur.world) := by
  unfold Host.connectAttempt
  rw [blur.host_resolve]
  split
  · rfl
  · split
    · rcases Host.resolve attempt world with ⟨_ | address, world⟩
      · rfl
      · exact blur.host_connect host world _ defaults
    · exact blur.host_connect host world _ defaults

lemma host_disconnect : (blur.host host).disconnect key (blur.world world) =
    (host.disconnect key world).map id (Prod.map blur.host blur.world) := by
  unfold Host.disconnect
  rw [blur.host_registry, blur.registry_find?]
  cases host.registry.find? key with
  | none => rfl
  | some session =>
    simp only [Option.map_some, blur.session_release, blur.registry_erase]
    rfl

lemma host_disconnectAll : (blur.host host).disconnectAll (blur.world world) =
    (host.disconnectAll world).map id (Prod.map blur.host blur.world) := by
  have hrelease : ∀ sessions : List (Session C' Q'), (sessions.map blur.session).foldr Session.release (blur.world world) =
      blur.world (sessions.foldr Session.release world) := by
    intro sessions
    induction sessions with
    | nil => rfl
    | cons session rest ih => rw [List.map_cons, List.foldr_cons, List.foldr_cons, ih, blur.session_release]
  have hsize : (blur.host host).registry.size = host.registry.size := List.length_map _
  unfold Host.disconnectAll
  rw [hsize]
  exact Prod.ext rfl (Prod.ext rfl (hrelease host.registry.sessions))

lemma host_keepAlivePass (now : Tick) (sessions : List (Session C' Q')) (report : KeepAliveReport) :
    Host.keepAlivePass now (sessions.map blur.session) report (blur.world world) =
      (Host.keepAlivePass now sessions report world).map id (Prod.map (List.map blur.session) blur.world) := by
  induction sessions generalizing report world with
  | nil => rfl
  | cons session rest ih =>
    simp only [List.map_cons, Host.keepAlivePass, blur.session_keepAlivePass, Prod.map_fst, Prod.map_snd, id_eq, ih]
    rfl

lemma host_tickAt (now : Tick) : (blur.host host).tickAt now (blur.world world) =
    (host.tickAt now world).map id (Prod.map blur.host blur.world) := by
  unfold Host.tickAt
  rw [blur.host_registry, blur.registry_sessions, blur.host_keepAlivePass]
  rfl

lemma host_abandon (handle : RequestHandle) :
    (blur.host host).abandon handle = (host.abandon handle).map id blur.host := by
  unfold Host.abandon
  rw [blur.host_registry, blur.registry_find?]
  cases host.registry.find? handle.session with
  | none => rfl
  | some session =>
    simp only [Option.map_some, blur.session_abandonIo, Prod.map_fst, Prod.map_snd, blur.registry_replace]
    rfl

lemma host_read (range : BlockRange) (buffer : Bytes) : (blur.host host).read key range buffer (blur.world world) =
    (host.read key range buffer world).map id (Prod.map blur.host blur.world) := by
  unfold Host.read
  rw [blur.now_eq]
  exact blur.host_onLive host key _ _ fun last session world => blur.session_read session _ world _ last range buffer

lemma host_write (range : BlockRange) (data : Bytes) : (blur.host host).write key range data (blur.world world) =
    (host.write key range data world).map id (Prod.map blur.host blur.world) := by
  unfold Host.write
  rw [blur.now_eq]
  exact blur.host_onLive host key _ _ fun last session world => blur.session_write session _ world _ last range data

lemma host_submitRead (range : BlockRange) : (blur.host host).submitRead key range (blur.world world) =
    (host.submitRead key range world).map id (Prod.map blur.host blur.world) := by
  unfold Host.submitRead
  rw [blur.host_onLive host key world _ fun last session world => blur.session_submit session _ world _ last range _]
  rfl

lemma host_submitWrite (range : BlockRange) (data : Bytes) :
    (blur.host host).submitWrite key range data (blur.world world) =
      (host.submitWrite key range data world).map id (Prod.map blur.host blur.world) := by
  unfold Host.submitWrite
  rw [blur.host_onLive host key world _ fun last session world => blur.session_submit session _ world _ last range _]
  rfl

lemma host_poll (handle : RequestHandle) : (blur.host host).poll handle (blur.world world) =
    (host.poll handle world).map id (Prod.map blur.host blur.world) := by
  unfold Host.poll
  rw [blur.host_onLive host handle.session world
    (fun last session world =>
      ((session.pollIo handle.request world).1, last, (session.pollIo handle.request world).2))
    fun last session world => by
      rw [blur.session_pollIo]
      rfl]
  rfl

lemma host_identify (nsid : UInt32) : (blur.host host).identify key nsid (blur.world world) =
    (host.identify key nsid world).map id (Prod.map blur.host blur.world) := by
  unfold Host.identify
  rw [blur.now_eq]
  refine blur.host_onSession { host with lastRequest := host.lastRequest + 1 } key _ _ fun session world => ?_
  rw [blur.session_state, blur.session_checkNamespace]
  split
  · rfl
  · split
    · simp only [blur.session_identifyController]
      rfl
    · split
      · rfl
      · simp only [blur.session_identifyNamespace]
        rfl

/-- A call is seen as the same call of the host in blur. -/
lemma host_perform (call : HostCall) : (blur.host host).perform call (blur.world world) =
    (host.perform call world).map id (Prod.map blur.host blur.world) := by
  cases call with
  | connect command defaults =>
    simp only [Host.perform, blur.host_connect]
    rfl
  | connectAttempt attempt defaults =>
    simp only [Host.perform, blur.host_connectAttempt]
    rfl
  | disconnect key =>
    simp only [Host.perform, blur.host_disconnect]
    rfl
  | disconnectAll =>
    simp only [Host.perform, blur.host_disconnectAll]
    rfl
  | reset key =>
    simp only [Host.perform, Host.reset]
    rw [blur.host_onSession host key world _ fun session world => blur.session_reset session world]
    rfl
  | reestablish key =>
    simp only [Host.perform, Host.reestablish]
    rw [blur.host_onSession host key world _ fun session world => blur.session_reestablish session world _]
    rfl
  | read key range buffer =>
    simp only [Host.perform, blur.host_read]
    rfl
  | write key range data =>
    simp only [Host.perform, blur.host_write]
    rfl
  | submitRead key range =>
    simp only [Host.perform, blur.host_submitRead]
    rfl
  | submitWrite key range data =>
    simp only [Host.perform, blur.host_submitWrite]
    rfl
  | poll handle =>
    simp only [Host.perform, blur.host_poll]
    rfl
  | abandon handle =>
    simp only [Host.perform, blur.host_abandon]
    rfl
  | identify key nsid =>
    simp only [Host.perform, blur.host_identify]
    rfl
  | tick =>
    simp only [Host.perform, Host.tick, blur.now_eq, blur.host_tickAt]
    rfl
  | tickAt now =>
    simp only [Host.perform, blur.host_tickAt]
    rfl

/-- A run is seen as the run of the host in view, if the changes of the world between calls are. -/
theorem host_run {calls' : List (HostCall × (W' → W'))} {calls : List (HostCall × (W → W))}
    (h : List.Forall₂ (fun call' call => call'.1 = call.1 ∧ ∀ world, call.2 (blur.world world) = blur.world (call'.2 world))
      calls' calls) :
    (blur.host host).run (blur.world world) calls = (host.run world calls').map id (Prod.map blur.host blur.world) := by
  induction h generalizing host world with
  | nil => rfl
  | cons hcall _ ih =>
    rename_i call' call _ _
    obtain ⟨hsame, hdrift⟩ := hcall
    simp only [Host.run, hdrift, ← hsame, blur.host_perform, Prod.map_fst, Prod.map_snd, id_eq, ih]
    rfl

end Blur

namespace View

variable {W' C' Q' W C Q : Type} [Fabric W' C' Q'] [Clock W'] [Fabric W C Q] [Clock W] (view : View W' C' Q' W C Q)

def registry (registry : Registry C' Q') : Registry C Q where
  limit := registry.limit
  sessions := registry.sessions.map view.session

def host (host : Host C' Q') : Host C Q where
  config := host.config
  registry := view.registry host.registry
  lastRequest := host.lastRequest

/-- A run is seen as the run of the host in view, if the changes of the world between calls are. -/
theorem host_run (host : Host C' Q') (world : W') {calls' : List (HostCall × (W' → W'))}
    {calls : List (HostCall × (W → W))}
    (h : List.Forall₂ (fun call' call => call'.1 = call.1 ∧ ∀ world, call.2 (view.world world) = view.world (call'.2 world))
      calls' calls) :
    (view.host host).run (view.world world) calls = (host.run world calls').map id (Prod.map view.host view.world) :=
  view.blur.host_run host world h

end View

end FabricHost
