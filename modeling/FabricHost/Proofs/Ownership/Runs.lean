import FabricHost.Proofs.Host.Membership
import FabricHost.Proofs.Host.Traffic
import FabricHost.Proofs.Ownership.Sessions

/-!
# Handles over whole runs

Every call of a host keeps its handles accounted for. So nothing that was ever given out leaks: it is held by one session,
or it was released once.
-/

namespace FabricHost

variable {W C Q : Type} [Fabric W C Q] [Clock W]

namespace Labelling

variable {before after : Session (Numbered C) (Numbered Q)}

lemma Like.holding (h : (Traced.labelling W Q).Like before after) : after.holding = before.holding := by
  have hio : after.io.map (·.queue.number) = before.io.map (·.queue.number) := h.io
  rw [Session.holding, Session.holding, h.controller, hio]

lemma Like.settled (h : (Traced.labelling W Q).Like before after) (hsettled : before.Settled) : after.Settled := by
  have hio : after.io.map (·.queue.number) = before.io.map (·.queue.number) := h.io
  unfold Session.Settled at hsettled ⊢
  rw [h.state, ← Option.map_eq_none_iff, ← Option.isSome_map, hio, Option.isSome_map, Option.map_eq_none_iff]
  exact hsettled

end Labelling

namespace Host

variable {host : Host (Numbered C) (Numbered Q)} {world : Traced W}

/-- Traffic leaves every handle with its session. -/
lemma unmoved_accounted (h : host.Accounted [] world.events) {after : Host (Numbered C) (Numbered Q) × Traced W}
    (hunmoved : (Traced.labelling W Q).Unmoved (host, world) after) : after.1.Accounted [] after.2.events := by
  have hevents : after.2.events = world.events := hunmoved.record
  have hlength := hunmoved.sessions.length_eq
  refine ⟨?_, ?_⟩
  · intro session hsession
    obtain ⟨place, hplace, rfl⟩ := List.mem_iff_getElem.mp hsession
    have hlike := hunmoved.sessions.get (hlength ▸ hplace) hplace
    exact hlike.settled (h.settled _ (List.getElem_mem _))
  · have hholdings : after.1.holdings = host.holdings := by
      refine List.ext_getElem (by simpa [holdings] using hlength.symm) fun place hplace hplace' => ?_
      simp only [holdings, List.getElem_map]
      exact (hunmoved.sessions.get _ _).holding
    rw [hevents, hholdings]
    exact h.accounts

omit [Fabric W C Q] [Clock W] in
/-- A careful action on one session leaves the handles of the others alone. -/
lemma onSession_accounted {α : Type} (hnodup : host.registry.keys.Nodup) (h : host.Accounted [] world.events)
    (key : SessionKey) (missing : HostError)
    {action : Session (Numbered C) (Numbered Q) → Traced W →
      Except HostError α × Session (Numbered C) (Numbered Q) × Traced W} (haction : Session.Careful action) :
    (host.onSession key missing action world).2.1.Accounted [] (host.onSession key missing action world).2.2.events := by
  rcases onSession_cases hnodup key missing action haction.key world with
    ⟨-, heq⟩ | ⟨before, session, behind, hsplit, -, -, heq⟩
  · rw [heq]
    exact h
  · rw [heq]
    have hsettled := h.settled session (by simp [hsplit])
    refine ⟨?_, ?_⟩
    · intro other hother
      simp only [List.mem_append, List.mem_cons] at hother
      rcases hother with hother | rfl | hother
      · exact h.settled other (by simp [hsplit, hother])
      · exact haction.settled session world hsettled
      · exact h.settled other (by simp [hsplit, hother])
    · have haccounts := h.accounts
      simp only [holdings, List.nil_append, hsplit, List.map_append, List.map_cons] at haccounts ⊢
      have hfront := haccounts.perm List.perm_middle
      exact (haction.accounts session world _ hsettled hfront).perm List.perm_middle.symm

lemma disconnect_accounted (hnodup : host.registry.keys.Nodup) (h : host.Accounted [] world.events)
    (key : SessionKey) :
    (host.disconnect key world).2.1.Accounted [] (host.disconnect key world).2.2.events := by
  rcases host.disconnect_cases hnodup key world with ⟨-, heq⟩ | ⟨before, session, behind, hsplit, -, -, heq⟩
  · rw [heq]
    exact h
  · rw [heq]
    refine ⟨?_, ?_⟩
    · intro other hother
      refine h.settled other ?_
      rw [hsplit, List.mem_append, List.mem_cons]
      exact (List.mem_append.mp hother).imp_right .inr
    · have haccounts := h.accounts
      simp only [holdings, List.nil_append, hsplit, List.map_append, List.map_cons] at haccounts ⊢
      exact session.release_accounts world (haccounts.perm List.perm_middle)

/-- The sessions of a list give up everything, whatever else is held. -/
lemma releaseAll_accounts (sessions : List (Session (Numbered C) (Numbered Q))) (rest : List Holding)
    (h : Accounts (sessions.map Session.holding ++ rest) world.events) :
    Accounts rest (sessions.foldr Session.release world).events := by
  induction sessions generalizing rest with
  | nil => exact h
  | cons session sessions ih =>
    rw [List.foldr_cons]
    apply session.release_accounts
    apply ih
    exact h.perm List.perm_middle.symm

lemma disconnectAll_accounted (h : host.Accounted [] world.events) :
    (host.disconnectAll world).2.1.Accounted [] (host.disconnectAll world).2.2.events := by
  refine ⟨fun session hsession => (List.not_mem_nil hsession).elim, ?_⟩
  have haccounts := h.accounts
  rw [List.nil_append, ← List.append_nil host.holdings] at haccounts
  exact releaseAll_accounts host.registry.sessions [] haccounts

lemma connect_accounted (h : host.Accounted [] world.events) (command : ConnectCommand) (defaults : HostDefaults) :
    (host.connect command defaults world).2.1.Accounted [] (host.connect command defaults world).2.2.events := by
  rcases host.connect_cases command defaults world with ⟨error, -, heq⟩ | ⟨plan, hroom, hcase⟩
  · rw [heq]
    exact h
  · have hhandshake := handshake_events (W := W) (C := C) (Q := Q) plan host.config.connectRetryDelayMs
      plan.retryCount.toNat world
    rcases hcase with ⟨error, world', hfail, heq⟩ | ⟨association, world', hdone, heq⟩
    · rw [heq]
      exact ⟨h.settled, hhandshake.1 error world' hfail ▸ h.accounts⟩
    · obtain ⟨hnumber, hevents⟩ := hhandshake.2 association world' hdone
      rw [heq]
      refine register_accounted hroom plan association world' ⟨h.settled, ?_⟩
      rw [hnumber, hevents]
      exact h.accounts.connect

lemma connectAttempt_accounted (h : host.Accounted [] world.events) (attempt : Attempt) (defaults : HostDefaults) :
    (host.connectAttempt attempt defaults world).2.1.Accounted []
      (host.connectAttempt attempt defaults world).2.2.events := by
  obtain ⟨world', hworld, hcase⟩ := host.connectAttempt_cases attempt defaults world
  have hevents : world'.events = world.events := by
    rcases hworld with rfl | ⟨name, rfl⟩ <;> rfl
  rw [← hevents] at h
  rcases hcase with ⟨error, -, heq⟩ | ⟨command, heq⟩
  · rw [heq]
    exact h
  · rw [heq]
    exact connect_accounted h command defaults

lemma perform_accounted (hnodup : host.registry.keys.Nodup) (h : host.Accounted [] world.events) (call : HostCall) :
    (host.perform call world).2.1.Accounted [] (host.perform call world).2.2.events := by
  cases call with
  | connect command defaults => exact connect_accounted h command defaults
  | connectAttempt attempt defaults => exact connectAttempt_accounted h attempt defaults
  | disconnect key => exact disconnect_accounted hnodup h key
  | disconnectAll => exact disconnectAll_accounted h
  | reset key => exact onSession_accounted hnodup h key _ Session.reset_careful
  | reestablish key =>
    exact onSession_accounted hnodup h key _ (Session.reestablish_careful host.config.ioQueueDepth)
  | _ => exact unmoved_accounted h ((Traced.labelling W Q).perform_unmoved hnodup rfl world)

/-- The registry and the handles of a host agree with what was answered and with what was given out so far. -/
structure Tracked (config : Config) (log : List (HostCall × HostAnswer)) (host : Host (Numbered C) (Numbered Q))
    (world : Traced W) : Prop where
  enrolled : Enrolled config log host
  accounted : host.Accounted [] world.events

omit [Fabric W C Q] [Clock W] in
lemma Tracked.start (config : Config) (world : W) :
    Tracked config [] (Host.ofConfig config : Host (Numbered C) (Numbered Q)) ⟨world, []⟩ :=
  ⟨.start config, fun _ hsession => (List.not_mem_nil hsession).elim, .start⟩

lemma Tracked.perform {config : Config} {log : List (HostCall × HostAnswer)} (h : Tracked config log host world)
    (call : HostCall) :
    Tracked config (log ++ [(call, (host.perform call world).1)]) (host.perform call world).2.1
      (host.perform call world).2.2 :=
  ⟨h.enrolled.perform call world, perform_accounted h.enrolled.nodup h.accounted call⟩

/-- Calls of a traced host, between which only the world changes. -/
def tracedCalls (calls : List (HostCall × (W → W))) : List (HostCall × (Traced W → Traced W)) :=
  calls.map fun call => (call.1, Traced.drift call.2)

lemma Tracked.run {config : Config} {log : List (HostCall × HostAnswer)} (h : Tracked config log host world)
    (calls : List (HostCall × (W → W))) :
    Tracked config (log ++ (host.run world (tracedCalls calls)).1) (host.run world (tracedCalls calls)).2.1
      (host.run world (tracedCalls calls)).2.2 := by
  refine run_induction (Tracked config) (fun _ _ _ call h => h.perform call) (tracedCalls calls) ?_ h
  intro call hcall log host world h
  obtain ⟨original, -, rfl⟩ := List.mem_map.mp hcall
  exact ⟨h.enrolled, h.accounted⟩

/-- Tracing a run does not change it. -/
lemma run_tracedCalls (config : Config) (world : W) (calls : List (HostCall × (W → W))) :
    (Host.ofConfig config : Host C Q).run world calls =
      ((Host.ofConfig config : Host (Numbered C) (Numbered Q)).run (⟨world, []⟩ : Traced W) (tracedCalls calls)).map id
        (Prod.map (Traced.untraced W C Q).host Traced.world) := by
  refine (Traced.untraced W C Q).host_run (Host.ofConfig config) ⟨world, []⟩ ?_
  rw [tracedCalls, List.forall₂_map_left_iff, List.forall₂_same]
  exact fun call _ => ⟨rfl, fun _ => rfl⟩

/-- How many sessions own a controller. -/
def controllerOwners (host : Host (Numbered C) (Numbered Q)) (number : Nat) : Nat :=
  host.registry.sessions.countP fun session => session.controller.number = number

/-- How many live sessions own an I/O queue pair. -/
def queueOwners (host : Host (Numbered C) (Numbered Q)) (number : Nat) : Nat :=
  host.registry.sessions.countP fun session =>
    session.state = .live ∧ session.io.map (·.queue.number) = some number

end Host

/-- Whatever was given out from a place in the events on was released once. -/
def HandleEvent.ReleasedFrom (start : Nat) (events : List HandleEvent) : Prop :=
  ∀ number, start ≤ number →
    (events[number]? = some .connected → events.count (.controllerReleased number) = 1) ∧
      ∀ controller, events[number]? = some (.created controller) → events.count (.queueReleased number) = 1

namespace Host.Accounted

variable {host : Host (Numbered C) (Numbered Q)} {events : List HandleEvent} (h : host.Accounted [] events)
include h

lemma controller_once {number : Nat} (hgiven : events[number]? = some .connected) :
    host.controllerOwners number + events.count (.controllerReleased number) = 1 := by
  have hbalanced := h.accounts.controllers number
  rw [hgiven] at hbalanced
  have howners : host.controllerOwners number = host.holdings.countP (·.controller = number) := by
    rw [holdings, List.countP_map]
    rfl
  rwa [howners]

lemma queue_once {number controller : Nat} (hgiven : events[number]? = some (.created controller)) :
    host.queueOwners number + events.count (.queueReleased number) = 1 := by
  have hbalanced := h.accounts.queues number
  rw [hgiven] at hbalanced
  have howners : host.queueOwners number = host.holdings.countP (·.queue = some number) := by
    rw [holdings, List.countP_map]
    refine List.countP_congr fun session hsession => ?_
    rw [Function.comp_apply, decide_eq_true_iff, decide_eq_true_iff]
    refine ⟨And.right, fun hio => ⟨?_, hio⟩⟩
    rcases h.settled session hsession with ⟨hlive, -⟩ | ⟨-, hnone⟩
    · exact hlive
    · rw [Session.holding, hnone] at hio
      cases hio
  rwa [howners]

/-- What is given out while the host comes back to holding what it held is released. -/
lemma released_from {events' : List HandleEvent} (h' : host.Accounted [] events') :
    HandleEvent.ReleasedFrom events.length events' := by
  intro number hpast
  refine ⟨fun hgiven => ?_, fun controller hgiven => ?_⟩
  · have hfree := h.accounts.controllers.owners_eq_zero hpast
    exact h'.accounts.controllers.count_eq_one (by rw [hgiven]; rfl) hfree
  · have hfree := h.accounts.queues.owners_eq_zero hpast
    exact h'.accounts.queues.count_eq_one (by rw [hgiven]; rfl) hfree

end Host.Accounted

/-- Over any run, each controller that a handshake gave is owned by one session or was released once; each I/O queue pair
is owned by one live session, which owns its controller too, or was released once, before its controller. A connect that
fails releases what it was given, and after a shutdown all is released. The run is traced to say so, and is otherwise the
run that it would be. -/
theorem handles_owned_or_released {W C Q : Type} [Fabric W C Q] [Clock W] (config : Config) (world : W)
    (calls : List (HostCall × (W → W))) :
    let run := (Host.ofConfig config : Host (Numbered C) (Numbered Q)).run ⟨world, []⟩ (Host.tracedCalls calls)
    let host := run.2.1
    let events := run.2.2.events
    (Host.ofConfig config : Host C Q).run world calls =
        (run.1, (Traced.untraced W C Q).host host, run.2.2.world) ∧
      (∀ number, events[number]? = some .connected →
        host.controllerOwners number + events.count (.controllerReleased number) = 1) ∧
      (∀ number controller, events[number]? = some (.created controller) →
        host.queueOwners number + events.count (.queueReleased number) = 1 ∧
          ∀ early late : Nat, events[early]? = some (.queueReleased number) →
            events[late]? = some (.controllerReleased controller) → early < late) ∧
      (∀ session ∈ host.registry.sessions, ∀ io, session.io = some io →
        session.state = .live ∧ events[io.queue.number]? = some (.created session.controller.number)) ∧
      (∀ call error (now : W), call.connects →
        (host.perform call (⟨now, events⟩ : Traced W)).1 = .connected (.error error) →
          (host.perform call (⟨now, events⟩ : Traced W)).2.1 = host ∧
            HandleEvent.ReleasedFrom events.length (host.perform call (⟨now, events⟩ : Traced W)).2.2.events) ∧
      ∀ now : W, HandleEvent.ReleasedFrom 0 (host.perform .disconnectAll (⟨now, events⟩ : Traced W)).2.2.events := by
  intro run host events
  have htracked : Host.Tracked config run.1 host run.2.2 := (Host.Tracked.start config world).run calls
  have h : host.Accounted [] events := htracked.accounted
  have hafter : ∀ (now : W) (call : HostCall), (host.perform call (⟨now, events⟩ : Traced W)).2.1.Accounted []
      (host.perform call (⟨now, events⟩ : Traced W)).2.2.events := by
    intro now call
    have hnow : Host.Tracked config run.1 host (⟨now, events⟩ : Traced W) := ⟨htracked.enrolled, h⟩
    exact (hnow.perform call).accounted
  refine ⟨?_, fun number hgiven => h.controller_once hgiven,
    fun number controller hgiven => ⟨h.queue_once hgiven, ?_⟩, ?_, ?_, ?_⟩
  · exact Host.run_tracedCalls config world calls
  · exact fun early late hearly hlate => h.accounts.order hgiven hearly hlate
  · intro session hsession io hio
    refine ⟨?_, ?_⟩
    · rcases h.settled session hsession with ⟨hlive, -⟩ | ⟨-, hnone⟩
      · exact hlive
      · rw [hnone] at hio
        cases hio
    · refine h.accounts.creators session.holding (List.mem_map_of_mem hsession) _ ?_
      rw [Session.holding, hio]
      rfl
  · intro call error now hconnects hanswer
    have hfailed := hafter now call
    rcases host.perform_membership hconnects (⟨now, events⟩ : Traced W) with
      ⟨_, world', heq, -⟩ | ⟨session, world', -, -, -, heq⟩
    · rw [heq] at hfailed ⊢
      exact ⟨rfl, h.released_from hfailed⟩
    · rw [heq] at hanswer
      cases hanswer
  · intro now number _
    have hended := (hafter now .disconnectAll).accounts
    exact ⟨fun hgiven => hended.controllers.count_eq_one (by rw [hgiven]; rfl) rfl,
      fun controller hgiven => hended.queues.count_eq_one (by rw [hgiven]; rfl) rfl⟩

end FabricHost
