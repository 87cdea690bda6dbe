import FabricHost.Proofs.Host.Invariants
import FabricHost.Proofs.Host.Traffic
import FabricHost.Proofs.Watching.Watched

/-!
# When queue pairs were created

The I/O queue pair that a session owns was created by the session's own controller, and after the last reset of that
controller. This rests on controllers that no two sessions share.
-/

namespace FabricHost

variable {W C Q : Type} [Fabric W C Q] [Clock W]

namespace Watched

variable (watched : Watched W)

omit [Clock W] in
lemma connect_events {params : HandshakeParams} {timeoutMs : Nat} {watched' : Watched W}
    {outcome : HandshakeOutcome (Numbered C) (Numbered Q)}
    (h : Fabric.connect params timeoutMs watched = (outcome, watched')) :
    (∀ association, outcome = .connected association →
        association.controller.number = watched.events.length ∧ watched'.events = watched.events ++ [.connected]) ∧
      ((∀ association, outcome ≠ .connected association) → watched'.events = watched.events) := by
  simp only [Fabric.connect] at h
  rcases heq : Fabric.connect params timeoutMs watched.world with ⟨_ | _ | _, world⟩
  all_goals
    rw [heq] at h
    cases h
  · exact ⟨fun _ h => (by cases h; exact ⟨rfl, rfl⟩), fun hnone => (hnone _ rfl).elim⟩
  · exact ⟨fun _ h => (by cases h), fun _ => rfl⟩
  · exact ⟨fun _ h => (by cases h), fun _ => rfl⟩

omit [Clock W] in
lemma createIoQueue_events (controller : Numbered C) (depth : UInt16) :
    match Fabric.createIoQueue (Q := Numbered Q) controller depth watched with
    | (.error _, controller', watched') => controller'.number = controller.number ∧ watched'.events = watched.events
    | (.ok queue, controller', watched') => controller'.number = controller.number ∧
      queue.number = watched.events.length ∧ watched'.events = watched.events ++ [.created controller.number] := by
  simp only [Fabric.createIoQueue]
  rcases Fabric.createIoQueue controller.handle depth watched.world with ⟨_ | _, handle, world⟩
  · exact ⟨rfl, rfl⟩
  · exact ⟨rfl, rfl, rfl⟩

omit [Clock W] in
lemma resetController_events (controller : Numbered C) :
    match Fabric.resetController (Q := Numbered Q) controller watched with
    | (.error _, controller', watched') => controller'.number = controller.number ∧ watched'.events = watched.events
    | (.ok (), controller', watched') =>
      controller'.number = controller.number ∧ watched'.events = watched.events ++ [.wasReset controller.number] := by
  simp only [Fabric.resetController]
  rcases Fabric.resetController controller.handle watched.world with ⟨_ | _, handle, world⟩
  · exact ⟨rfl, rfl⟩
  · exact ⟨rfl, rfl⟩

end Watched

namespace Session

/-- The session's controller has appeared, and created the session's I/O queue pair after its last reset. -/
structure Dated (events : List ControllerEvent) (session : Session (Numbered C) (Numbered Q)) : Prop where
  appeared : session.controller.number < events.length
  created : ∀ number, session.io.map (·.queue.number) = some number →
    events[number]? = some (.created session.controller.number)
  latest : ∀ number, session.io.map (·.queue.number) = some number →
    ∀ place : Nat, events[place]? = some (.wasReset session.controller.number) → place < number

variable {events new : List ControllerEvent} {session session' : Session (Numbered C) (Numbered Q)}

omit [Fabric W C Q] [Clock W] in
/-- What other controllers do later does not matter. -/
lemma Dated.append (h : session.Dated events) (hnew : .wasReset session.controller.number ∉ new) :
    session.Dated (events ++ new) := by
  have hold : ∀ {place : Nat} {event : ControllerEvent}, events[place]? = some event →
      (events ++ new)[place]? = some event := fun hplace =>
    (List.getElem?_append_left (List.getElem?_eq_some_iff.mp hplace).1).trans hplace
  refine ⟨?_, fun number hio => hold (h.created number hio), fun number hio place hplace => ?_⟩
  · rw [List.length_append]
    exact Nat.lt_add_right _ h.appeared
  · rw [List.getElem?_append] at hplace
    split at hplace
    · exact h.latest number hio place hplace
    · exact (hnew (List.mem_of_getElem? hplace)).elim

omit [Fabric W C Q] [Clock W] in
lemma Dated.congr (h : session.Dated events) (hcontroller : session'.controller.number = session.controller.number)
    (hio : session'.io.map (·.queue.number) = session.io.map (·.queue.number)) : session'.Dated events := by
  refine ⟨hcontroller ▸ h.appeared, ?_, ?_⟩ <;> rw [hcontroller, hio]
  · exact h.created
  · exact h.latest

omit [Fabric W C Q] [Clock W] in
/-- A queue pair that is new is later than every reset. -/
lemma dated_of_created {controller : Nat} (happeared : controller < events.length)
    (hcontroller : session.controller.number = controller)
    (hio : session.io.map (·.queue.number) = some events.length) : session.Dated (events ++ [.created controller]) := by
  subst hcontroller
  refine ⟨?_, fun number hnumber => ?_, fun number hnumber place hplace => ?_⟩
  · rw [List.length_append]
    exact Nat.lt_add_right _ happeared
  all_goals
    rw [hio] at hnumber
    cases hnumber
  · exact List.getElem?_concat_length
  · rw [List.getElem?_append] at hplace
    split at hplace
    · assumption
    · have hevent := List.mem_singleton.mp (List.mem_of_getElem? hplace)
      cases hevent

/-- An action on a session that keeps it dated, and resets no other controller. -/
structure Dating {α : Type}
    (action : Session (Numbered C) (Numbered Q) → Watched W → α × Session (Numbered C) (Numbered Q) × Watched W) :
    Prop where
  key : ∀ session world, (action session world).2.1.key = session.key
  number : ∀ session world, session.Settled → (action session world).2.1.controller.number = session.controller.number
  dated : ∀ session world, session.Settled → session.Dated world.events → ∃ new,
    (action session world).2.2.events = world.events ++ new ∧
      (∀ number, .wasReset number ∈ new → number = session.controller.number) ∧
      (action session world).2.1.Dated (world.events ++ new)

omit [Clock W] in
lemma reset_dating : Dating (reset : Session (Numbered C) (Numbered Q) → Watched W → _) where
  key := reset_key
  number session world _ := by
    have hevents := world.resetController_events session.controller (Q := Q)
    rcases session.reset_cases world with ⟨_, _, _, heq, hresult⟩ | ⟨_, _, heq, hresult⟩
    all_goals
      rw [heq] at hevents
      rw [hresult]
      exact hevents.1
  dated session world _ h := by
    have hevents := world.resetController_events session.controller (Q := Q)
    rcases session.reset_cases world with ⟨_, _, _, heq, hresult⟩ | ⟨controller, world', heq, hresult⟩
    · rw [heq] at hevents
      rw [hresult]
      refine ⟨[], hevents.2.trans (List.append_nil _).symm, fun _ hmem => (List.not_mem_nil hmem).elim, ?_⟩
      rw [List.append_nil]
      exact h.congr hevents.1 rfl
    · rw [heq] at hevents
      rw [hresult]
      refine ⟨[.wasReset session.controller.number], ?_, fun number hmem => ?_, ?_⟩
      · refine Eq.trans ?_ hevents.2
        dsimp only
        split <;> rfl
      · cases List.mem_singleton.mp hmem
        rfl
      · have hnumber : controller.number = session.controller.number := hevents.1
        refine ⟨?_, fun _ hio => (by cases hio), fun _ hio => (by cases hio)⟩
        rw [List.length_append]
        exact Nat.lt_add_right _ (hnumber.symm ▸ h.appeared)

omit [Clock W] in
lemma reestablish_dating (depth : UInt16) :
    Dating (fun session : Session (Numbered C) (Numbered Q) => session.reestablish (W := Watched W) depth) where
  key session world := session.reestablish_key depth world
  number session world hsettled := by
    have hevents := world.createIoQueue_events session.controller depth (Q := Q)
    rcases hsettled.reestablish_cases depth world with
      ⟨-, hresult⟩ | ⟨-, -, ⟨_, _, _, heq, hresult⟩ | ⟨_, _, _, heq, hresult⟩⟩
    · simp only [hresult]
    all_goals
      rw [heq] at hevents
      simp only [hresult]
      exact hevents.1
  dated session world hsettled h := by
    have hevents := world.createIoQueue_events session.controller depth (Q := Q)
    rcases hsettled.reestablish_cases depth world with
      ⟨-, hresult⟩ | ⟨-, -, ⟨_, _, _, heq, hresult⟩ | ⟨queue, controller, _, heq, hresult⟩⟩
    · simp only [hresult]
      refine ⟨[], (List.append_nil _).symm, fun _ hmem => (List.not_mem_nil hmem).elim, ?_⟩
      rw [List.append_nil]
      exact h
    · rw [heq] at hevents
      simp only [hresult]
      refine ⟨[], hevents.2.trans (List.append_nil _).symm, fun _ hmem => (List.not_mem_nil hmem).elim, ?_⟩
      rw [List.append_nil]
      exact h.congr hevents.1 rfl
    · rw [heq] at hevents
      obtain ⟨hnumber, hqueue, hlog⟩ := hevents
      simp only [hresult]
      refine ⟨_, hlog, fun number hmem => ?_, ?_⟩
      · cases List.mem_singleton.mp hmem
      · exact dated_of_created h.appeared hnumber (congrArg some hqueue)

lemma release_events (session : Session (Numbered C) (Numbered Q)) (world : Watched W) :
    (session.release world).events = world.events := by
  have hdrain : ∀ (channel : Channel (Numbered Q)) (world : Watched W),
      (channel.drain Channel.drainLimit world).2.events = world.events := fun channel world =>
    ((Watched.labelling W Q).drain_quiet Channel.drainLimit channel world).record
  unfold release
  refine (hdrain session.admin _).trans ?_
  split
  · rename_i io _
    exact hdrain io world
  · rfl

end Session

namespace Host

/-- The sessions are dated, and no two share a controller. -/
structure Dated (events : List ControllerEvent) (host : Host (Numbered C) (Numbered Q)) : Prop where
  sessions : ∀ session ∈ host.registry.sessions, session.Dated events
  distinct : (host.registry.sessions.map (·.controller.number)).Nodup

variable {host : Host (Numbered C) (Numbered Q)} {world : Watched W}

omit [Fabric W C Q] [Clock W] in
lemma Dated.append {events new : List ControllerEvent} (h : host.Dated events)
    (hnew : ∀ number, .wasReset number ∉ new) : host.Dated (events ++ new) :=
  ⟨fun session hsession => (h.sessions session hsession).append (hnew _), h.distinct⟩

lemma unmoved_dated (h : host.Dated world.events) {after : Host (Numbered C) (Numbered Q) × Watched W}
    (hunmoved : (Watched.labelling W Q).Unmoved (host, world) after) : after.1.Dated after.2.events := by
  have hevents : after.2.events = world.events := hunmoved.record
  have hlength := hunmoved.sessions.length_eq
  refine ⟨fun session hsession => ?_, ?_⟩
  · obtain ⟨place, hplace, rfl⟩ := List.mem_iff_getElem.mp hsession
    have hlike := hunmoved.sessions.get (hlength ▸ hplace) hplace
    rw [hevents]
    exact (h.sessions _ (List.getElem_mem _)).congr (congrArg _ hlike.controller) hlike.io
  · have hsame : after.1.registry.sessions.map (·.controller.number) =
        host.registry.sessions.map (·.controller.number) := by
      refine List.ext_getElem (by simpa using hlength.symm) fun place hplace hplace' => ?_
      simp only [List.getElem_map]
      exact congrArg _ (hunmoved.sessions.get _ _).controller
    rw [hsame]
    exact h.distinct

omit [Fabric W C Q] [Clock W] in
lemma onSession_dated {α : Type} (hnodup : host.registry.keys.Nodup)
    (hsettled : ∀ session ∈ host.registry.sessions, session.Settled) (h : host.Dated world.events)
    (key : SessionKey) (missing : HostError)
    {action : Session (Numbered C) (Numbered Q) → Watched W →
      Except HostError α × Session (Numbered C) (Numbered Q) × Watched W} (haction : Session.Dating action) :
    (host.onSession key missing action world).2.1.Dated (host.onSession key missing action world).2.2.events := by
  rcases onSession_cases hnodup key missing action haction.key world with
    ⟨-, heq⟩ | ⟨before, session, behind, hsplit, -, -, heq⟩
  · rw [heq]
    exact h
  · have hmem : session ∈ host.registry.sessions := by simp [hsplit]
    have hnumber := haction.number session world (hsettled session hmem)
    obtain ⟨new, hevents, hresets, hdated⟩ := haction.dated session world (hsettled session hmem) (h.sessions session hmem)
    have hdistinct := h.distinct
    rw [hsplit, List.map_append, List.map_cons, List.nodup_middle, List.nodup_cons, List.mem_append, List.mem_map,
      List.mem_map] at hdistinct
    have hother : ∀ other ∈ host.registry.sessions, other.controller.number ≠ session.controller.number →
        other.Dated (world.events ++ new) := fun other hother hne =>
      (h.sessions other hother).append fun hmem => hne (hresets _ hmem)
    rw [heq]
    refine ⟨fun other hmem' => ?_, ?_⟩
    · simp only [hevents]
      rcases List.mem_append.mp hmem' with hbefore | hbehind
      · exact hother other (by simp [hsplit, hbefore]) fun heq => hdistinct.1 (.inl ⟨other, hbefore, heq⟩)
      · rcases List.mem_cons.mp hbehind with rfl | hbehind
        · exact hdated
        · exact hother other (by simp [hsplit, hbehind]) fun heq => hdistinct.1 (.inr ⟨other, hbehind, heq⟩)
    · have hnumbers := h.distinct
      simp only [hsplit, List.map_append, List.map_cons, hnumber] at hnumbers ⊢
      exact hnumbers

omit [Clock W] in
/-- Of all handshakes that are made only the last can bring a controller. -/
lemma handshake_brings (plan : ConnectPlan) (pauseMs retries : Nat) (world : Watched W) :
    (∀ error world', handshake (C := Numbered C) (Q := Numbered Q) plan pauseMs retries world = (.error error, world') →
        world'.events = world.events) ∧
      ∀ association world', handshake (C := Numbered C) (Q := Numbered Q) plan pauseMs retries world =
        (.ok association, world') →
          association.controller.number = world.events.length ∧ world'.events = world.events ++ [.connected] := by
  refine handshake_leaves (fun first second => second.events = first.events)
    (fun association first second => association.controller.number = first.events.length ∧
      second.events = first.events ++ [.connected]) plan pauseMs ?_ ?_ ?_ ?_ ?_ retries world
  · exact fun heq => (Watched.connect_events _ heq).1 _ rfl
  · exact fun heq => (Watched.connect_events _ heq).2
  · exact fun htried => htried
  · exact fun htried hlater => hlater.trans htried
  · exact fun htried hlater => htried ▸ hlater

lemma register_dated (hroom : host.registry.isFull = false) (h : host.Dated world.events) (plan : ConnectPlan)
    {association : Association (Numbered C) (Numbered Q)} (hnumber : association.controller.number < world.events.length)
    (hnew : ∀ session ∈ host.registry.sessions, session.controller.number ≠ association.controller.number) :
    (host.register plan association world).2.1.Dated (host.register plan association world).2.2.events := by
  have hcreate := world.createIoQueue_events association.controller host.config.ioQueueDepth (Q := Q)
  rcases register_cases hroom plan association world with
    ⟨_, _, _, heq, hresult⟩ | ⟨io, controller, world', heq, ⟨-, hresult⟩ | ⟨key, timer, -, -, hresult⟩⟩
  · rw [heq] at hcreate
    rw [hresult]
    exact hcreate.2 ▸ h
  all_goals
    rw [heq] at hcreate
    obtain ⟨hsame, hqueue, hevents⟩ := hcreate
    have hafter : host.Dated (world.events ++ [.created association.controller.number]) := h.append fun number hmem => by
      cases List.mem_singleton.mp hmem
    rw [hresult]
  · exact hevents ▸ hafter
  · have hopened : (newSession plan { association with controller } io key timer).Dated
        (world.events ++ [.created association.controller.number]) :=
      Session.dated_of_created hnumber hsame (congrArg some hqueue)
    have hlog : (Clock.now world').2.events = world.events ++ [.created association.controller.number] := hevents
    refine ⟨fun session hmem => ?_, ?_⟩
    · rw [hlog]
      rcases List.mem_append.mp hmem with hold | hmem
      · exact hafter.sessions session hold
      · rw [List.mem_singleton.mp hmem]
        exact hopened
    · rw [List.map_append, List.nodup_append]
      refine ⟨h.distinct, List.nodup_singleton _, fun number hold other hother heq => ?_⟩
      obtain ⟨session, hsession, rfl⟩ := List.mem_map.mp hold
      rw [List.map_singleton, List.mem_singleton] at hother
      exact hnew session hsession (heq.trans (hother.trans hsame))

lemma connect_dated (h : host.Dated world.events) (command : ConnectCommand) (defaults : HostDefaults) :
    (host.connect command defaults world).2.1.Dated (host.connect command defaults world).2.2.events := by
  rcases host.connect_cases command defaults world with
    ⟨_, -, heq⟩ | ⟨plan, hroom, ⟨_, world', hfail, heq⟩ | ⟨association, world', hdone, heq⟩⟩
  · rw [heq]
    exact h
  · have hevents := (handshake_brings plan host.config.connectRetryDelayMs plan.retryCount.toNat world).1 _ world' hfail
    rw [heq]
    exact hevents ▸ h
  · obtain ⟨hnumber, hevents⟩ :=
      (handshake_brings plan host.config.connectRetryDelayMs plan.retryCount.toNat world).2 association world' hdone
    rw [heq]
    have hafter : host.Dated (world.events ++ [.connected]) := h.append fun number hmem => by
      cases List.mem_singleton.mp hmem
    refine register_dated hroom (hevents ▸ hafter) plan ?_ fun session hsession => ?_
    · rw [hnumber, hevents, List.length_append]
      exact Nat.lt_add_of_pos_right Nat.one_pos
    · rw [hnumber]
      exact Nat.ne_of_lt (h.sessions session hsession).appeared

lemma perform_dated (hnodup : host.registry.keys.Nodup) (hsettled : ∀ session ∈ host.registry.sessions, session.Settled)
    (h : host.Dated world.events) (call : HostCall) :
    (host.perform call world).2.1.Dated (host.perform call world).2.2.events := by
  cases call with
  | connect command defaults => exact connect_dated h command defaults
  | connectAttempt attempt defaults =>
    obtain ⟨world', hworld, hcase⟩ := host.connectAttempt_cases attempt defaults world
    have hevents : world'.events = world.events := by
      rcases hworld with rfl | ⟨_, rfl⟩ <;> rfl
    rw [← hevents] at h
    simp only [perform]
    rcases hcase with ⟨_, -, heq⟩ | ⟨command, heq⟩
    · rw [heq]
      exact h
    · rw [heq]
      exact connect_dated h command defaults
  | disconnect key =>
    rcases host.disconnect_cases hnodup key world with ⟨-, heq⟩ | ⟨before, session, behind, hsplit, -, -, heq⟩
    · simp only [perform, heq]
      exact h
    · simp only [perform, heq]
      have hsublist : (before ++ behind).Sublist host.registry.sessions := by
        rw [hsplit]
        exact (List.sublist_cons_self session behind).append_left before
      refine ⟨fun other hother => ?_, h.distinct.sublist (hsublist.map _)⟩
      refine (session.release_events world).symm ▸ h.sessions other (hsublist.subset hother)
  | disconnectAll => exact ⟨fun _ hsession => (List.not_mem_nil hsession).elim, List.nodup_nil⟩
  | reset key => exact onSession_dated hnodup hsettled h key _ Session.reset_dating
  | reestablish key => exact onSession_dated hnodup hsettled h key _ (Session.reestablish_dating host.config.ioQueueDepth)
  | _ => exact unmoved_dated h ((Watched.labelling W Q).perform_unmoved hnodup rfl world)

lemma dated_run (config : Config) (world : W) (calls : List (HostCall × (W → W))) :
    let run := (Host.ofConfig config : Host (Numbered C) (Numbered Q)).run (⟨world, [], []⟩ : Watched W) (watchedCalls calls)
    run.2.1.Dated run.2.2.events := by
  refine (run_induction (fun log host (world : Watched W) => Sound config log host ∧ host.Dated world.events) ?_
    (watchedCalls calls) ?_ ⟨Sound.start config, fun _ hsession => (List.not_mem_nil hsession).elim, List.nodup_nil⟩).2
  · exact fun _ _ world call ⟨hsound, h⟩ =>
      ⟨hsound.perform call world, perform_dated hsound.enrolled.nodup hsound.settled h call⟩
  · intro call hcall log host world h
    obtain ⟨original, -, rfl⟩ := List.mem_map.mp hcall
    exact h

end Host

end FabricHost
