import FabricHost.Proofs.Host.Connecting
import FabricHost.Proofs.Ownership.Ledger
import FabricHost.Proofs.Session.Lifecycle

/-!
# Handles of sessions

What a session does with its handles: a reset gives the I/O queue pair up, re-establishing takes a new one, and a release
gives up everything. A connect passes the new controller on to a session or gives it up again.
-/

namespace FabricHost

variable {W C Q : Type} [Fabric W C Q] [Clock W]

lemma Channel.release_events (channel : Channel (Numbered Q)) (world : Traced W) :
    (channel.release world).events = world.events ++ [.queueReleased channel.queue.number] := by
  have hdrain := (Traced.labelling W Q).drain_quiet Channel.drainLimit channel world
  have hnumber : (Channel.drain Channel.drainLimit channel world).1.queue.number = channel.queue.number := hdrain.queue
  have hevents : (Channel.drain Channel.drainLimit channel world).2.events = world.events := hdrain.record
  change (Channel.drain Channel.drainLimit channel world).2.events ++
    [.queueReleased (Channel.drain Channel.drainLimit channel world).1.queue.number] = _
  rw [hnumber, hevents]

namespace Session

def holding (session : Session (Numbered C) (Numbered Q)) : Holding where
  controller := session.controller.number
  queue := session.io.map (·.queue.number)

variable (session : Session (Numbered C) (Numbered Q)) (world : Traced W) {rest : List Holding}

/-- The queue pair of a session, if it has one, is given up before its controller. -/
lemma release_accounts (h : Accounts (session.holding :: rest) world.events) :
    Accounts rest (session.release world).events := by
  have hadmin : ∀ world' : Traced W,
      (Channel.drain Channel.drainLimit session.admin world').2.events = world'.events := fun world' =>
    ((Traced.labelling W Q).drain_quiet Channel.drainLimit session.admin world').record
  have hrelease : ∀ world' : Traced W, Accounts (⟨session.controller.number, none⟩ :: rest) world'.events →
      Accounts rest (Fabric.releaseController session.controller
        (Channel.drain Channel.drainLimit session.admin world').2).events := by
    intro world' h'
    have hlast := h'.releaseController
    rw [← hadmin world'] at hlast
    exact hlast
  unfold holding at h
  unfold release
  split
  · rename_i io hio
    rw [hio] at h
    apply hrelease
    rw [io.release_events]
    exact h.releaseQueue
  · rename_i hio
    rw [hio] at h
    exact hrelease world h

/-- An action on a session that leaves it under its key and accounts for its handles. -/
structure Careful {α : Type} (action : Session (Numbered C) (Numbered Q) → Traced W →
    Except HostError α × Session (Numbered C) (Numbered Q) × Traced W) : Prop where
  key : ∀ session world, (action session world).2.1.key = session.key
  settled : ∀ session world, session.Settled → (action session world).2.1.Settled
  accounts : ∀ session world rest, session.Settled → Accounts (session.holding :: rest) world.events →
    Accounts ((action session world).2.1.holding :: rest) (action session world).2.2.events

omit [Clock W] in
lemma reset_careful : Careful (reset : Session (Numbered C) (Numbered Q) → Traced W → _) where
  key := reset_key
  settled session world h := h.reset world
  accounts session world rest _ h := by
    obtain ⟨hnumber, hevents⟩ := Traced.resetController_events session.controller world
    unfold holding at h
    rcases session.reset_cases world with ⟨failure, controller, world', hreset, heq⟩ | ⟨controller, world', hreset, heq⟩
    · rw [hreset] at hnumber hevents
      rw [← hnumber, ← hevents] at h
      rw [heq]
      exact h
    · rw [hreset] at hnumber hevents
      rw [← hnumber, ← hevents] at h
      rw [heq]
      cases hio : session.io with
      | none =>
        rw [hio] at h
        exact h
      | some io =>
        rw [hio] at h
        exact h.releaseQueue

omit [Clock W] in
lemma reestablish_careful (depth : UInt16) :
    Careful (fun (session : Session (Numbered C) (Numbered Q)) (world : Traced W) =>
      session.reestablish depth world) where
  key session world := session.reestablish_key depth world
  settled session world h := h.reestablish depth world
  accounts session world rest hsettled h := by
    have hcreate := Traced.createIoQueue_events session.controller depth world
    rcases hsettled.reestablish_cases depth world with
      ⟨-, heq⟩ | ⟨-, hio, ⟨failure, controller, world', hnone, heq⟩ | ⟨queue, controller, world', hsome, heq⟩⟩
    · rw [heq]
      exact h
    · rw [hnone] at hcreate
      obtain ⟨hnumber, hevents⟩ := hcreate
      unfold holding at h
      simp only [heq, holding, hnumber, hevents]
      exact h
    · rw [hsome] at hcreate
      obtain ⟨hnumber, hqueue, hevents⟩ := hcreate
      unfold holding at h
      rw [hio] at h
      simp only [heq, holding, after, Option.map_some, hnumber, hqueue, hevents]
      exact h.create

end Session

namespace Host

def holdings (host : Host (Numbered C) (Numbered Q)) : List Holding := host.registry.sessions.map Session.holding

/-- The sessions of a host, together with what is in hand, account for the events. -/
structure Accounted (host : Host (Numbered C) (Numbered Q)) (inHand : List Holding) (events : List HandleEvent) :
    Prop where
  settled : ∀ session ∈ host.registry.sessions, session.Settled
  accounts : Accounts (inHand ++ host.holdings) events

omit [Clock W] in
/-- Of all handshakes that are made only the last can give out a controller. -/
lemma handshake_events (plan : ConnectPlan) (pauseMs retries : Nat) (world : Traced W) :
    (∀ error world', handshake (C := Numbered C) (Q := Numbered Q) plan pauseMs retries world = (.error error, world') →
        world'.events = world.events) ∧
      ∀ association world', handshake (C := Numbered C) (Q := Numbered Q) plan pauseMs retries world =
        (.ok association, world') →
          association.controller.number = world.events.length ∧ world'.events = world.events ++ [.connected] := by
  refine handshake_leaves (fun first second => second.events = first.events)
    (fun association first second => association.controller.number = first.events.length ∧
      second.events = first.events ++ [.connected]) plan pauseMs ?_ ?_ ?_ ?_ ?_ retries world
  · exact fun heq => (Traced.connect_events heq).1 _ rfl
  · exact fun heq => (Traced.connect_events heq).2
  · exact fun htried => htried
  · exact fun htried hlater => hlater.trans htried
  · exact fun htried hlater => htried ▸ hlater

/-- A controller in hand is passed on to the new session, or released with all that it gave out. -/
lemma register_accounted {host : Host (Numbered C) (Numbered Q)} (hroom : host.registry.isFull = false)
    (plan : ConnectPlan) (association : Association (Numbered C) (Numbered Q)) (world : Traced W)
    (h : host.Accounted [⟨association.controller.number, none⟩] world.events) :
    (host.register plan association world).2.1.Accounted [] (host.register plan association world).2.2.events := by
  have hcreate := Traced.createIoQueue_events association.controller host.config.ioQueueDepth world
  have hinHand := h.accounts
  rw [List.singleton_append] at hinHand
  rcases register_cases hroom plan association world with
    ⟨failure, controller, world', heq, hreg⟩ | ⟨io, controller, world', heq, hcase⟩
  · rw [heq] at hcreate
    obtain ⟨hnumber, hevents⟩ := hcreate
    rw [← hnumber, ← hevents] at hinHand
    rw [hreg]
    exact ⟨h.settled, hinHand.releaseController⟩
  · rw [heq] at hcreate
    obtain ⟨hnumber, hqueue, hevents⟩ := hcreate
    have hcreated := hinHand.create
    rw [← hevents, ← hqueue, ← hnumber] at hcreated
    rcases hcase with ⟨-, hreg⟩ | ⟨key, timer, -, -, hreg⟩
    · rw [hreg]
      exact ⟨h.settled, hcreated.releaseQueue.releaseController⟩
    · have hholding : (newSession plan { association with controller } io key timer).holding =
          ⟨controller.number, some io.number⟩ := rfl
      rw [hreg]
      refine ⟨fun other hother => ?_, ?_⟩
      · rcases List.mem_append.mp hother with hold | hnew
        · exact h.settled other hold
        · rw [List.mem_singleton.mp hnew]
          exact .inl ⟨rfl, rfl⟩
      · simp only [holdings, List.nil_append, List.map_append, List.map_cons, List.map_nil, hholding]
        exact hcreated.perm (List.perm_append_singleton _ _).symm

end Host

end FabricHost
