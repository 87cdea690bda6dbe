import FabricHost.Proofs.Host.Invariants
import FabricHost.Proofs.KeepAlive.Seen

/-!
# Calls without keep-alives

Calls on one session and calls that end sessions are quiet: no handshake and no keep-alive is seen of them, and the
sessions that are still there have the admin queue pairs and the timers that they had.
-/

namespace FabricHost

namespace Sight

/-- Whether a keep-alive was accepted that was handed to a queue pair. -/
def keepAlive? (queue : Nat) : Sight → Option Bool
  | handed other .keepAlive accepted => if other = queue then some accepted else none
  | _ => none

/-- The keep-alives that were handed to a queue pair: for each, whether it was accepted. -/
def keepAlives (queue : Nat) (sights : List Sight) : List Bool := sights.filterMap (keepAlive? queue)

/-- Neither a handshake nor a keep-alive. -/
def IsQuiet : Sight → Prop
  | time _ => True
  | connected _ => False
  | handed _ command _ => command ≠ .keepAlive

lemma IsQuiet.keepAlive?_eq_none {sight : Sight} (h : sight.IsQuiet) (queue : Nat) : sight.keepAlive? queue = none := by
  unfold keepAlive?
  split
  · exact (h rfl).elim
  · rfl

lemma keepAlives_eq_nil_of_quiet {sights : List Sight} (h : ∀ sight ∈ sights, sight.IsQuiet) (queue : Nat) :
    keepAlives queue sights = [] :=
  List.filterMap_eq_nil_iff.mpr fun sight hmem => (h sight hmem).keepAlive?_eq_none queue

end Sight

/-- Between two worlds only quiet things were seen. -/
structure Seen.Quietly {W : Type} (before after : Seen W) : Prop where
  sights : ∃ new, after.sights = before.sights ++ new ∧ ∀ sight ∈ new, sight.IsQuiet
  queues : before.queues ≤ after.queues

namespace Seen.Quietly

variable {W : Type} {first second third : Seen W}

lemma of_sights (h : second.sights = first.sights) (hqueues : first.queues ≤ second.queues) : Quietly first second :=
  ⟨⟨[], by rw [h, List.append_nil], fun _ hmem => (List.not_mem_nil hmem).elim⟩, hqueues⟩

lemma refl (seen : Seen W) : Quietly seen seen := .of_sights rfl (Nat.le_refl _)

lemma trans (h : Quietly first second) (h' : Quietly second third) : Quietly first third := by
  obtain ⟨new, hnew, hall⟩ := h.sights
  obtain ⟨new', hnew', hall'⟩ := h'.sights
  refine ⟨⟨new ++ new', by rw [hnew', hnew, List.append_assoc], fun sight hmem => ?_⟩, Nat.le_trans h.queues h'.queues⟩
  exact (List.mem_append.mp hmem).elim (hall sight) (hall' sight)

end Seen.Quietly

/-- The number of the admin queue pair of a session, and its keep-alive timer. -/
def Session.beat {C Q : Type} (session : Session C (Numbered Q)) : Nat × KeepAliveTimer :=
  (session.admin.queue.number, session.keepAlive)

variable {W C Q : Type} [Fabric W C Q] [Clock W]

omit [Fabric W C Q] in
lemma Seen.now_quietly (seen : Seen W) : Quietly seen (Clock.now seen).2 := by
  refine ⟨⟨_, rfl, fun sight hmem => ?_⟩, Nat.le_refl _⟩
  rw [List.mem_singleton.mp hmem]
  trivial

omit [Clock W] in
lemma Seen.createIoQueue_seen (seen : Seen W) (controller : C) (depth : UInt16) :
    let result := Fabric.createIoQueue (Q := Numbered Q) controller depth seen
    result.2.2.sights = seen.sights ∧ seen.queues ≤ result.2.2.queues := by
  simp only [Fabric.createIoQueue]
  rcases Fabric.createIoQueue controller depth seen.world with ⟨_ | _, controller, world⟩
  · exact ⟨rfl, Nat.le_refl _⟩
  · exact ⟨rfl, Nat.le_succ _⟩

namespace Channel

omit [Clock W] in
lemma reap_unseen (channel : Channel (Numbered Q)) (seen : Seen W) :
    let result := channel.reap seen
    result.2.1.queue.number = channel.queue.number ∧ result.2.2.queues = seen.queues ∧
      result.2.2.sights = seen.sights := by
  simp only [reap, QueuePairs.process]
  rcases QueuePairs.process channel.queue.handle 0 seen.world with ⟨_ | _, handle, world⟩ <;> exact ⟨rfl, rfl, rfl⟩

variable {own : RequestId → Prop} {sends : Command → Prop} {before after : Channel (Numbered Q) × Seen W}

lemma Step.quietly (h : Step own sends before after) (hsends : ∀ command, sends command → command ≠ .keepAlive) :
    after.1.queue.number = before.1.queue.number ∧ Seen.Quietly before.2 after.2 := by
  have hsubmit : ∀ (channel : Channel (Numbered Q)) (seen : Seen W) (command : Command), sends command →
      let result := QueuePairs.submit channel.queue command seen
      result.2.1.number = channel.queue.number ∧ Seen.Quietly seen result.2.2 := by
    intro channel seen command hcommand
    refine ⟨rfl, ⟨_, rfl, fun sight hmem => ?_⟩, Nat.le_refl _⟩
    rw [List.mem_singleton.mp hmem]
    exact hsends command hcommand
  cases h with
  | now _ seen => exact ⟨rfl, seen.now_quietly⟩
  | @submit channel seen _ command _ hcommand =>
    have hdone := hsubmit channel seen command hcommand
    unfold Channel.submit
    split
    all_goals
      rename_i heq
      rwa [heq] at hdone
  | @submitDetached channel seen command hcommand =>
    have hdone := hsubmit channel seen command hcommand
    unfold Channel.submitDetached
    split
    all_goals
      rename_i heq
      rwa [heq] at hdone
  | reap channel seen =>
    obtain ⟨hnumber, hqueues, hsights⟩ := channel.reap_unseen seen
    exact ⟨hnumber, .of_sights hsights (Nat.le_of_eq hqueues.symm)⟩
  | take => exact ⟨rfl, .refl _⟩
  | abandon => exact ⟨rfl, .refl _⟩

lemma Steps.quietly (h : Steps own sends before after) (hsends : ∀ command, sends command → command ≠ .keepAlive) :
    after.1.queue.number = before.1.queue.number ∧ Seen.Quietly before.2 after.2 := by
  induction h with
  | refl => exact ⟨rfl, .refl _⟩
  | tail _ hstep ih =>
    obtain ⟨hnumber, hseen⟩ := hstep.quietly hsends
    exact ⟨hnumber.trans ih.1, ih.2.trans hseen⟩

lemma drain_quietly (limit : Nat) (channel : Channel (Numbered Q)) (seen : Seen W) :
    Seen.Quietly seen (channel.drain limit seen).2 :=
  ((channel.drain_reaps seen limit).quietly fun _ hnone => hnone.elim).2

end Channel

namespace Session

lemma Errands.quietly {own : SessionKey → RequestId → Prop} {sends : Command → Prop}
    {before after : Session C (Numbered Q) × Seen W} (h : Errands own sends before after)
    (hsends : ∀ command, sends command → command ≠ .keepAlive) :
    after.1.beat = before.1.beat ∧ Seen.Quietly before.2 after.2 := by
  induction h with
  | refl => exact ⟨rfl, .refl _⟩
  | tail _ herrand ih =>
    refine ⟨Eq.trans ?_ ih.1, ih.2.trans ?_⟩
    · cases herrand with
      | admin h => exact Prod.ext (h.quietly fun _ hcommand => hcommand.2).1 rfl
      | _ => rfl
    · cases herrand with
      | now _ seen => exact seen.now_quietly
      | admin h => exact (h.quietly fun _ hcommand => hcommand.2).2
      | io _ h => exact (h.quietly hsends).2
      | learn => exact .refl _

variable (session : Session C (Numbered Q)) (seen : Seen W)

lemma release_quietly : Seen.Quietly seen (session.release seen) := by
  have hrest : ∀ world : Seen W, Seen.Quietly world
      (match session.admin.drain Channel.drainLimit world with
        | (_, last) => Fabric.releaseController session.controller last) := by
    intro world
    have hadmin := session.admin.drain_quietly Channel.drainLimit world
    rcases heq : session.admin.drain Channel.drainLimit world with ⟨channel, last⟩
    rw [heq] at hadmin
    exact hadmin.trans (.of_sights rfl (Nat.le_refl _))
  unfold Session.release
  refine Seen.Quietly.trans ?_ (hrest _)
  split
  · rename_i io _
    exact (io.drain_quietly Channel.drainLimit seen).trans (.of_sights rfl (Nat.le_refl _))
  · exact .refl seen

omit [Clock W] in
lemma reset_quietly : (session.reset seen).2.1.beat = session.beat ∧ Seen.Quietly seen (session.reset seen).2.2 := by
  have hreset : Seen.Quietly seen (Fabric.resetController (Q := Numbered Q) session.controller seen).2.2 :=
    .of_sights rfl (Nat.le_refl _)
  rcases session.reset_cases seen with ⟨_, _, _, heq, hresult⟩ | ⟨_, _, heq, hresult⟩
  · rw [heq] at hreset
    rw [hresult]
    exact ⟨rfl, hreset⟩
  · rw [heq] at hreset
    rw [hresult]
    refine ⟨rfl, ?_⟩
    dsimp only
    split
    · exact hreset.trans (.of_sights rfl (Nat.le_refl _))
    · exact hreset

omit [Clock W] in
lemma reestablish_quietly (depth : UInt16) :
    (session.reestablish depth seen).2.1.beat = session.beat ∧ Seen.Quietly seen (session.reestablish depth seen).2.2 := by
  have hcreate := seen.createIoQueue_seen session.controller depth (Q := Q)
  unfold reestablish
  split
  · exact ⟨rfl, .refl seen⟩
  · split
    all_goals
      rename_i heq
      rw [heq] at hcreate
      exact ⟨rfl, .of_sights hcreate.1 hcreate.2⟩
  · exact ⟨rfl, .refl seen⟩
  · exact ⟨rfl, .refl seen⟩

end Session

namespace Host

variable {host : Host C (Numbered Q)} {seen : Seen W} {key : SessionKey}

/-- What a host has for its keep-alives: its settings, and the admin queue pairs and timers of its sessions. -/
structure Quietly (before after : Host C (Numbered Q) × Seen W) : Prop where
  config : after.1.config = before.1.config
  beats : (after.1.registry.sessions.map Session.beat).Sublist (before.1.registry.sessions.map Session.beat)
  seen : Seen.Quietly before.2 after.2

lemma Visit.quietly {own : SessionKey → RequestId → Prop} {sends : Command → Prop}
    {before after : Host C (Numbered Q) × Seen W} (h : Visit own sends key before after)
    (hsends : ∀ command, sends command → command ≠ .keepAlive) : Quietly before after := by
  induction h with
  | now _ ih => exact ⟨ih.config, ih.beats, (Seen.now_quietly _).trans ih.seen⟩
  | number _ _ ih => exact ⟨ih.config, ih.beats, ih.seen⟩
  | missed => exact ⟨rfl, List.Sublist.refl _, .refl _⟩
  | made hsplit _ _ h =>
    obtain ⟨hbeat, hseen⟩ := h.quietly hsends
    refine ⟨rfl, ?_, hseen⟩
    rw [hsplit, List.map_append, List.map_append, List.map_cons, List.map_cons, hbeat]

omit [Fabric W C Q] [Clock W] in
lemma onSession_quietly (hnodup : host.registry.keys.Nodup) (missing : HostError) {α : Type}
    {action : Session C (Numbered Q) → Seen W → Except HostError α × Session C (Numbered Q) × Seen W}
    (hkey : ∀ session seen, (action session seen).2.1.key = session.key)
    (haction : ∀ session, (action session seen).2.1.beat = session.beat ∧ Seen.Quietly seen (action session seen).2.2) :
    Quietly (host, seen) (host.onSession key missing action seen).2 := by
  rcases onSession_cases hnodup key missing action hkey seen with
    ⟨-, heq⟩ | ⟨before, session, behind, hsplit, -, -, heq⟩
  · rw [heq]
    exact ⟨rfl, List.Sublist.refl _, .refl _⟩
  · obtain ⟨hbeat, hseen⟩ := haction session
    rw [heq]
    refine ⟨rfl, ?_, hseen⟩
    rw [hsplit, List.map_append, List.map_append, List.map_cons, List.map_cons, hbeat]

/-- Calls that neither connect nor pass over the sessions are quiet. -/
lemma perform_quietly (hnodup : host.registry.keys.Nodup) {call : HostCall}
    (h : call = .disconnectAll ∨ call.addressee?.isSome) : Quietly (host, seen) (host.perform call seen).2 := by
  have hio : ∀ command, call.ioCommand? = some command → command ≠ .keepAlive := by
    rintro _ hcommand rfl
    cases call <;> cases hcommand
  rcases h with rfl | h
  · refine ⟨rfl, List.nil_sublist _, ?_⟩
    change Seen.Quietly seen (host.registry.sessions.foldr Session.release seen)
    induction host.registry.sessions with
    | nil => exact .refl seen
    | cons session rest ih => exact ih.trans (session.release_quietly _)
  · obtain ⟨key, hkey⟩ := Option.isSome_iff_exists.mp h
    cases call with
    | connect | connectAttempt | disconnectAll | tick | tickAt => cases hkey
    | disconnect key =>
      rcases disconnect_cases hnodup key seen with ⟨-, heq⟩ | ⟨before, session, behind, hsplit, -, -, heq⟩
      · rw [perform, heq]
        exact ⟨rfl, List.Sublist.refl _, .refl _⟩
      · rw [perform, heq]
        refine ⟨rfl, List.Sublist.map _ ?_, session.release_quietly seen⟩
        rw [hsplit]
        exact (List.Sublist.refl before).append (List.sublist_cons_self session behind)
    | reset =>
      exact onSession_quietly hnodup _ Session.reset_key fun session => session.reset_quietly seen
    | reestablish =>
      exact onSession_quietly hnodup _ (fun session => session.reestablish_key _)
        fun session => session.reestablish_quietly seen _
    | _ => exact (perform_visit hnodup rfl hkey seen).quietly hio

end Host

end FabricHost
