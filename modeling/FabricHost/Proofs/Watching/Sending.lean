import FabricHost.Proofs.Host.Membership
import FabricHost.Proofs.Host.Traffic
import FabricHost.Proofs.Session.Lifecycle
import FabricHost.Proofs.Watching.Watched

/-!
# What is handed to queue pairs

The steps of traffic hand to an admin queue only admin commands, and to an I/O queue only the commands that the call may
send. Nothing else that a host does hands a command to a queue pair.
-/

namespace FabricHost

variable {W C Q : Type} [Fabric W C Q] [Clock W]

/-- Only commands that are allowed were handed to queue pairs meanwhile. -/
def Watched.Sends {W : Type} (allowed : Nat × Command → Prop) (before after : Watched W) : Prop :=
  ∃ new, after.sent = before.sent ++ new ∧ ∀ entry ∈ new, allowed entry

namespace Watched.Sends

variable {allowed allowed' : Nat × Command → Prop} {first second third : Watched W}

omit [Fabric W C Q] [Clock W] in
lemma of_eq (h : second.sent = first.sent) : Sends allowed first second :=
  ⟨[], by rw [h, List.append_nil], fun _ hentry => (List.not_mem_nil hentry).elim⟩

omit [Fabric W C Q] [Clock W] in
lemma trans (h : Sends allowed first second) (h' : Sends allowed second third) : Sends allowed first third := by
  obtain ⟨new, hnew, hall⟩ := h
  obtain ⟨new', hnew', hall'⟩ := h'
  refine ⟨new ++ new', by rw [hnew', hnew, List.append_assoc], fun entry hentry => ?_⟩
  exact (List.mem_append.mp hentry).elim (hall entry) (hall' entry)

omit [Fabric W C Q] [Clock W] in
lemma mono (h : Sends allowed first second) (hmono : ∀ entry, allowed entry → allowed' entry) :
    Sends allowed' first second :=
  h.imp fun _ ⟨hnew, hall⟩ => ⟨hnew, fun entry hentry => hmono entry (hall entry hentry)⟩

end Watched.Sends

lemma Channel.Step.sends {own : RequestId → Prop} {sends : Command → Prop}
    {before after : Channel (Numbered Q) × Watched W} (h : Channel.Step own sends before after) :
    Watched.Sends (fun entry => entry.1 = before.1.queue.number ∧ sends entry.2) before.2 after.2 := by
  have hsubmit : ∀ (channel : Channel (Numbered Q)) (world : Watched W) (command : Command), sends command →
      Watched.Sends (fun entry => entry.1 = channel.queue.number ∧ sends entry.2) world
        (QueuePairs.submit channel.queue command world).2.2 := fun channel world command hsends =>
    ⟨[(channel.queue.number, command)], rfl, fun entry hentry => by
      rw [List.mem_singleton.mp hentry]
      exact ⟨rfl, hsends⟩⟩
  cases h with
  | now => exact .of_eq rfl
  | @submit channel world _ command _ hsends =>
    have hsent := hsubmit channel world command hsends
    unfold Channel.submit
    split
    all_goals
      rename_i heq
      rwa [heq] at hsent
  | @submitDetached channel world command hsends =>
    have hsent := hsubmit channel world command hsends
    unfold Channel.submitDetached
    split
    all_goals
      rename_i heq
      rwa [heq] at hsent
  | reap channel world =>
    have hsent : (QueuePairs.process channel.queue 0 world).2.2.sent = world.sent := rfl
    unfold Channel.reap
    split
    all_goals
      rename_i heq
      rw [heq] at hsent
      exact .of_eq hsent
  | take => exact .of_eq rfl
  | abandon => exact .of_eq rfl

lemma Channel.Steps.sends {own : RequestId → Prop} {sends : Command → Prop}
    {before after : Channel (Numbered Q) × Watched W} (h : Channel.Steps own sends before after) :
    Watched.Sends (fun entry => entry.1 = before.1.queue.number ∧ sends entry.2) before.2 after.2 := by
  induction h with
  | refl => exact .of_eq rfl
  | tail hsteps hstep ih =>
    have hquiet : (Watched.labelling W Q).Quiet _ _ := Channel.Steps.quiet hsteps
    have hnumber := hquiet.queue
    refine ih.trans (hstep.sends.mono fun entry hentry => ⟨hentry.1.trans hnumber, hentry.2⟩)

/-- An admin command, or one that may be sent on the I/O queue. -/
def Session.Hands (sends : Command → Prop) (session : Session C (Numbered Q)) (entry : Nat × Command) : Prop :=
  entry.2.isAdmin = true ∨ session.io.map (·.queue.number) = some entry.1 ∧ sends entry.2

lemma Session.Step.sends {own : SessionKey → RequestId → Prop} {sends : Command → Prop}
    {before after : Session (Numbered C) (Numbered Q) × Watched W} (h : Session.Step own sends before after) :
    Watched.Sends (before.1.Hands sends) before.2 after.2 := by
  cases h with
  | now => exact .of_eq rfl
  | admin h => exact h.sends.mono fun entry hentry => .inl hentry.2
  | io hio h =>
    refine h.sends.mono fun entry hentry => .inr ⟨?_, hentry.2⟩
    rw [hio, hentry.1]
    rfl
  | learn => exact .of_eq rfl
  | timer => exact .of_eq rfl

lemma Session.Steps.sends {own : SessionKey → RequestId → Prop} {sends : Command → Prop}
    {before after : Session (Numbered C) (Numbered Q) × Watched W} (h : Session.Steps own sends before after) :
    (Watched.labelling W Q).Like before.1 after.1 ∧ Watched.Sends (before.1.Hands sends) before.2 after.2 := by
  induction h with
  | refl => exact ⟨.refl _, .of_eq rfl⟩
  | tail _ hstep ih =>
    obtain ⟨hlike, hsent⟩ := ih
    refine ⟨hlike.trans hstep.alike.like, hsent.trans (hstep.sends.mono fun entry hentry => ?_)⟩
    exact hentry.imp_right fun ⟨hnumber, hsends⟩ => ⟨hlike.io.symm.trans hnumber, hsends⟩

/-- Traffic that sends nothing on I/O queues hands out only admin commands. -/
lemma Host.Steps.sends {own : SessionKey → RequestId → Prop} {sends : Command → Prop} (hnone : ∀ command, ¬ sends command)
    {before after : Host (Numbered C) (Numbered Q) × Watched W} (h : Host.Steps own sends before after) :
    Watched.Sends (fun entry => entry.2.isAdmin = true) before.2 after.2 := by
  induction h with
  | refl => exact .of_eq rfl
  | tail _ hstep ih =>
    refine ih.trans ?_
    cases hstep with
    | now => exact .of_eq rfl
    | number => exact .of_eq rfl
    | session _ h =>
      exact h.sends.mono fun entry hentry => hentry.resolve_right fun ⟨_, hsends⟩ => hnone _ hsends

namespace Watched

variable (watched : Watched W)

omit [Clock W] in
lemma sent_connect {params : HandshakeParams} {timeoutMs : Nat} {watched' : Watched W}
    {outcome : HandshakeOutcome (Numbered C) (Numbered Q)}
    (h : Fabric.connect params timeoutMs watched = (outcome, watched')) : watched'.sent = watched.sent := by
  simp only [Fabric.connect] at h
  rcases heq : Fabric.connect params timeoutMs watched.world with ⟨_ | _ | _, world⟩
  all_goals
    rw [heq] at h
    cases h
    rfl

omit [Clock W] in
lemma sent_createIoQueue (controller : Numbered C) (depth : UInt16) :
    (Fabric.createIoQueue (Q := Numbered Q) controller depth watched).2.2.sent = watched.sent := by
  simp only [Fabric.createIoQueue]
  rcases Fabric.createIoQueue controller.handle depth watched.world with ⟨_ | _, handle, world⟩ <;> rfl

omit [Clock W] in
lemma sent_resetController (controller : Numbered C) :
    (Fabric.resetController (Q := Numbered Q) controller watched).2.2.sent = watched.sent := by
  simp only [Fabric.resetController]
  rcases Fabric.resetController controller.handle watched.world with ⟨_ | _, handle, world⟩ <;> rfl

end Watched

namespace Session

variable (session : Session (Numbered C) (Numbered Q)) (world : Watched W)

lemma sent_drain (channel : Channel (Numbered Q)) (limit : Nat) (world : Watched W) :
    (channel.drain limit world).2.sent = world.sent := by
  obtain ⟨new, hnew, hall⟩ := (channel.drain_reaps world limit).sends
  have hempty : new = [] := List.eq_nil_iff_forall_not_mem.mpr fun entry hentry => (hall entry hentry).2
  rw [hnew, hempty, List.append_nil]

lemma sent_release : (session.release world).sent = world.sent := by
  unfold release
  refine (sent_drain session.admin Channel.drainLimit _).trans ?_
  split
  · rename_i io _
    exact sent_drain io Channel.drainLimit world
  · rfl

omit [Clock W] in
lemma sent_reset : (session.reset world).2.2.sent = world.sent := by
  have hreset := world.sent_resetController session.controller (Q := Q)
  rcases session.reset_cases world with ⟨_, _, _, heq, hresult⟩ | ⟨_, _, heq, hresult⟩
  · rw [heq] at hreset
    rwa [hresult]
  · rw [heq] at hreset
    rw [hresult]
    refine Eq.trans ?_ hreset
    dsimp only
    split <;> rfl

omit [Clock W] in
lemma sent_reestablish (depth : UInt16) : (session.reestablish depth world).2.2.sent = world.sent := by
  have hcreate := world.sent_createIoQueue session.controller depth (Q := Q)
  unfold reestablish
  split
  · rfl
  · split
    all_goals
      rename_i heq
      rwa [heq] at hcreate
  · rfl
  · rfl

end Session

namespace Host

variable (host : Host (Numbered C) (Numbered Q)) (world : Watched W)

omit [Clock W] in
lemma sent_handshake (plan : ConnectPlan) (pauseMs retries : Nat) :
    (handshake (C := Numbered C) (Q := Numbered Q) plan pauseMs retries world).2.sent = world.sent := by
  have hleaves : (∀ error world', handshake plan pauseMs retries world = (.error error, world') → world'.sent = world.sent) ∧
      ∀ association world', handshake (C := Numbered C) (Q := Numbered Q) plan pauseMs retries world =
        (.ok association, world') → world'.sent = world.sent := by
    refine handshake_leaves (fun first second => second.sent = first.sent) (fun _ first second => second.sent = first.sent)
      plan pauseMs ?_ ?_ ?_ ?_ ?_ retries world
    · exact fun heq => Watched.sent_connect _ heq
    · exact fun heq _ => Watched.sent_connect _ heq
    · exact fun htried => htried
    · exact fun htried hlater => hlater.trans htried
    · exact fun htried hlater => hlater.trans htried
  rcases heq : handshake plan pauseMs retries world with ⟨error | association, world'⟩
  · exact hleaves.1 error world' heq
  · exact hleaves.2 association world' heq

lemma sent_register (hroom : host.registry.isFull = false) (plan : ConnectPlan)
    (association : Association (Numbered C) (Numbered Q)) :
    (host.register plan association world).2.2.sent = world.sent := by
  have hcreate := world.sent_createIoQueue association.controller host.config.ioQueueDepth (Q := Q)
  rcases register_cases hroom plan association world with ⟨_, _, _, heq, hresult⟩ | ⟨_, _, _, heq, ⟨-, hresult⟩ | ⟨_, _, -, -, hresult⟩⟩
  all_goals
    rw [heq] at hcreate
    rwa [hresult]

lemma sent_connect (command : ConnectCommand) (defaults : HostDefaults) :
    (host.connect command defaults world).2.2.sent = world.sent := by
  rcases host.connect_cases command defaults world with
    ⟨_, -, hresult⟩ | ⟨plan, hroom, ⟨_, world', heq, hresult⟩ | ⟨association, world', heq, hresult⟩⟩
  · rw [hresult]
  all_goals
    have hhandshake := sent_handshake world plan host.config.connectRetryDelayMs plan.retryCount.toNat (C := C) (Q := Q)
    rw [heq] at hhandshake
    rw [hresult]
  · exact hhandshake
  · exact (host.sent_register world' hroom plan association).trans hhandshake

omit [Fabric W C Q] [Clock W] in
lemma sent_onSession {α : Type} (key : SessionKey) (missing : HostError)
    (action : Session (Numbered C) (Numbered Q) → Watched W → Except HostError α × Session (Numbered C) (Numbered Q) × Watched W)
    (haction : ∀ session, (action session world).2.2.sent = world.sent) :
    (host.onSession key missing action world).2.2.sent = world.sent := by
  unfold onSession
  split
  · rfl
  · exact haction _

/-- Only traffic hands commands to queue pairs. -/
lemma sent_perform {call : HostCall} (htraffic : call.isTraffic = false) :
    (host.perform call world).2.2.sent = world.sent := by
  cases call with
  | connect command defaults => exact host.sent_connect world command defaults
  | connectAttempt attempt defaults =>
    obtain ⟨world', hworld, ⟨_, -, hresult⟩ | ⟨command, hresult⟩⟩ := host.connectAttempt_cases attempt defaults world
    all_goals
      have hsent : world'.sent = world.sent := by
        rcases hworld with rfl | ⟨_, rfl⟩ <;> rfl
      simp only [perform]
      rw [hresult]
    · exact hsent
    · exact (host.sent_connect world' command defaults).trans hsent
  | disconnect key =>
    simp only [perform, disconnect]
    split
    · rfl
    · exact Session.sent_release _ world
  | disconnectAll =>
    simp only [perform, disconnectAll]
    change (host.registry.sessions.foldr Session.release world).sent = world.sent
    induction host.registry.sessions with
    | nil => rfl
    | cons session rest ih => exact (session.sent_release _).trans ih
  | reset key => exact host.sent_onSession world key _ _ fun session => session.sent_reset world
  | reestablish key => exact host.sent_onSession world key _ _ fun session => session.sent_reestablish world _
  | _ => cases htraffic

end Host

end FabricHost
