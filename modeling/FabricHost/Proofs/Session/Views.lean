import FabricHost.Session.Io
import Mathlib.Tactic.Lemma
import Mathlib.Tactic.Simps.Basic

/-!
# Views of fabrics

A fabric may carry more in its worlds and its handles than another one, like a trace of what was done. A `View` leaves
that out. A `Blur` may besides report the completions of a poll differently, as long as they have the same effect on
every tracker. What a session does can be seen through either: it is what the session in view does.
-/

namespace FabricHost

/-- The association with other handles in the place of its own. -/
def Association.map {C' Q' C Q : Type} (controller : C' → C) (queue : Q' → Q) (association : Association C' Q') :
    Association C Q where
  controller := controller association.controller
  admin := queue association.admin
  controllerId := association.controllerId
  namespaceCount := association.namespaceCount

def HandshakeOutcome.map {C' Q' C Q : Type} (controller : C' → C) (queue : Q' → Q) :
    HandshakeOutcome C' Q' → HandshakeOutcome C Q
  | .connected association => .connected (association.map controller queue)
  | .failed failure => .failed failure
  | .timedOut => .timedOut

/-- What a batch of completions is to a channel: how many there are, and what becomes of its tracker. -/
def Tracker.effect (batch : List Completion) : Nat × (Tracker → Tracker) :=
  (batch.length, fun tracker => tracker.absorb batch)

/-- A reap, once the effect of the completions is known. -/
def Channel.settle {W Q : Type} (tracker : Tracker) :
    Except TransportFailure (Nat × (Tracker → Tracker)) × Q × W → Except TransportFailure Nat × Channel Q × W
  | (.error failure, queue, world) => (.error failure, { queue, tracker }, world)
  | (.ok (count, change), queue, world) => (.ok count, { queue, tracker := change tracker }, world)

lemma Channel.reap_eq_settle {W Q : Type} [QueuePairs W Q] (channel : Channel Q) (world : W) :
    channel.reap world =
      settle channel.tracker ((QueuePairs.process channel.queue 0 world).map (Except.map Tracker.effect) id) := by
  unfold Channel.reap
  rcases QueuePairs.process channel.queue 0 world with ⟨_ | _, _, _⟩ <;> rfl

/-- A way to see one fabric as another that all operations respect, except that the completions of a poll need only have
the same effect. -/
structure Blur (W' C' Q' W C Q : Type) [Fabric W' C' Q'] [Clock W'] [Fabric W C Q] [Clock W] where
  world : W' → W
  controller : C' → C
  queue : Q' → Q
  now_eq (w : W') : Clock.now (world w) = ((Clock.now w).1, world (Clock.now w).2)
  submit_eq (q : Q') (command : Command) (w : W') :
    QueuePairs.submit (queue q) command (world w) = (QueuePairs.submit q command w).map id (Prod.map queue world)
  process_eq (q : Q') (limit : Nat) (w : W') :
    (QueuePairs.process (queue q) limit (world w)).map (Except.map Tracker.effect) id =
      (QueuePairs.process q limit w).map (Except.map Tracker.effect) (Prod.map queue world)
  release_eq (q : Q') (w : W') : QueuePairs.release (queue q) (world w) = world (QueuePairs.release q w)
  name_eq (w : W') : Fabric.name (world w) = Fabric.name w
  supports_eq (kind : FabricKind) (w : W') : Fabric.supports kind (world w) = Fabric.supports kind w
  resolve_eq (host : String) (w : W') : Fabric.resolve host (world w) = (Fabric.resolve host w).map id world
  connect_eq (params : HandshakeParams) (timeoutMs : Nat) (w : W') :
    Fabric.connect params timeoutMs (world w) =
      (Fabric.connect params timeoutMs w).map (HandshakeOutcome.map controller queue) world
  wait_eq (ms : Nat) (w : W') : Fabric.wait ms (world w) = world (Fabric.wait ms w)
  createIoQueue_eq (c : C') (depth : UInt16) (w : W') :
    Fabric.createIoQueue (controller c) depth (world w) =
      (Fabric.createIoQueue c depth w).map (Except.map queue) (Prod.map controller world)
  resetController_eq (c : C') (w : W') :
    Fabric.resetController (controller c) (world w) = (Fabric.resetController c w).map id (Prod.map controller world)
  releaseController_eq (c : C') (w : W') :
    Fabric.releaseController (controller c) (world w) = world (Fabric.releaseController c w)

namespace Blur

variable {W' C' Q' W C Q : Type} [Fabric W' C' Q'] [Clock W'] [Fabric W C Q] [Clock W] (blur : Blur W' C' Q' W C Q)

@[simps]
def channel (channel : Channel Q') : Channel Q where
  queue := blur.queue channel.queue
  tracker := channel.tracker

section

variable (channel : Channel Q') (request : RequestId) (command : Command) (world : W')

lemma channel_submit : (blur.channel channel).submit request command (blur.world world) =
    (channel.submit request command world).map id (Prod.map blur.channel blur.world) := by
  simp only [Channel.submit, Blur.channel, blur.submit_eq]
  rcases QueuePairs.submit channel.queue command world with ⟨_ | _, _, _⟩ <;> rfl

lemma channel_submitDetached : (blur.channel channel).submitDetached command (blur.world world) =
    (channel.submitDetached command world).map id (Prod.map blur.channel blur.world) := by
  simp only [Channel.submitDetached, Blur.channel, blur.submit_eq]
  rcases QueuePairs.submit channel.queue command world with ⟨_ | _, _, _⟩ <;> rfl

lemma channel_reap : (blur.channel channel).reap (blur.world world) =
    (channel.reap world).map id (Prod.map blur.channel blur.world) := by
  rw [Channel.reap_eq_settle, Channel.reap_eq_settle, blur.channel_queue, blur.channel_tracker, blur.process_eq]
  rcases QueuePairs.process channel.queue 0 world with ⟨_ | _, _, _⟩ <;> rfl

lemma channel_take : (blur.channel channel).take request = (channel.take request).map id blur.channel := rfl

lemma channel_abandon : (blur.channel channel).abandon request = (channel.abandon request).map id blur.channel := rfl

lemma channel_drain (limit : Nat) : Channel.drain limit (blur.channel channel) (blur.world world) =
    (Channel.drain limit channel world).map blur.channel blur.world := by
  induction limit generalizing channel world with
  | zero => rfl
  | succ limit ih =>
    unfold Channel.drain
    rw [blur.channel_tracker, blur.channel_reap]
    split
    · rfl
    · rcases channel.reap world with ⟨_ | _, channel, world⟩
      · rfl
      · exact ih channel world

lemma channel_release : (blur.channel channel).release (blur.world world) = blur.world (channel.release world) := by
  unfold Channel.release
  rw [blur.channel_drain]
  exact blur.release_eq _ _

lemma channel_submitBy (deadline : Tick) (budget : Nat) :
    Channel.submitBy deadline request command budget (blur.channel channel) (blur.world world) =
      (Channel.submitBy deadline request command budget channel world).map id (Prod.map blur.channel blur.world) := by
  induction budget generalizing channel world with
  | zero => rfl
  | succ budget ih =>
    unfold Channel.submitBy
    rw [blur.channel_submit]
    rcases channel.submit request command world with ⟨(_ | _) | _, channel, world⟩
    · simp only [Prod.map_apply, id_eq, blur.now_eq]
      by_cases hlate : deadline ≤ (Clock.now world).1
      · rw [if_pos hlate, if_pos hlate]
        rfl
      · rw [if_neg hlate, if_neg hlate, blur.channel_reap]
        rcases channel.reap (Clock.now world).2 with ⟨_ | _, channel, world⟩
        · rfl
        · exact ih channel world
    · rfl
    · rfl

lemma channel_awaitBy (deadline : Tick) (budget : Nat) :
    Channel.awaitBy deadline request budget (blur.channel channel) (blur.world world) =
      (Channel.awaitBy deadline request budget channel world).map id (Prod.map blur.channel blur.world) := by
  induction budget generalizing channel world with
  | zero => rfl
  | succ budget ih =>
    unfold Channel.awaitBy
    rw [blur.channel_reap]
    rcases channel.reap world with ⟨_ | _, channel, world⟩
    · rfl
    · simp only [Prod.map_apply, id_eq, blur.channel_take]
      rcases channel.take request with ⟨_ | _, channel⟩
      · simp only [Prod.map_apply, id_eq, blur.now_eq]
        by_cases hlate : deadline ≤ (Clock.now world).1
        · rw [if_pos hlate, if_pos hlate]
          rfl
        · rw [if_neg hlate, if_neg hlate]
          exact ih channel (Clock.now world).2
      · rfl

lemma channel_execute (budget : Nat) (deadline : Tick) :
    (blur.channel channel).execute budget deadline request command (blur.world world) =
      (channel.execute budget deadline request command world).map id (Prod.map blur.channel blur.world) := by
  unfold Channel.execute
  rw [blur.channel_submitBy]
  rcases Channel.submitBy deadline request command budget channel world with ⟨_ | _, channel, world⟩
  · rfl
  · exact blur.channel_awaitBy channel request world deadline budget

end

@[simps]
def session (session : Session C' Q') : Session C Q where
  key := session.key
  controller := blur.controller session.controller
  admin := blur.channel session.admin
  io := session.io.map blur.channel
  state := session.state
  geometries := session.geometries
  target := session.target
  subsystemNqn := session.subsystemNqn
  hostNqn := session.hostNqn
  attempt := session.attempt
  controllerId := session.controllerId
  namespaceCount := session.namespaceCount
  keepAlive := session.keepAlive

variable (session : Session C' Q') (request : RequestId) (command : Command) (budget : Nat) (deadline : Tick)
  (world : W')

lemma session_identifyPage :
    (blur.session session).identifyPage budget deadline request command (blur.world world) =
      (session.identifyPage budget deadline request command world).map id (Prod.map blur.session blur.world) := by
  unfold Session.identifyPage
  rw [blur.session_admin, blur.channel_execute]
  rfl

lemma session_identifyController :
    (blur.session session).identifyController budget deadline request (blur.world world) =
      (session.identifyController budget deadline request world).map id (Prod.map blur.session blur.world) := by
  unfold Session.identifyController
  rw [blur.session_identifyPage]
  rfl

lemma session_identifyNamespace (nsid : UInt32) :
    (blur.session session).identifyNamespace budget deadline request nsid (blur.world world) =
      (session.identifyNamespace budget deadline request nsid world).map id (Prod.map blur.session blur.world) := by
  unfold Session.identifyNamespace
  rw [blur.session_identifyPage]
  rcases session.identifyPage budget deadline request (.identifyNamespace nsid) world with ⟨page, session, world⟩
  simp only [Prod.map_apply, id_eq]
  split <;> rfl

lemma session_executeIo :
    (blur.session session).executeIo budget deadline request command (blur.world world) =
      (session.executeIo budget deadline request command world).map id (Prod.map blur.session blur.world) := by
  unfold Session.executeIo
  rw [blur.session_io]
  cases session.io with
  | none => rfl
  | some io =>
    simp only [Option.map_some, blur.channel_execute]
    rfl

lemma session_submitIo :
    (blur.session session).submitIo request command (blur.world world) =
      (session.submitIo request command world).map id (Prod.map blur.session blur.world) := by
  unfold Session.submitIo
  rw [blur.session_io]
  cases session.io with
  | none => rfl
  | some io =>
    simp only [Option.map_some, blur.channel_submit]
    rcases io.submit request command world with ⟨(_ | _) | _, io, world⟩
    · simp only [Prod.map_apply, id_eq, blur.channel_reap]
      rcases io.reap world with ⟨_ | _, io, world⟩
      · rfl
      · simp only [Prod.map_apply, id_eq, blur.channel_submit]
        rfl
    · rfl
    · rfl

lemma session_pollIo :
    (blur.session session).pollIo request (blur.world world) =
      (session.pollIo request world).map id (Prod.map blur.session blur.world) := by
  unfold Session.pollIo
  rw [blur.session_io]
  cases session.io with
  | none => rfl
  | some io =>
    simp only [Option.map_some, blur.channel_tracker]
    split
    · rfl
    · rw [blur.channel_reap]
      rcases io.reap world with ⟨_ | _, io, world⟩ <;> rfl

lemma session_abandonIo :
    (blur.session session).abandonIo request = (session.abandonIo request).map id blur.session := by
  unfold Session.abandonIo
  rw [blur.session_io]
  cases session.io with
  | none => rfl
  | some io =>
    simp only [Option.map_some, blur.channel_abandon]
    rcases io.abandon request with ⟨_ | _, io⟩ <;> rfl

lemma session_keepAlivePass (now : Tick) :
    (blur.session session).keepAlivePass now (blur.world world) =
      (session.keepAlivePass now world).map id (Prod.map blur.session blur.world) := by
  unfold Session.keepAlivePass
  rw [blur.session_state, blur.session_admin, blur.session_keepAlive, blur.channel_reap]
  split
  · rfl
  · rcases session.admin.reap world with ⟨_, admin, world⟩
    simp only [Prod.map_apply, id_eq]
    split
    · rfl
    · rw [blur.channel_submitDetached]
      rcases admin.submitDetached .keepAlive world with ⟨_ | _, admin, world⟩ <;> rfl

lemma session_checkNamespace (nsid : UInt32) :
    (blur.session session).checkNamespace nsid = session.checkNamespace nsid := rfl

lemma session_ensureGeometry (config : Config) (last : RequestId) (nsid : UInt32) :
    (blur.session session).ensureGeometry config last nsid (blur.world world) =
      (session.ensureGeometry config last nsid world).map id
        (Prod.map id (Prod.map blur.session blur.world)) := by
  unfold Session.ensureGeometry
  rw [blur.session_geometries, blur.session_checkNamespace, blur.now_eq]
  split
  · rfl
  · split
    · rfl
    · simp only [blur.session_identifyNamespace]
      rfl

lemma session_permit (config : Config) (last : RequestId) (range : BlockRange) (available : Nat) :
    (blur.session session).permit config last range available (blur.world world) =
      (session.permit config last range available world).map id
        (Prod.map id (Prod.map blur.session blur.world)) := by
  unfold Session.permit
  rw [blur.session_ensureGeometry]
  split
  · rfl
  · split <;> rfl

lemma session_read (config : Config) (last : RequestId) (range : BlockRange) (buffer : Bytes) :
    (blur.session session).read config deadline last range buffer (blur.world world) =
      (session.read config deadline last range buffer world).map id
        (Prod.map id (Prod.map blur.session blur.world)) := by
  unfold Session.read
  rw [blur.session_permit]
  rcases session.permit config last range buffer.length world with ⟨_ | _, last, session, world⟩
  · rfl
  · simp only [Prod.map_apply, id_eq, blur.session_executeIo]
    rfl

lemma session_write (config : Config) (last : RequestId) (range : BlockRange) (data : Bytes) :
    (blur.session session).write config deadline last range data (blur.world world) =
      (session.write config deadline last range data world).map id
        (Prod.map id (Prod.map blur.session blur.world)) := by
  unfold Session.write
  rw [blur.session_permit]
  rcases session.permit config last range data.length world with ⟨_ | _, last, session, world⟩
  · rfl
  · simp only [Prod.map_apply, id_eq, blur.session_executeIo]
    rfl

lemma session_submit (config : Config) (last : RequestId) (range : BlockRange) (available : Nat) :
    (blur.session session).submit config last range available command (blur.world world) =
      (session.submit config last range available command world).map id
        (Prod.map id (Prod.map blur.session blur.world)) := by
  unfold Session.submit
  rw [blur.session_permit]
  rcases session.permit config last range available world with ⟨_ | _, last, session, world⟩
  · rfl
  · simp only [Prod.map_apply, id_eq, blur.session_submitIo]
    rfl

lemma session_reset : (blur.session session).reset (blur.world world) =
    (session.reset world).map id (Prod.map blur.session blur.world) := by
  unfold Session.reset
  rw [blur.session_controller, blur.resetController_eq, blur.session_io]
  rcases Fabric.resetController session.controller world with ⟨_ | _, controller, world⟩
  · rfl
  · cases session.io with
    | none => rfl
    | some io => exact Prod.ext rfl (Prod.ext rfl (blur.release_eq io.queue world))

lemma session_reestablish (depth : UInt16) : (blur.session session).reestablish depth (blur.world world) =
    (session.reestablish depth world).map id (Prod.map blur.session blur.world) := by
  unfold Session.reestablish
  rw [blur.session_controller, blur.session_state, blur.createIoQueue_eq]
  split
  · rfl
  · rcases Fabric.createIoQueue session.controller depth world with ⟨_ | _, controller, world⟩ <;> rfl
  · rfl
  · rfl

lemma session_release : (blur.session session).release (blur.world world) = blur.world (session.release world) := by
  unfold Session.release
  rw [blur.session_controller, blur.session_admin, blur.session_io]
  cases session.io with
  | none =>
    simp only [Option.map_none, blur.channel_drain]
    exact blur.releaseController_eq _ _
  | some io =>
    simp only [Option.map_some, blur.channel_release, blur.channel_drain]
    exact blur.releaseController_eq _ _

end Blur

/-- A way to see one fabric as another that all operations respect. -/
structure View (W' C' Q' W C Q : Type) [Fabric W' C' Q'] [Clock W'] [Fabric W C Q] [Clock W] where
  world : W' → W
  controller : C' → C
  queue : Q' → Q
  now_eq (w : W') : Clock.now (world w) = ((Clock.now w).1, world (Clock.now w).2)
  submit_eq (q : Q') (command : Command) (w : W') :
    QueuePairs.submit (queue q) command (world w) = (QueuePairs.submit q command w).map id (Prod.map queue world)
  process_eq (q : Q') (limit : Nat) (w : W') :
    QueuePairs.process (queue q) limit (world w) = (QueuePairs.process q limit w).map id (Prod.map queue world)
  release_eq (q : Q') (w : W') : QueuePairs.release (queue q) (world w) = world (QueuePairs.release q w)
  name_eq (w : W') : Fabric.name (world w) = Fabric.name w
  supports_eq (kind : FabricKind) (w : W') : Fabric.supports kind (world w) = Fabric.supports kind w
  resolve_eq (host : String) (w : W') : Fabric.resolve host (world w) = (Fabric.resolve host w).map id world
  connect_eq (params : HandshakeParams) (timeoutMs : Nat) (w : W') :
    Fabric.connect params timeoutMs (world w) =
      (Fabric.connect params timeoutMs w).map (HandshakeOutcome.map controller queue) world
  wait_eq (ms : Nat) (w : W') : Fabric.wait ms (world w) = world (Fabric.wait ms w)
  createIoQueue_eq (c : C') (depth : UInt16) (w : W') :
    Fabric.createIoQueue (controller c) depth (world w) =
      (Fabric.createIoQueue c depth w).map (Except.map queue) (Prod.map controller world)
  resetController_eq (c : C') (w : W') :
    Fabric.resetController (controller c) (world w) = (Fabric.resetController c w).map id (Prod.map controller world)
  releaseController_eq (c : C') (w : W') :
    Fabric.releaseController (controller c) (world w) = world (Fabric.releaseController c w)

namespace View

variable {W' C' Q' W C Q : Type} [Fabric W' C' Q'] [Clock W'] [Fabric W C Q] [Clock W] (view : View W' C' Q' W C Q)

def blur : Blur W' C' Q' W C Q :=
  { view with
    process_eq := fun q limit w => by
      rw [view.process_eq]
      rfl }

def channel (channel : Channel Q') : Channel Q where
  queue := view.queue channel.queue
  tracker := channel.tracker

def session (session : Session C' Q') : Session C Q where
  key := session.key
  controller := view.controller session.controller
  admin := view.channel session.admin
  io := session.io.map view.channel
  state := session.state
  geometries := session.geometries
  target := session.target
  subsystemNqn := session.subsystemNqn
  hostNqn := session.hostNqn
  attempt := session.attempt
  controllerId := session.controllerId
  namespaceCount := session.namespaceCount
  keepAlive := session.keepAlive

end View

end FabricHost
