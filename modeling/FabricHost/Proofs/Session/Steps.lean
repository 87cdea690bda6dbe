import FabricHost.Proofs.Queue.Steps
import FabricHost.Session.Io

/-!
# Steps of a session

What traffic does to a session are steps on its admin queue and on its I/O queue, where only the latter are about
somebody's requests that last, and what identify told about a namespace that the session has. The rest of a session but
for its keep-alive timer is not touched, and the timer only by a keep-alive pass: calls on one session are errands, which
leave it alone and send no keep-alive.
-/

namespace FabricHost.Session

variable {W C Q : Type} [Fabric W C Q] [Clock W]

/-- One thing that a call on a session does to it in its world. On the I/O queue it is for the caller's own requests on the
session of that key and by the commands that the caller sends. -/
inductive Errand (own : SessionKey → RequestId → Prop) (sends : Command → Prop) :
    Session C Q × W → Session C Q × W → Prop where
  | now (session : Session C Q) (world : W) : Errand own sends (session, world) (session, (Clock.now world).2)
  | admin {session : Session C Q} {world : W} {after : Channel Q × W}
      (h : Channel.Step (fun _ => True) (fun command => command.isAdmin ∧ command ≠ .keepAlive)
        (session.admin, world) after) : Errand own sends (session, world) ({ session with admin := after.1 }, after.2)
  | io {session : Session C Q} {world : W} {io : Channel Q} {after : Channel Q × W} (hio : session.io = some io)
      (h : Channel.Step (own session.key) sends (io, world) after) :
      Errand own sends (session, world) ({ session with io := some after.1 }, after.2)
  | learn {session : Session C Q} (world : W) {nsid : UInt32} (h : session.checkNamespace nsid = .ok ())
      (geometry : Geometry) : Errand own sends (session, world) (session.learn nsid geometry, world)

/-- Any number of errands. -/
abbrev Errands (own : SessionKey → RequestId → Prop) (sends : Command → Prop) :
    Session C Q × W → Session C Q × W → Prop := Relation.ReflTransGen (Errand own sends)

/-- One thing that traffic does to a session in its world: an errand, or one of the things that a keep-alive pass does. -/
inductive Step (own : SessionKey → RequestId → Prop) (sends : Command → Prop) : Session C Q × W → Session C Q × W → Prop where
  | now (session : Session C Q) (world : W) : Step own sends (session, world) (session, (Clock.now world).2)
  | admin {session : Session C Q} {world : W} {after : Channel Q × W}
      (h : Channel.Step (fun _ => True) (fun command => command.isAdmin) (session.admin, world) after) :
      Step own sends (session, world) ({ session with admin := after.1 }, after.2)
  | io {session : Session C Q} {world : W} {io : Channel Q} {after : Channel Q × W} (hio : session.io = some io)
      (h : Channel.Step (own session.key) sends (io, world) after) :
      Step own sends (session, world) ({ session with io := some after.1 }, after.2)
  | learn {session : Session C Q} (world : W) {nsid : UInt32} (h : session.checkNamespace nsid = .ok ())
      (geometry : Geometry) : Step own sends (session, world) (session.learn nsid geometry, world)
  | timer (session : Session C Q) (world : W) (keepAlive : KeepAliveTimer) :
      Step own sends (session, world) ({ session with keepAlive }, world)

/-- Any number of steps. -/
abbrev Steps (own : SessionKey → RequestId → Prop) (sends : Command → Prop) :
    Session C Q × W → Session C Q × W → Prop := Relation.ReflTransGen (Step own sends)

variable {own : SessionKey → RequestId → Prop} {sends : Command → Prop} (session : Session C Q) (world : W)

lemma Step.key {before after : Session C Q × W} (h : Step own sends before after) : after.1.key = before.1.key := by
  cases h <;> rfl

lemma Steps.key {before after : Session C Q × W} (h : Steps own sends before after) : after.1.key = before.1.key := by
  induction h with
  | refl => rfl
  | tail _ hstep ih => exact hstep.key.trans ih

lemma Step.state {before after : Session C Q × W} (h : Step own sends before after) : after.1.state = before.1.state := by
  cases h <;> rfl

/-- Which controller of which subsystem a session is with does not change. -/
lemma Steps.association {before after : Session C Q × W} (h : Steps own sends before after) :
    after.1.controller = before.1.controller ∧ after.1.target = before.1.target ∧
      after.1.subsystemNqn = before.1.subsystemNqn := by
  induction h with
  | refl => exact ⟨rfl, rfl, rfl⟩
  | tail _ hstep ih => cases hstep <;> exact ih

/-- An I/O queue neither comes nor goes with traffic. -/
lemma Steps.io_isSome {before after : Session C Q × W} (h : Steps own sends before after) :
    after.1.io.isSome = before.1.io.isSome := by
  induction h with
  | refl => rfl
  | tail _ hstep ih =>
    rw [← ih]
    cases hstep with
    | io hio =>
      rw [hio]
      rfl
    | _ => rfl

lemma Errand.step {before after : Session C Q × W} (h : Errand own sends before after) : Step own sends before after := by
  cases h with
  | now => exact .now _ _
  | admin h => exact .admin (h.mono fun _ hcommand => hcommand.1)
  | io hio h => exact .io hio h
  | learn _ hcheck => exact .learn _ hcheck _

lemma Errands.steps {before after : Session C Q × W} (h : Errands own sends before after) :
    Steps own sends before after := h.lift id fun _ _ herrand => herrand.step

lemma Errands.key {before after : Session C Q × W} (h : Errands own sends before after) : after.1.key = before.1.key :=
  h.steps.key

lemma admin_errands {after : Channel Q × W}
    (h : Channel.Steps (fun _ => True) (fun command => command.isAdmin ∧ command ≠ .keepAlive)
      (session.admin, world) after) :
    Errands own sends (session, world) ({ session with admin := after.1 }, after.2) :=
  h.lift (fun channel => ({ session with admin := channel.1 }, channel.2)) fun _ _ hstep => .admin hstep

variable {session world} in
lemma io_errands {io : Channel Q} (hio : session.io = some io) {after : Channel Q × W}
    (h : Channel.Steps (own session.key) sends (io, world) after) :
    Errands own sends (session, world) ({ session with io := some after.1 }, after.2) := by
  have herrands : Errands own sends ({ session with io := some io }, world)
      ({ session with io := some after.1 }, after.2) :=
    h.lift (fun channel => ({ session with io := some channel.1 }, channel.2)) fun _ _ hstep => .io rfl hstep
  rwa [← hio] at herrands

lemma identifyPage_errands (budget : Nat) (deadline : Tick) (request : RequestId) {command : Command}
    (hadmin : command.isAdmin ∧ command ≠ .keepAlive) :
    Errands own sends (session, world) (session.identifyPage budget deadline request command world).2 :=
  session.admin_errands world (session.admin.execute_steps world trivial hadmin budget deadline)

lemma identifyController_errands (budget : Nat) (deadline : Tick) (request : RequestId) :
    Errands own sends (session, world) (session.identifyController budget deadline request world).2 :=
  session.identifyPage_errands world budget deadline request ⟨rfl, nofun⟩

lemma identifyNamespace_errands (budget : Nat) (deadline : Tick) (request : RequestId) {nsid : UInt32}
    (h : session.checkNamespace nsid = .ok ()) :
    Errands own sends (session, world) (session.identifyNamespace budget deadline request nsid world).2 := by
  have hpage : Errands own sends (session, world)
      (session.identifyPage budget deadline request (.identifyNamespace nsid) world).2 :=
    session.identifyPage_errands world budget deadline request ⟨rfl, nofun⟩
  have hcheck : (session.identifyPage budget deadline request (.identifyNamespace nsid) world).2.1.checkNamespace nsid =
      .ok () := h
  unfold identifyNamespace
  simp only
  split
  · exact hpage
  · exact hpage.tail (.learn _ hcheck _)

lemma executeIo_errands (budget : Nat) (deadline : Tick) {request : RequestId} {command : Command}
    (hown : own session.key request) (hsends : sends command) :
    Errands own sends (session, world) (session.executeIo budget deadline request command world).2 := by
  unfold executeIo
  split
  · exact .refl
  · rename_i io hio
    exact io_errands hio (io.execute_steps world hown hsends budget deadline)

lemma submitIo_errands {request : RequestId} {command : Command} (hown : own session.key request) (hsends : sends command) :
    Errands own sends (session, world) (session.submitIo request command world).2 := by
  unfold submitIo
  simp only
  split
  · exact .refl
  · rename_i io hio
    have hsubmit : Channel.Steps (own session.key) sends (io, world) (io.submit request command world).2 :=
      .single (.submit io world hown hsends)
    split
    · rename_i io' world' heq
      rw [heq] at hsubmit
      have hreap := hsubmit.tail (.reap io' world')
      split
      · rename_i heq'
        rw [heq'] at hreap
        exact io_errands hio hreap
      · rename_i heq'
        rw [heq'] at hreap
        exact io_errands hio (hreap.tail (.submit _ _ hown hsends))
    · exact io_errands hio hsubmit

lemma pollIo_errands {request : RequestId} (hown : own session.key request) :
    Errands own sends (session, world) (session.pollIo request world).2 := by
  unfold pollIo
  split
  · exact .refl
  · rename_i io hio
    have hreap : Channel.Steps (own session.key) sends (io, world) (io.reap world).2 := .single (.reap io world)
    split
    · exact .refl
    · split
      · rename_i heq
        rw [heq] at hreap
        exact io_errands hio hreap
      · rename_i heq
        rw [heq] at hreap
        exact io_errands hio (hreap.tail (.take _ _ hown))

lemma pollIo_key (request : RequestId) : (session.pollIo request world).2.1.key = session.key := by
  have herrands : Errands (fun _ _ => True) (fun _ => False) (session, world) (session.pollIo request world).2 :=
    session.pollIo_errands world trivial
  exact herrands.key

lemma abandonIo_errands {request : RequestId} (hown : own session.key request) :
    Errands own sends (session, world) ((session.abandonIo request).2, world) := by
  unfold abandonIo
  split
  · exact .refl
  · rename_i io hio
    have habandon : Channel.Steps (own session.key) sends (io, world) ((io.abandon request).2, world) :=
      .single (.abandon io world hown)
    split
    · rename_i heq
      rw [heq] at habandon
      exact io_errands hio habandon
    · exact .refl

lemma abandonIo_key (request : RequestId) : (session.abandonIo request).2.key = session.key := by
  unfold abandonIo
  split
  · rfl
  · split <;> rfl

lemma ensureGeometry_errands (config : Config) (last : RequestId) (nsid : UInt32) :
    Errands own sends (session, world) (session.ensureGeometry config last nsid world).2.2 := by
  unfold ensureGeometry
  split
  · exact .refl
  · split
    · exact .refl
    · rename_i hcheck
      exact .head (.now session world) (session.identifyNamespace_errands _ _ _ _ hcheck)

lemma permit_errands (config : Config) (last : RequestId) (range : BlockRange) (available : Nat) :
    Errands own sends (session, world) (session.permit config last range available world).2.2 := by
  unfold permit
  split
  · exact .refl
  · split
    · exact .refl
    · exact session.ensureGeometry_errands world config last range.nsid

lemma ensureGeometry_last (config : Config) (last : RequestId) (nsid : UInt32) :
    last ≤ (session.ensureGeometry config last nsid world).2.1 := by
  unfold ensureGeometry
  split
  · exact Nat.le_refl _
  · split
    · exact Nat.le_refl _
    · exact Nat.le_succ _

lemma permit_last (config : Config) (last : RequestId) (range : BlockRange) (available : Nat) :
    last ≤ (session.permit config last range available world).2.1 := by
  unfold permit
  split
  · exact Nat.le_refl _
  · split
    · exact Nat.le_refl _
    · exact session.ensureGeometry_last world config last range.nsid

/-- What reads and writes have in common: a range is permitted, and then its command is submitted under the next
number. -/
def permitted {α : Type} (session : Session C Q) (config : Config) (last : RequestId) (range : BlockRange)
    (available : Nat) (action : RequestId → Session C Q → W → Except HostError α × Session C Q × W) (world : W) :
    Except HostError α × RequestId × Session C Q × W :=
  match session.permit config last range available world with
  | (.error error, last, session, world) => (.error error, last, session, world)
  | (.ok (), last, session, world) => ((action (last + 1) session world).1, last + 1, (action (last + 1) session world).2)

/-- What a read does once its range is permitted. -/
def readPermitted (config : Config) (deadline : Tick) (range : BlockRange) (buffer : Bytes) (request : RequestId)
    (session : Session C Q) (world : W) : Except HostError Bytes × Session C Q × W :=
  let (result, session, world) :=
    session.executeIo config.pollBudget deadline request (.read range.nsid range.start range.count) world
  (do return Bytes.overwrite buffer 0 (← readData range request (← result)), session, world)

/-- What a write does once its range is permitted. -/
def writePermitted (config : Config) (deadline : Tick) (range : BlockRange) (data : Bytes) (request : RequestId)
    (session : Session C Q) (world : W) : Except HostError Unit × Session C Q × W :=
  let (result, session, world) := session.executeIo config.pollBudget deadline request
    (.write range.nsid range.start range.count (data.take range.length)) world
  (result.map fun _ => (), session, world)

/-- What submitting without waiting does once the range is permitted. -/
def submitPermitted (command : Command) (request : RequestId) (session : Session C Q) (world : W) :
    Except HostError RequestId × Session C Q × W :=
  let (result, session, world) := session.submitIo request command world
  (result.map fun _ => request, session, world)

lemma read_eq_permitted (config : Config) (deadline : Tick) (last : RequestId) (range : BlockRange) (buffer : Bytes) :
    session.read config deadline last range buffer world =
      session.permitted config last range buffer.length (readPermitted config deadline range buffer) world := by
  unfold read permitted
  rcases session.permit config last range buffer.length world with ⟨_ | _, _, _, _⟩ <;> rfl

lemma write_eq_permitted (config : Config) (deadline : Tick) (last : RequestId) (range : BlockRange) (data : Bytes) :
    session.write config deadline last range data world =
      session.permitted config last range data.length (writePermitted config deadline range data) world := by
  unfold write permitted
  rcases session.permit config last range data.length world with ⟨_ | _, _, _, _⟩ <;> rfl

lemma submit_eq_permitted (config : Config) (last : RequestId) (range : BlockRange) (available : Nat)
    (command : Command) : session.submit config last range available command world =
      session.permitted config last range available (submitPermitted command) world := by
  unfold submit permitted
  rcases session.permit config last range available world with ⟨_ | _, _, _, _⟩ <;> rfl

section

variable {α : Type} (config : Config) (last : RequestId) (range : BlockRange) (available : Nat)
  (action : RequestId → Session C Q → W → Except HostError α × Session C Q × W)

lemma permitted_last : last ≤ (session.permitted config last range available action world).2.1 := by
  have hpermit := session.permit_last world config last range available
  unfold permitted
  split
  all_goals
    rename_i heq
    rw [heq] at hpermit
  · exact hpermit
  · exact Nat.le_succ_of_le hpermit

lemma permitted_key (haction : ∀ request session world, (action request session world).2.1.key = session.key) :
    (session.permitted config last range available action world).2.2.1.key = session.key := by
  have hpermit : Errands (fun _ _ => False) (fun _ => False) (session, world)
      (session.permit config last range available world).2.2 := session.permit_errands world config last range available
  have hkey := hpermit.key
  unfold permitted
  split
  all_goals
    rename_i heq
    rw [heq] at hkey
  · exact hkey
  · exact (haction _ _ _).trans hkey

/-- The command is sent for a request of a new number. -/
lemma permitted_errands
    (haction : ∀ request (session : Session C Q) world, own session.key request →
      Errands own sends (session, world) (action request session world).2)
    (hown : ∀ request, last < request → request ≤ (session.permitted config last range available action world).2.1 →
      own session.key request) :
    Errands own sends (session, world) (session.permitted config last range available action world).2.2 := by
  have hpermit : Errands own sends (session, world) (session.permit config last range available world).2.2 :=
    session.permit_errands world config last range available
  have hlast := session.permit_last world config last range available
  unfold permitted at hown ⊢
  split
  · rename_i heq
    rwa [heq] at hpermit
  · rename_i last' session' world' heq
    rw [heq] at hpermit hlast hown
    have hrequest : own session'.key (last' + 1) := by
      rw [hpermit.key]
      exact hown _ (Nat.lt_succ_of_le hlast) (Nat.le_refl _)
    exact hpermit.trans (haction _ session' world' hrequest)

end

lemma readPermitted_errands (config : Config) (deadline : Tick) (range : BlockRange) (buffer : Bytes)
    (hsends : sends (.read range.nsid range.start range.count)) {request : RequestId} (hown : own session.key request) :
    Errands own sends (session, world) (readPermitted config deadline range buffer request session world).2 :=
  session.executeIo_errands world _ _ hown hsends

lemma writePermitted_errands (config : Config) (deadline : Tick) (range : BlockRange) (data : Bytes)
    (hsends : sends (.write range.nsid range.start range.count (data.take range.length))) {request : RequestId}
    (hown : own session.key request) :
    Errands own sends (session, world) (writePermitted config deadline range data request session world).2 :=
  session.executeIo_errands world _ _ hown hsends

lemma submitPermitted_errands {command : Command} (hsends : sends command) {request : RequestId}
    (hown : own session.key request) :
    Errands own sends (session, world) (submitPermitted command request session world).2 :=
  session.submitIo_errands world hown hsends

lemma submit_key (config : Config) (last : RequestId) (range : BlockRange) (available : Nat) (command : Command) :
    (session.submit config last range available command world).2.2.1.key = session.key := by
  have herrands : Errands (fun _ _ => True) (fun _ => True) (session, world)
      (session.submit config last range available command world).2.2 := by
    rw [submit_eq_permitted]
    exact session.permitted_errands world config last range available _
      (fun _ session world hown => session.submitPermitted_errands world trivial hown) fun _ _ _ => trivial
  exact herrands.key

lemma admin_steps {after : Channel Q × W}
    (h : Channel.Steps (fun _ => True) (fun command => command.isAdmin) (session.admin, world) after) :
    Steps own sends (session, world) ({ session with admin := after.1 }, after.2) :=
  h.lift (fun channel => ({ session with admin := channel.1 }, channel.2)) fun _ _ hstep => .admin hstep

lemma keepAlivePass_steps (now : Tick) : Steps own sends (session, world) (session.keepAlivePass now world).2 := by
  have hadmin : Command.keepAlive.isAdmin := rfl
  unfold keepAlivePass
  split
  · exact .refl
  · have hreap : Channel.Steps (fun _ => True) (fun command => command.isAdmin) (session.admin, world)
        (session.admin.reap world).2 := .single (.reap session.admin world)
    simp only
    split
    · exact session.admin_steps world hreap
    · have hsend := hreap.tail (.submitDetached _ _ hadmin)
      split
      all_goals
        rename_i heq
        rw [heq] at hsend
        exact (session.admin_steps world hsend).tail (.timer _ _ _)

end FabricHost.Session
