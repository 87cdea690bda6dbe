import FabricHost.Proofs.Host.Calls
import FabricHost.Proofs.Host.Registry
import FabricHost.Proofs.Session.Steps

/-!
# Steps of a host

Traffic is made of steps: the clock is read, requests are numbered, or something happens to one session. What each step
keeps up, every call that is traffic keeps up. Steps are about the requests that the call numbers or names, and on I/O
queues they send only the command that the call is for. A call that is addressed to a session visits it: it runs errands
there and does nothing else.
-/

namespace FabricHost

namespace HostCall

/-- The session that the call is addressed to. -/
def addressee? : HostCall → Option SessionKey
  | disconnect key => some key
  | reset key => some key
  | reestablish key => some key
  | read key _ _ => some key
  | write key _ _ => some key
  | submitRead key _ => some key
  | submitWrite key _ _ => some key
  | poll handle => some handle.session
  | abandon handle => some handle.session
  | identify key _ => some key
  | _ => none

/-- The handle that the call is about. -/
def handle? : HostCall → Option RequestHandle
  | poll handle => some handle
  | abandon handle => some handle
  | _ => none

/-- The command that the call hands to an I/O queue. -/
def ioCommand? : HostCall → Option Command
  | read _ range _ => some (.read range.nsid range.start range.count)
  | write _ range data => some (.write range.nsid range.start range.count (data.take range.length))
  | submitRead _ range => some (.read range.nsid range.start range.count)
  | submitWrite _ range data => some (.write range.nsid range.start range.count (data.take range.length))
  | _ => none

end HostCall

namespace Host

variable {W C Q : Type} [Fabric W C Q] [Clock W]

/-- One thing that traffic does to a host in its world. -/
inductive Step (own : SessionKey → RequestId → Prop) (sends : Command → Prop) : Host C Q × W → Host C Q × W → Prop where
  | now (host : Host C Q) (world : W) : Step own sends (host, world) (host, (Clock.now world).2)
  | number {host : Host C Q} (world : W) {lastRequest : RequestId} (h : host.lastRequest ≤ lastRequest) :
      Step own sends (host, world) ({ host with lastRequest }, world)
  | session {host : Host C Q} {world : W} {before behind : List (Session C Q)} {session : Session C Q}
      {after : Session C Q × W} (hsplit : host.registry.sessions = before ++ session :: behind)
      (h : Session.Step own sends (session, world) after) :
      Step own sends (host, world)
        ({ host with registry := { host.registry with sessions := before ++ after.1 :: behind } }, after.2)

/-- Any number of steps. -/
abbrev Steps (own : SessionKey → RequestId → Prop) (sends : Command → Prop) :
    Host C Q × W → Host C Q × W → Prop := Relation.ReflTransGen (Step own sends)

variable {own : SessionKey → RequestId → Prop} {sends : Command → Prop} {host : Host C Q} {world : W}

lemma session_steps {before behind : List (Session C Q)} {session : Session C Q} {after : Session C Q × W}
    (hsplit : host.registry.sessions = before ++ session :: behind) (h : Session.Steps own sends (session, world) after) :
    Steps own sends (host, world)
      ({ host with registry := { host.registry with sessions := before ++ after.1 :: behind } }, after.2) := by
  have hsteps : Steps own sends
      ({ host with registry := { host.registry with sessions := before ++ session :: behind } }, world)
      ({ host with registry := { host.registry with sessions := before ++ after.1 :: behind } }, after.2) :=
    h.lift (fun state => ({ host with registry := { host.registry with sessions := before ++ state.1 :: behind } }, state.2))
      fun _ _ hstep => .session rfl hstep
  rwa [← hsplit] at hsteps

/-- What a call does that is addressed to the session of a key: the clock is read, requests are numbered, and at last
errands are run on the session, if there is one to go to. -/
inductive Visit (own : SessionKey → RequestId → Prop) (sends : Command → Prop) (key : SessionKey) :
    Host C Q × W → Host C Q × W → Prop where
  | now {host : Host C Q} {world : W} {after : Host C Q × W} (h : Visit own sends key (host, (Clock.now world).2) after) :
      Visit own sends key (host, world) after
  | number {host : Host C Q} {world : W} {after : Host C Q × W} {lastRequest : RequestId}
      (hlast : host.lastRequest ≤ lastRequest) (h : Visit own sends key ({ host with lastRequest }, world) after) :
      Visit own sends key (host, world) after
  | missed (host : Host C Q) (world : W) : Visit own sends key (host, world) (host, world)
  | made {host : Host C Q} {world : W} {before behind : List (Session C Q)} {session : Session C Q}
      {after : Session C Q × W} (hsplit : host.registry.sessions = before ++ session :: behind)
      (hkey : session.key = key) (hothers : ∀ other ∈ before ++ behind, other.key ≠ key)
      (h : Session.Errands own sends (session, world) after) :
      Visit own sends key (host, world)
        ({ host with registry := { host.registry with sessions := before ++ after.1 :: behind } }, after.2)

lemma Visit.steps {key : SessionKey} {before after : Host C Q × W} (h : Visit own sends key before after) :
    Steps own sends before after := by
  induction h with
  | now _ ih => exact .head (.now _ _) ih
  | number hlast _ ih => exact .head (.number _ hlast) ih
  | missed => exact .refl
  | made hsplit _ _ h => exact session_steps hsplit h.steps

section

variable {α : Type} (hnodup : host.registry.keys.Nodup) (key : SessionKey)
include hnodup

lemma onSession_visit (missing : HostError) (action : Session C Q → W → Except HostError α × Session C Q × W)
    (haction : ∀ session world, Session.Errands own sends (session, world) (action session world).2) :
    Visit own sends key (host, world) (host.onSession key missing action world).2 := by
  rcases onSession_cases hnodup key missing action (fun session world => (haction session world).key) world with
    ⟨-, heq⟩ | ⟨before, session, behind, hsplit, hkey, hothers, heq⟩
  · rw [heq]
    exact .missed host world
  · rw [heq]
    exact .made hsplit hkey hothers (haction session world)

lemma onLive_visit (action : RequestId → Session C Q → W → Except HostError α × RequestId × Session C Q × W)
    (hkept : ∀ last session world, (action last session world).2.2.1.key = session.key)
    (hlast : ∀ session, host.lastRequest ≤ (action host.lastRequest session world).2.1)
    (haction : ∀ session, session.key = key → (action host.lastRequest session world).2.1 ≤
        (host.onLive key action world).2.1.lastRequest →
      Session.Errands own sends (session, world) (action host.lastRequest session world).2.2) :
    Visit own sends key (host, world) (host.onLive key action world).2 := by
  rcases onLive_cases hnodup key action hkept world with
    ⟨-, heq⟩ | ⟨before, session, behind, hsplit, hkey, hothers, ⟨-, heq⟩ | ⟨-, heq⟩⟩
  · rw [heq]
    exact .missed host world
  · rw [heq]
    exact .missed host world
  · rw [heq] at haction ⊢
    exact .number (hlast session) (.made hsplit hkey hothers (haction session hkey (Nat.le_refl _)))

/-- Reads and writes, synchronous or not, are all of one form. -/
lemma permitted_visit (range : BlockRange) (available : Nat)
    (action : RequestId → Session C Q → W → Except HostError α × Session C Q × W)
    (haction : ∀ (own : SessionKey → RequestId → Prop) request (session : Session C Q) world, own session.key request →
      Session.Errands own sends (session, world) (action request session world).2)
    (hown : ∀ request, host.lastRequest < request → request ≤ (host.onLive key
      (fun last session => session.permitted host.config last range available action) world).2.1.lastRequest →
      own key request) :
    Visit own sends key (host, world)
      (host.onLive key (fun last session => session.permitted host.config last range available action) world).2 := by
  refine onLive_visit hnodup key _ (fun last session world => ?_) (fun session => session.permitted_last _ _ _ _ _ _)
    fun session hkey hlast => ?_
  · have herrands : Session.Errands (fun _ _ => True) sends (session, world)
        (session.permitted host.config last range available action world).2.2 :=
      session.permitted_errands world _ _ _ _ _ (haction fun _ _ => True) fun _ _ _ => trivial
    exact herrands.key
  · refine session.permitted_errands _ _ _ _ _ _ (haction own) fun request hnew hbound => ?_
    rw [hkey]
    exact hown request hnew (Nat.le_trans hbound hlast)

lemma identify_visit (nsid : UInt32) : Visit own sends key (host, world) (host.identify key nsid world).2 := by
  have hnumbered : ({ host with lastRequest := host.lastRequest + 1 } : Host C Q).registry.keys.Nodup := hnodup
  refine .now (.number (Nat.le_succ host.lastRequest) (onSession_visit hnumbered key _ _ fun session world => ?_))
  split
  · exact .refl
  · split
    · exact session.identifyController_errands _ _ _ _
    · split
      · exact .refl
      · rename_i hcheck
        exact session.identifyNamespace_errands _ _ _ _ hcheck

end

lemma poll_visit (hnodup : host.registry.keys.Nodup) {handle : RequestHandle} (hown : own handle.session handle.request) :
    Visit own sends handle.session (host, world) (host.poll handle world).2 := by
  have hlive : Visit own sends handle.session (host, world) (host.onLive handle.session
      (fun last session world => ((session.pollIo handle.request world).1, last, (session.pollIo handle.request world).2))
      world).2 :=
    onLive_visit hnodup handle.session _ (fun _ session world => session.pollIo_key world handle.request)
      (fun _ => Nat.le_refl host.lastRequest) fun session hkey _ => session.pollIo_errands world (hkey ▸ hown)
  exact hlive

lemma abandon_visit (hnodup : host.registry.keys.Nodup) {handle : RequestHandle}
    (hown : own handle.session handle.request) :
    Visit own sends handle.session (host, world) ((host.abandon handle).2, world) := by
  unfold abandon
  split
  · exact .missed host world
  · rename_i session hfind
    obtain ⟨before, behind, hsplit, hbefore, hbehind⟩ := Registry.find?_split hnodup hfind
    have hkey := Registry.key_of_find? hfind
    have hreplace := Registry.replace_split hsplit hbefore hbehind hkey ((session.abandonIo_key handle.request).trans hkey)
    have hvisit : Visit own sends handle.session (host, world) _ := .made hsplit hkey
      (fun other hother => (List.mem_append.mp hother).elim (hbefore other) (hbehind other))
      (session.abandonIo_errands world (hkey ▸ hown))
    rwa [← hreplace] at hvisit

lemma keepAlivePass_steps (host : Host C Q) (world : W) (now : Tick) (before behind : List (Session C Q))
    (report : KeepAliveReport) (hsplit : host.registry.sessions = before ++ behind) :
    Steps own sends (host, world) ({ host with registry := { host.registry with
      sessions := before ++ (keepAlivePass now behind report world).2.1 } }, (keepAlivePass now behind report world).2.2) := by
  induction behind generalizing host before report world with
  | nil =>
    simp only [keepAlivePass, ← hsplit]
    exact .refl
  | cons session rest ih =>
    have hsession : Steps own sends (host, world) _ := session_steps hsplit (session.keepAlivePass_steps world now)
    refine hsession.trans ?_
    have hrest := ih
      { host with registry := { host.registry with sessions := before ++ (session.keepAlivePass now world).2.1 :: rest } }
      (session.keepAlivePass now world).2.2 (before ++ [(session.keepAlivePass now world).2.1])
      (report.add (session.keepAlivePass now world).1) (by simp)
    rwa [List.append_assoc] at hrest

lemma tickAt_steps (now : Tick) : Steps own sends (host, world) (host.tickAt now world).2 :=
  keepAlivePass_steps host world now [] host.registry.sessions {} rfl

end Host

/-- The requests that a call is about: those that it numbers on its way from one last number to the next, and the one of
its handle. -/
def HostCall.About (call : HostCall) (last next : RequestId) (key : SessionKey) (request : RequestId) : Prop :=
  (last < request ∧ request ≤ next) ∨ ∃ handle, call.handle? = some handle ∧ handle.session = key ∧ handle.request = request

namespace Host

variable {W C Q : Type} [Fabric W C Q] [Clock W] {host : Host C Q}

lemma read_eq_permitted (key : SessionKey) (range : BlockRange) (buffer : Bytes) (world : W) :
    host.read key range buffer world = host.onLive key (fun last session => session.permitted host.config last range
      buffer.length (Session.readPermitted host.config (Tick.after (Clock.now world).1 host.config.ioTimeoutMs) range buffer))
      (Clock.now world).2 := by
  have haction : (fun last (session : Session C Q) => session.read (W := W) host.config
      (Tick.after (Clock.now world).1 host.config.ioTimeoutMs) last range buffer) =
        fun last session => session.permitted host.config last range buffer.length (Session.readPermitted host.config
          (Tick.after (Clock.now world).1 host.config.ioTimeoutMs) range buffer) := by
    funext last session world
    exact session.read_eq_permitted world _ _ last range buffer
  simp only [read, haction]

lemma write_eq_permitted (key : SessionKey) (range : BlockRange) (data : Bytes) (world : W) :
    host.write key range data world = host.onLive key (fun last session => session.permitted host.config last range
      data.length (Session.writePermitted host.config (Tick.after (Clock.now world).1 host.config.ioTimeoutMs) range data))
      (Clock.now world).2 := by
  have haction : (fun last (session : Session C Q) => session.write (W := W) host.config
      (Tick.after (Clock.now world).1 host.config.ioTimeoutMs) last range data) =
        fun last session => session.permitted host.config last range data.length (Session.writePermitted host.config
          (Tick.after (Clock.now world).1 host.config.ioTimeoutMs) range data) := by
    funext last session world
    exact session.write_eq_permitted world _ _ last range data
  simp only [write, haction]

lemma submitRead_eq_permitted (key : SessionKey) (range : BlockRange) (world : W) :
    host.submitRead key range world = (host.onLive key (fun last session => session.permitted host.config last range
      range.length (Session.submitPermitted (.read range.nsid range.start range.count))) world).map
        (Except.map fun request => ⟨key, request, .read⟩) id := by
  have haction : (fun last (session : Session C Q) => session.submitRead (W := W) host.config last range) =
      fun last session => session.permitted host.config last range range.length
        (Session.submitPermitted (.read range.nsid range.start range.count)) := by
    funext last session world
    exact session.submit_eq_permitted world _ last range _ _
  unfold submitRead
  rw [haction]
  rfl

lemma submitWrite_eq_permitted (key : SessionKey) (range : BlockRange) (data : Bytes) (world : W) :
    host.submitWrite key range data world = (host.onLive key (fun last session => session.permitted host.config last range
      data.length (Session.submitPermitted (.write range.nsid range.start range.count (data.take range.length)))) world).map
        (Except.map fun request => ⟨key, request, .write⟩) id := by
  have haction : (fun last (session : Session C Q) => session.submitWrite (W := W) host.config last range data) =
      fun last session => session.permitted host.config last range data.length
        (Session.submitPermitted (.write range.nsid range.start range.count (data.take range.length))) := by
    funext last session world
    exact session.submit_eq_permitted world _ last range _ _
  unfold submitWrite
  rw [haction]
  rfl

/-- Traffic that is addressed to a session is a visit there. -/
lemma perform_visit (hnodup : host.registry.keys.Nodup) {call : HostCall} (htraffic : call.isTraffic) {key : SessionKey}
    (hkey : call.addressee? = some key) (world : W) :
    Visit (call.About host.lastRequest (host.perform call world).2.1.lastRequest)
      (fun command => call.ioCommand? = some command) key (host, world) (host.perform call world).2 := by
  cases call with
  | connect | connectAttempt | disconnect | disconnectAll | reset | reestablish => cases htraffic
  | tick | tickAt => cases hkey
  | read key range buffer =>
    cases hkey
    refine .now ?_
    simp only [perform]
    rw [read_eq_permitted]
    refine permitted_visit hnodup key range buffer.length _ (fun _ _ session world hown => ?_)
      fun _ hnew hbound => .inl ⟨hnew, hbound⟩
    refine session.readPermitted_errands world _ _ _ _ ?_ hown
    rfl
  | write key range data =>
    cases hkey
    refine .now ?_
    simp only [perform]
    rw [write_eq_permitted]
    refine permitted_visit hnodup key range data.length _ (fun _ _ session world hown => ?_)
      fun _ hnew hbound => .inl ⟨hnew, hbound⟩
    refine session.writePermitted_errands world _ _ _ _ ?_ hown
    rfl
  | submitRead key range =>
    cases hkey
    simp only [perform]
    rw [submitRead_eq_permitted]
    refine permitted_visit hnodup key range range.length _ (fun _ _ session world hown => ?_)
      fun _ hnew hbound => .inl ⟨hnew, hbound⟩
    refine session.submitPermitted_errands world ?_ hown
    rfl
  | submitWrite key range data =>
    cases hkey
    simp only [perform]
    rw [submitWrite_eq_permitted]
    refine permitted_visit hnodup key range data.length _ (fun _ _ session world hown => ?_)
      fun _ hnew hbound => .inl ⟨hnew, hbound⟩
    refine session.submitPermitted_errands world ?_ hown
    rfl
  | poll handle =>
    cases hkey
    exact poll_visit hnodup (.inr ⟨handle, rfl, rfl, rfl⟩)
  | abandon handle =>
    cases hkey
    exact abandon_visit hnodup (.inr ⟨handle, rfl, rfl, rfl⟩)
  | identify key nsid =>
    cases hkey
    exact identify_visit hnodup key nsid

/-- Traffic is made of steps. -/
theorem perform_steps (hnodup : host.registry.keys.Nodup) {call : HostCall} (htraffic : call.isTraffic) (world : W) :
    Steps (call.About host.lastRequest (host.perform call world).2.1.lastRequest)
      (fun command => call.ioCommand? = some command) (host, world) (host.perform call world).2 := by
  cases call with
  | connect | connectAttempt | disconnect | disconnectAll | reset | reestablish => cases htraffic
  | tick => exact .head (.now host world) (tickAt_steps _)
  | tickAt now => exact tickAt_steps now
  | _ => exact (perform_visit hnodup rfl rfl world).steps

end Host

end FabricHost
