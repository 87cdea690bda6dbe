import FabricHost.Proofs.Requests.Accounts

/-!
# What synchronous calls leave behind

Nobody but synchronous calls and keep-alives uses an admin queue, so between calls nothing is tracked there. What is
tracked on an I/O queue are the requests of the handles that submits gave and that nothing has settled since.
-/

namespace FabricHost

open HostCall

variable {W C Q : Type} [Fabric W C Q] [Clock W]

namespace HostCall

/-- The handles that submits gave and that nothing has settled since, in the order of the submits. -/
def unsettled : List (HostCall × HostAnswer) → List RequestHandle
  | [] => []
  | entry :: later => (given? entry).toList.filter (fun handle => !later.any (settles handle)) ++ unsettled later

lemma unsettled_append (log : List (HostCall × HostAnswer)) (entry : HostCall × HostAnswer) :
    unsettled (log ++ [entry]) =
      (unsettled log).filter (fun handle => !settles handle entry) ++ (given? entry).toList := by
  induction log with
  | nil => simp [unsettled]
  | cons first later ih =>
    rw [List.cons_append, unsettled, ih, unsettled, List.filter_append, List.filter_filter, List.append_assoc]
    congr 2
    funext handle
    simp [Bool.and_comm]

variable {handle other : RequestHandle}

/-- What settles a handle settles every handle of the same request. -/
lemma settles_of_names (h : handle.names other = true) (entry : HostCall × HostAnswer) :
    settles other entry = settles handle entry := by
  obtain ⟨hsession, hrequest⟩ : other.session = handle.session ∧ other.request = handle.request := by
    simpa [RequestHandle.names] using h
  have hnames : ∀ third, other.names third = handle.names third := by simp [RequestHandle.names, hsession, hrequest]
  unfold settles completes
  simp only [hnames, hsession]

lemma countP_filter_settles (handles : List RequestHandle) (entry : HostCall × HostAnswer) :
    (handles.filter fun other => !settles other entry).countP handle.names =
      if settles handle entry then 0 else handles.countP handle.names := by
  rw [List.countP_filter]
  split
  · rename_i hsettles
    refine List.countP_eq_zero.mpr fun other _ hboth => ?_
    obtain ⟨hnames, hunsettled⟩ := Bool.and_eq_true_iff.mp hboth
    rw [settles_of_names hnames, hsettles] at hunsettled
    cases hunsettled
  · rename_i hunsettled
    refine List.countP_congr fun other _ => ?_
    rw [Bool.and_eq_true_iff, and_iff_left_iff_imp]
    intro hnames
    rw [settles_of_names hnames]
    simpa using hunsettled

lemma settles_of_numbers {call : HostCall} (h : call.numbers = true) (answer : HostAnswer) :
    settles handle (call, answer) = false := by
  cases call <;> first | rfl | cases h

lemma given?_eq_some {call : HostCall} {answer : HostAnswer} (h : given? (call, answer) = some handle) :
    answer = .submitted (.ok handle) := by
  unfold given? at h
  split at h
  · rename_i heq
    cases h
    exact (Prod.mk.inj heq).2
  · cases h

end HostCall

namespace Tracker

/-- The requests that are waited for and those that can be taken, each as often as it is tracked. -/
def requests (tracker : Tracker) : List RequestId := tracker.inflight.map Inflight.request ++ tracker.ready.keys

lemma count_requests (tracker : Tracker) (request : RequestId) :
    tracker.requests.count request = tracker.places request := by
  rw [requests, List.count_append, Std.ExtTreeMap.nodup_keys.count, places]
  simp only [Std.ExtTreeMap.mem_keys, List.count, List.countP_map]
  rfl

end Tracker

namespace Session

variable {session : Session C Q} (hrest : session.admin.tracker.AtRest) (world : W)
include hrest

lemma identifyPage_atRest (budget : Nat) (deadline : Tick) (request : RequestId) (command : Command) :
    (session.identifyPage budget deadline request command world).2.1.admin.tracker.AtRest :=
  Channel.execute_atRest deadline command budget session.admin request world hrest

lemma identifyController_atRest (budget : Nat) (deadline : Tick) (request : RequestId) :
    (session.identifyController budget deadline request world).2.1.admin.tracker.AtRest :=
  identifyPage_atRest hrest world budget deadline request .identifyController

lemma identifyNamespace_atRest (budget : Nat) (deadline : Tick) (request : RequestId) (nsid : UInt32) :
    (session.identifyNamespace budget deadline request nsid world).2.1.admin.tracker.AtRest := by
  obtain ⟨geometries, heq⟩ := session.identifyNamespace_cases world budget deadline request nsid
  rw [heq]
  exact Channel.execute_atRest deadline _ budget session.admin request world hrest

omit [Clock W] in
lemma reset_atRest : (session.reset world).2.1.admin.tracker.AtRest := by
  rcases session.reset_cases world with ⟨_, _, _, -, heq⟩ | ⟨_, _, -, heq⟩
  all_goals
    rw [heq]
    exact hrest

omit [Clock W] in
lemma reestablish_atRest (depth : UInt16) : (session.reestablish depth world).2.1.admin.tracker.AtRest := by
  unfold reestablish
  split
  · exact hrest
  · split <;> exact hrest
  · exact hrest
  · exact hrest

lemma permit_atRest (config : Config) (last : RequestId) (range : BlockRange) (available : Nat) :
    (session.permit config last range available world).2.2.1.admin.tracker.AtRest := by
  rcases session.permit_cases world config last range available with ⟨_, heq⟩ | ⟨-, _, _, heq⟩
  · rw [heq]
    exact hrest
  · rw [heq]
    exact Channel.execute_atRest _ _ _ session.admin _ _ hrest

lemma permitted_atRest {α : Type} {action : RequestId → Session C Q → W → Except HostError α × Session C Q × W}
    (haction : OnIo action) (config : Config) (last : RequestId) (range : BlockRange) (available : Nat) :
    (session.permitted config last range available action world).2.2.1.admin.tracker.AtRest := by
  have hpermit := permit_atRest hrest world config last range available
  unfold permitted
  split
  all_goals
    rename_i heq
    rw [heq] at hpermit
  · exact hpermit
  · obtain ⟨io, hio⟩ := haction _ _ _
    rw [hio]
    exact hpermit

lemma keepAlivePass_atRest (now : Tick) : (session.keepAlivePass now world).2.1.admin.tracker.AtRest := by
  have hreap : Channel.Steps (fun _ => False) (fun _ => True) (session.admin, world) (session.admin.reap world).2 :=
    .single (.reap session.admin world)
  unfold keepAlivePass
  split
  · exact hrest
  · simp only
    split
    · exact hreap.atRest hrest
    · have hsend : Channel.Steps (fun _ => False) (fun _ => True) (session.admin, world)
          ((session.admin.reap world).2.1.submitDetached .keepAlive (session.admin.reap world).2.2).2 :=
        hreap.tail (.submitDetached _ _ trivial)
      split
      all_goals
        rename_i heq
        rw [heq] at hsend
        exact hsend.atRest hrest

end Session

namespace Host

variable {host : Host C Q}

lemma keepAlivePass_atRest (now : Tick) (sessions : List (Session C Q)) (report : KeepAliveReport) (world : W)
    (hrest : ∀ session ∈ sessions, session.admin.tracker.AtRest) :
    ∀ session ∈ (keepAlivePass now sessions report world).2.1, session.admin.tracker.AtRest := by
  induction sessions generalizing report world with
  | nil => exact fun session hsession => (List.not_mem_nil hsession).elim
  | cons first rest ih =>
    intro session hsession
    rcases List.mem_cons.mp hsession with rfl | hsession
    · exact Session.keepAlivePass_atRest (hrest first List.mem_cons_self) world now
    · exact ih _ _ (fun other hother => hrest other (List.mem_cons_of_mem _ hother)) session hsession

section

variable (hrest : ∀ session ∈ host.registry.sessions, session.admin.tracker.AtRest) (world : W)
include hrest

lemma permitted_atRest {α : Type} {action : RequestId → Session C Q → W → Except HostError α × Session C Q × W}
    (haction : Session.OnIo action) (key : SessionKey) (range : BlockRange) (available : Nat) :
    ∀ session ∈ (host.onLive key (fun last session => session.permitted host.config last range available action)
      world).2.1.registry.sessions, session.admin.tracker.AtRest :=
  onLive_kept key
    (fun last _ world hrest => Session.permitted_atRest hrest world haction host.config last range available) world hrest

omit [Clock W] in
lemma poll_atRest (handle : RequestHandle) :
    ∀ session ∈ (host.poll handle world).2.1.registry.sessions, session.admin.tracker.AtRest := by
  have hlive : ∀ session ∈ (host.onLive handle.session (fun last session world =>
      ((session.pollIo handle.request world).1, last, (session.pollIo handle.request world).2)) world).2.1.registry.sessions,
      session.admin.tracker.AtRest := by
    refine onLive_kept handle.session (fun last session world hrest => ?_) world hrest
    simpa only [session.pollIo_admin] using hrest
  exact hlive

lemma identify_atRest (key : SessionKey) (nsid : UInt32) :
    ∀ session ∈ (host.identify key nsid world).2.1.registry.sessions, session.admin.tracker.AtRest := by
  refine onSession_kept key (.notFound (.session key)) (fun session world hrest => ?_) (Clock.now world).2 hrest
  split
  · exact hrest
  · split
    · exact Session.identifyController_atRest hrest world _ _ _
    · split
      · exact hrest
      · exact Session.identifyNamespace_atRest hrest world _ _ _ nsid

end

/-- Between calls nothing is tracked on an admin queue. -/
lemma perform_atRest (hrest : ∀ session ∈ host.registry.sessions, session.admin.tracker.AtRest) (call : HostCall)
    (world : W) : ∀ session ∈ (host.perform call world).2.1.registry.sessions, session.admin.tracker.AtRest := by
  have hopened : ∀ {session : Session C Q}, session.Opened → session.admin.tracker.AtRest := by
    rintro session ⟨plan, association, io, timer, hnew⟩
    rw [hnew]
    exact ⟨rfl, rfl, rfl⟩
  cases call with
  | connect | connectAttempt => exact connects_kept hopened hrest rfl world
  | disconnect key =>
    simp only [perform, disconnect]
    split
    · exact hrest
    · exact fun session hsession => hrest session (List.mem_of_mem_eraseP hsession)
  | disconnectAll => exact fun session hsession => (List.not_mem_nil hsession).elim
  | reset key =>
    exact onSession_kept key (.notFound (.session key)) (fun _ _ hrest => Session.reset_atRest hrest _) world hrest
  | reestablish key =>
    exact onSession_kept key (.notFound (.session key))
      (fun _ _ hrest => Session.reestablish_atRest hrest _ _) world hrest
  | read key range buffer =>
    simp only [perform, read_eq_permitted]
    exact permitted_atRest hrest _ (Session.readPermitted_onIo _ _ range buffer) key range _
  | write key range data =>
    simp only [perform, write_eq_permitted]
    exact permitted_atRest hrest _ (Session.writePermitted_onIo _ _ range data) key range _
  | submitRead key range =>
    simp only [perform, submitRead_eq_permitted]
    exact permitted_atRest hrest _ (Session.submitPermitted_onIo _) key range _
  | submitWrite key range data =>
    simp only [perform, submitWrite_eq_permitted]
    exact permitted_atRest hrest _ (Session.submitPermitted_onIo _) key range _
  | poll handle => exact poll_atRest hrest world handle
  | abandon handle =>
    simp only [perform, abandon]
    split
    · exact hrest
    · rename_i session hfind
      refine replace_kept _ ?_ hrest
      rw [session.abandonIo_admin]
      exact hrest session (List.mem_of_find?_eq_some hfind)
  | identify key nsid => exact identify_atRest hrest world key nsid
  | tick => exact keepAlivePass_atRest _ _ _ _ hrest
  | tickAt now => exact keepAlivePass_atRest now _ _ _ hrest

omit [Fabric W C Q] [Clock W] in
lemma places_of_names {handle other : RequestHandle} (h : handle.names other = true) :
    host.places other = host.places handle := by
  obtain ⟨hsession, hrequest⟩ : other.session = handle.session ∧ other.request = handle.request := by
    simpa [RequestHandle.names] using h
  rw [places, places, hsession, hrequest]

/-- What is known of the requests of all handles by what was answered. -/
structure Owes (log : List (HostCall × HostAnswer)) (host : Host C Q) : Prop where
  once : ∀ handle, host.places handle ≤ 1
  places : ∀ handle : RequestHandle, host.places handle = (unsettled log).countP handle.names

omit [Fabric W C Q] [Clock W] in
lemma Owes.start (config : Config) : Owes [] (Host.ofConfig config : Host C Q) := ⟨fun _ => Nat.zero_le 1, fun _ => rfl⟩

lemma Owes.perform {config : Config} {log : List (HostCall × HostAnswer)} (h : Owes log host)
    (hsound : Sound config log host) (hfresh : host.Fresh) (call : HostCall) (world : W) :
    Owes (log ++ [(call, (host.perform call world).1)]) (host.perform call world).2.1 where
  once handle := by
    have haccounts := perform_accounts hsound.enrolled.nodup hfresh (h.once handle) hsound.settled call world
    -- the accounts alone would allow a second place when the handle is given now; that its number is new rules this out
    cases hgiven : (given? (call, (host.perform call world).1)).any handle.names with
    | true =>
      obtain ⟨given, hsome, hnames⟩ := (Option.any_eq_true _ _).mp hgiven
      have hfollowed := followed_of_submitted hsound hfresh (given?_eq_some hsome)
      rw [← places_of_names hnames]
      exact Nat.le_trans (Nat.le_add_left _ _) hfollowed.completed
    | false =>
      rw [haccounts, hgiven]
      split
      · exact Nat.zero_le 1
      · exact h.once handle
  places handle := by
    rw [perform_accounts hsound.enrolled.nodup hfresh (h.once handle) hsound.settled call world, h.places,
      unsettled_append, List.countP_append, countP_filter_settles]
    cases given? (call, (host.perform call world).1) <;> simp

/-- What a run leaves: the requests that are accounted for, and nothing on the admin queues. -/
lemma owes_run (config : Config) (world : W) (calls : List (HostCall × (W → W))) :
    let run := (Host.ofConfig config : Host C Q).run world calls
    Owes run.1 run.2.1 ∧ ∀ session ∈ run.2.1.registry.sessions, session.admin.tracker.AtRest := by
  refine (run_induction (fun log host _ => (Sound config log host ∧ host.Fresh) ∧
      Owes log host ∧ ∀ session ∈ host.registry.sessions, session.admin.tracker.AtRest) ?_ calls (fun _ _ _ _ _ h => h)
    ⟨⟨Sound.start config, fun _ _ => rfl⟩, Owes.start config, fun _ hsession => (List.not_mem_nil hsession).elim⟩).2
  exact fun _ _ world call ⟨⟨hsound, hfresh⟩, howes, hrest⟩ =>
    ⟨⟨hsound.perform call world, hfresh.perform hsound.enrolled.nodup hsound.settled call world⟩,
      howes.perform hsound hfresh call world, perform_atRest hrest call world⟩

end Host

/-- Between calls nothing is tracked on an admin queue, and on an I/O queue each request once of those whose handles
submits gave and nothing has settled since. A read, a write or an identify, however it ends, and a submit that gives no
handle leave nothing of their own behind, and everything that was tracked is tracked still. -/
theorem synchronous_calls_leave_nothing {W C Q : Type} [Fabric W C Q] [Clock W] (config : Config) (world : W)
    (calls : List (HostCall × (W → W))) :
    let run := (Host.ofConfig config : Host C Q).run world calls
    let host := run.2.1
    (∀ session ∈ host.registry.sessions, session.admin.tracker.AtRest ∧
      ∀ io, session.io = some io → io.tracker.requests.Nodup ∧
        io.tracker.requests.Perm (((unsettled run.1).filter (·.session = session.key)).map RequestHandle.request)) ∧
      (∀ handle, host.tracks handle = (unsettled run.1).any handle.names) ∧
      ∀ (call : HostCall) (now : W), call.numbers → given? (call, (host.perform call now).1) = none →
        (∀ handle, (host.perform call now).2.1.tracks handle = host.tracks handle) ∧
          ∀ session ∈ (host.perform call now).2.1.registry.sessions, session.admin.tracker.AtRest := by
  intro run host
  obtain ⟨howes, hrest⟩ := Host.owes_run config world calls (C := C) (Q := Q)
  have hsound : Host.Sound config run.1 host := (Host.Sound.start config).run world calls
  have hfresh : host.Fresh := Host.fresh_run config world calls
  refine ⟨fun session hsession => ⟨hrest session hsession, fun io hio => ?_⟩, fun handle => ?_, fun call now hcall hgiven =>
    ⟨fun handle => ?_, Host.perform_atRest hrest call now⟩⟩
  · have hcount : ∀ request, io.tracker.requests.count request = host.places ⟨session.key, request, .read⟩ := by
      intro request
      rw [Tracker.count_requests, Host.places, Registry.find?_of_mem hsound.enrolled.nodup hsession]
      exact (Session.places_of_io hio).symm
    refine ⟨List.nodup_iff_count_le_one.mpr fun request => ?_, List.perm_iff_count.mpr fun request => ?_⟩
    · rw [hcount]
      exact howes.once _
    · rw [hcount, howes.places, List.count, List.countP_map, List.countP_filter]
      refine List.countP_congr fun other _ => ?_
      simp [RequestHandle.names, and_comm]
  · rw [Bool.eq_iff_iff, Host.tracks_iff_places, howes.places, List.countP_pos_iff, List.any_eq_true]
  · have haccounts := Host.perform_accounts hsound.enrolled.nodup hfresh (howes.once handle) hsound.settled call now
    rw [hgiven, settles_of_numbers hcall] at haccounts
    rw [Bool.eq_iff_iff, Host.tracks_iff_places, Host.tracks_iff_places, haccounts]
    rfl

end FabricHost
