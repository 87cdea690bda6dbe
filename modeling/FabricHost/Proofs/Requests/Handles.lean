import FabricHost.Proofs.Host.Invariants
import FabricHost.Proofs.Requests.Places

/-!
# The life of a handle

A handle that a submit gave names a request that is tracked in one place. It leaves that place once: when a poll brings
its completion, when it is abandoned, or when a reset or a disconnect takes its queue away. From then on nobody knows it,
because numbers of requests are never used again, not even on another session of the same key.
-/

namespace FabricHost

namespace RequestHandle

/-- Whether two handles name the same request. -/
def names (handle other : RequestHandle) : Bool := other.session = handle.session ∧ other.request = handle.request

end RequestHandle

/-- Whether an answer to a poll says that the request has completed. -/
def HostAnswer.isTerminal : HostAnswer → Bool
  | polled (.ok (some _)) => true
  | polled (.error (.mediaError _)) => true
  | _ => false

namespace HostCall

/-- Whether a poll brings the completion of a request. -/
def completes (handle : RequestHandle) : HostCall × HostAnswer → Bool
  | (poll other, answer) => handle.names other && answer.isTerminal
  | _ => false

/-- Whether a call ends the life of a request. -/
def settles (handle : RequestHandle) : HostCall × HostAnswer → Bool
  | (abandon other, .done (.ok ())) => handle.names other
  | (reset key, .done (.ok ())) => key = handle.session
  | (disconnect key, .done (.ok ())) => key = handle.session
  | (disconnectAll, _) => true
  | entry => completes handle entry

lemma settles_of_completes {handle : RequestHandle} {entry : HostCall × HostAnswer} (h : completes handle entry = true) :
    settles handle entry = true := by
  unfold completes at h
  split at h
  · exact h
  · cases h

variable (handle : RequestHandle) (answer : Except HostError Unit)

lemma settles_reset (key : SessionKey) :
    settles handle (.reset key, .done answer) = true ↔ answer = .ok () ∧ key = handle.session := by
  rcases answer with _ | _ <;> simp [settles, completes]

lemma settles_disconnect (key : SessionKey) :
    settles handle (.disconnect key, .done answer) = true ↔ answer = .ok () ∧ key = handle.session := by
  rcases answer with _ | _ <;> simp [settles, completes]

lemma settles_abandon (other : RequestHandle) :
    settles handle (.abandon other, .done answer) = true ↔ answer = .ok () ∧ handle.names other = true := by
  rcases answer with _ | _ <;> simp [settles, completes]

end HostCall

open HostCall

namespace Host

variable {W C Q : Type} [Fabric W C Q] [Clock W]

/-- In how many places the request of a handle is tracked. -/
def places (host : Host C Q) (handle : RequestHandle) : Nat :=
  match host.registry.find? handle.session with
  | some session => session.places handle.request
  | none => 0

variable {host : Host C Q} {handle : RequestHandle}

omit [Fabric W C Q] [Clock W] in
lemma places_of_not_mem (h : handle.session ∉ host.registry.keys) : host.places handle = 0 := by
  rw [places, Registry.find?_eq_none_iff.mpr h]

section

variable {before behind : List (Session C Q)} {session session' : Session C Q}
  (hsplit : host.registry.sessions = before ++ session :: behind)
include hsplit

omit [Fabric W C Q] [Clock W] in
lemma places_of_split (hkey : session.key = handle.session)
    (hothers : ∀ other ∈ before ++ behind, other.key ≠ handle.session) :
    host.places handle = session.places handle.request := by
  have hnone : before.find? (·.key = handle.session) = none := by
    simpa using fun other hother => hothers other (List.mem_append_left _ hother)
  simp [places, Registry.find?, hsplit, hkey, hnone]

omit [Fabric W C Q] [Clock W] in
/-- What happens to one session counts for its requests. -/
lemma places_replaced (hkey : session'.key = session.key)
    (hplaces : session.key = handle.session → host.places handle = session.places handle.request →
      session'.places handle.request = session.places handle.request) :
    places { host with registry := { host.registry with sessions := before ++ session' :: behind } } handle =
      host.places handle := by
  unfold places Registry.find? at hplaces ⊢
  simp only [hsplit, List.find?_append, List.find?_cons, hkey] at hplaces ⊢
  cases hfind : before.find? (·.key = handle.session) with
  | some other => rfl
  | none =>
    by_cases hown : session.key = handle.session
    · simp only [hfind, hown, decide_true, Option.none_or, true_implies] at hplaces ⊢
      exact hplaces
    · simp [hown]

end

lemma Steps.places {own : SessionKey → RequestId → Prop} {sends : Command → Prop} {before after : Host C Q × W}
    (h : Steps own sends before after) (hown : ¬ own handle.session handle.request) (hone : before.1.places handle ≤ 1) :
    after.1.places handle = before.1.places handle := by
  induction h with
  | refl => rfl
  | tail _ hstep ih =>
    rw [← ih]
    cases hstep with
    | now => rfl
    | number => rfl
    | session hsplit h =>
      refine places_replaced hsplit h.key fun hkey hplaces => h.places (hkey ▸ hown) ?_
      rw [← hplaces, ih]
      exact hone

section

variable (hnodup : host.registry.keys.Nodup) (hsettled : ∀ session ∈ host.registry.sessions, session.Settled)
  (hone : host.places handle ≤ 1) (world : W)
include hnodup hone

/-- Traffic that does not name a request leaves it where it is. -/
lemma unnamed_places (call : HostCall) (htraffic : call.isTraffic)
    (hunnamed : ∀ other, call.handle? = some other → handle.names other = false)
    (hnumber : handle.request ≤ host.lastRequest ∨ (host.perform call world).2.1.lastRequest < handle.request) :
    (host.perform call world).2.1.places handle = host.places handle := by
  refine (perform_steps hnodup htraffic world).places ?_ hone
  rintro (⟨hnew, hbound⟩ | ⟨other, hother, hsession, hrequest⟩)
  · rcases hnumber with hold | hlater
    · exact Nat.not_lt.mpr hold hnew
    · exact Nat.not_le.mpr hlater hbound
  · have hnames := hunnamed other hother
    simp [RequestHandle.names, hsession, hrequest] at hnames

omit hone in
include hsettled in
/-- What a poll finds: the request still in flight, its completion, or nothing. -/
lemma poll_cases (hone : host.places handle ≤ 1) {other : RequestHandle} (hnames : handle.names other = true) :
    host.places handle = 1 ∧ (host.poll other world).2.1.places handle = 1 ∧
        ((∃ failure, (host.poll other world).1 = .error (.ofFailure failure)) ∨ (host.poll other world).1 = .ok none) ∨
      host.places handle = 1 ∧ (host.poll other world).2.1.places handle = 0 ∧
        ((∃ result, (host.poll other world).1 = .ok (some result)) ∨
          ∃ status, (host.poll other world).1 = .error (.mediaError status)) ∨
      host.places handle = 0 ∧ (host.poll other world).2.1.places handle = 0 ∧
        ((host.poll other world).1 = .error .sessionClosed ∨
          (host.poll other world).1 = .error (.notFound (.request handle.request))) := by
  obtain ⟨hsession, hrequest⟩ : other.session = handle.session ∧ other.request = handle.request := by
    simpa [RequestHandle.names] using hnames
  unfold poll
  rw [hsession, hrequest]
  simp only
  rcases onLive_cases hnodup handle.session (fun last session world =>
      ((session.pollIo handle.request world).1, last, (session.pollIo handle.request world).2))
      (fun _ session world => session.pollIo_key world handle.request) world with
    ⟨hmissing, heq⟩ | ⟨before, session, behind, hsplit, hkey, hothers, ⟨hclosed, heq⟩ | ⟨-, heq⟩⟩
  · rw [heq]
    exact .inr (.inr ⟨places_of_not_mem hmissing, places_of_not_mem hmissing, .inl rfl⟩)
  · -- A session that takes no reads and writes has no queue for the request to be on.
    have hzero : host.places handle = 0 := by
      rw [places_of_split hsplit hkey hothers]
      rcases hsettled session (by simp [hsplit]) with ⟨hlive, -⟩ | ⟨-, hio⟩
      · rw [hlive] at hclosed
        cases hclosed
      · rw [Session.places, hio]
    rw [heq]
    exact .inr (.inr ⟨hzero, hzero, .inl rfl⟩)
  · have hplaces := places_of_split hsplit hkey hothers
    rw [heq]
    have hafter : places { host with registry := { host.registry with
        sessions := before ++ (session.pollIo handle.request world).2.1 :: behind } } handle =
          (session.pollIo handle.request world).2.1.places handle.request :=
      places_of_split rfl ((session.pollIo_key world handle.request).trans hkey) hothers
    rw [hplaces] at hone ⊢
    rcases Nat.le_one_iff_eq_zero_or_eq_one.mp hone with hzero | hone
    · rw [Session.pollIo_untracked world hzero] at hafter ⊢
      exact .inr (.inr ⟨hzero, hafter.trans hzero, .inr rfl⟩)
    · rcases Session.pollIo_tracked world hone with
        ⟨hstays, ⟨failure, hfailed⟩ | hwaiting⟩ | ⟨hgone, ⟨completion, hdone⟩ | ⟨status, hdone⟩⟩
      · exact .inl ⟨hone, hafter.trans hstays, .inl ⟨failure, by rw [hfailed]; rfl⟩⟩
      · exact .inl ⟨hone, hafter.trans hstays, .inr (by rw [hwaiting]; rfl)⟩
      · exact .inr (.inl ⟨hone, hafter.trans hgone, .inl ⟨resultOf other completion, by rw [hdone]; rfl⟩⟩)
      · exact .inr (.inl ⟨hone, hafter.trans hgone, .inr ⟨status, by rw [hdone]; rfl⟩⟩)

omit hone in
/-- What an abandon finds: the request, which it gives up, or nothing. -/
lemma abandon_cases (hone : host.places handle ≤ 1) {other : RequestHandle} (hnames : handle.names other = true) :
    host.places handle = 1 ∧ (host.abandon other).2.places handle = 0 ∧ (host.abandon other).1 = .ok () ∨
      host.places handle = 0 ∧ (host.abandon other).2.places handle = 0 ∧
        ((host.abandon other).1 = .error .sessionClosed ∨
          (host.abandon other).1 = .error (.notFound (.request handle.request))) := by
  obtain ⟨hsession, hrequest⟩ : other.session = handle.session ∧ other.request = handle.request := by
    simpa [RequestHandle.names] using hnames
  unfold abandon
  rw [hsession, hrequest]
  split
  · rename_i hmissing
    have hzero := places_of_not_mem (Registry.find?_eq_none_iff.mp hmissing)
    exact .inr ⟨hzero, hzero, .inl rfl⟩
  · rename_i session hfind
    obtain ⟨before, behind, hsplit, hbefore, hbehind⟩ := Registry.find?_split hnodup hfind
    have hkey := Registry.key_of_find? hfind
    have hkey' := (session.abandonIo_key handle.request).trans hkey
    have hothers : ∀ other ∈ before ++ behind, other.key ≠ handle.session :=
      fun other hother => (List.mem_append.mp hother).elim (hbefore other) (hbehind other)
    have hplaces := places_of_split hsplit hkey hothers
    have hafter : places { host with registry := host.registry.replace (session.abandonIo handle.request).2 } handle =
        (session.abandonIo handle.request).2.places handle.request :=
      places_of_split (Registry.replace_split hsplit hbefore hbehind hkey hkey') hkey' hothers
    rw [hplaces] at hone ⊢
    rcases Nat.le_one_iff_eq_zero_or_eq_one.mp hone with hzero | hone
    · rw [Session.abandonIo_untracked hzero] at hafter ⊢
      exact .inr ⟨hzero, hafter.trans hzero, .inr rfl⟩
    · obtain ⟨hdone, hgone⟩ := Session.abandonIo_tracked hone
      exact .inl ⟨hone, hafter.trans hgone, hdone⟩

end

section

variable (handle) (world : W)

/-- A connect brings a session without requests. -/
lemma connects_places {call : HostCall} (hconnects : call.connects) :
    (host.perform call world).2.1.places handle = host.places handle := by
  rcases host.perform_membership hconnects world with ⟨_, _, heq, -⟩ | ⟨session, _, -, -, hopened, heq⟩
  · rw [heq]
  · obtain ⟨plan, association, io, timer, hnew⟩ := hopened
    have hempty : session.places handle.request = 0 := by
      rw [hnew]
      exact Tracker.places_empty _
    rw [heq]
    simp only [places, Registry.find?_append]
    cases host.registry.find? handle.session with
    | some other => rfl
    | none =>
      rw [Option.none_or]
      split <;> rename_i hfound
      · split at hfound
        · cases hfound
          exact hempty
        · cases hfound
      · rfl

variable (hnodup : host.registry.keys.Nodup) (key : SessionKey)
include hnodup

omit [Clock W] in
/-- A reset that succeeds loses the requests of the session. -/
lemma reset_places : (host.reset key world).2.1.places handle =
    if (host.reset key world).1 = .ok () ∧ key = handle.session then 0 else host.places handle := by
  unfold reset
  rcases onSession_cases hnodup key (.notFound (.session key)) Session.reset Session.reset_key world with
    ⟨-, heq⟩ | ⟨before, session, behind, hsplit, hkey, hothers, heq⟩
  · rw [heq]
    simp
  · rw [heq]
    rcases session.reset_cases world with ⟨failure, controller, world', -, hreset⟩ | ⟨controller, world', -, hreset⟩
    · rw [hreset]
      simp only [reduceCtorEq, false_and, if_false]
      exact places_replaced hsplit rfl fun _ _ => rfl
    · rw [hreset]
      simp only [true_and]
      split
      · rename_i hsession
        rw [hsession] at hkey hothers
        have hlast : ∀ last : Session C Q, last.key = handle.session →
            places { host with registry := { host.registry with sessions := before ++ last :: behind } } handle =
              last.places handle.request := fun _ hlast => places_of_split rfl hlast hothers
        exact hlast _ hkey
      · rename_i hsession
        exact places_replaced hsplit rfl fun hown => (hsession (hkey.symm.trans hown)).elim

omit [Clock W] in
/-- The I/O queue of a settled session that is re-established keeps its requests, or has none and had none. -/
lemma reestablish_places (hsettled : ∀ session ∈ host.registry.sessions, session.Settled) :
    (host.reestablish key world).2.1.places handle = host.places handle := by
  unfold reestablish
  rcases onSession_cases hnodup key (.notFound (.session key))
      (fun session => session.reestablish host.config.ioQueueDepth)
      (fun session world => session.reestablish_key host.config.ioQueueDepth world) world with
    ⟨-, heq⟩ | ⟨before, session, behind, hsplit, -, -, heq⟩
  · rw [heq]
  · rw [heq]
    refine places_replaced hsplit (session.reestablish_key _ world) fun _ _ => ?_
    have hsession : session.Settled := hsettled session (by simp [hsplit])
    rcases hsession.reestablish_cases host.config.ioQueueDepth world with
      ⟨-, hsame⟩ | ⟨-, hio, ⟨failure, controller, world', -, hsame⟩ | ⟨queue, controller, world', -, hnew⟩⟩
    · rw [hsame]
    · rw [hsame]
      rfl
    · have hzero : session.places handle.request = 0 := by rw [Session.places, hio]
      rw [hnew, hzero]
      exact Tracker.places_empty _

omit [Clock W] in
/-- A disconnect loses the requests of the session. -/
lemma disconnect_places : (host.disconnect key world).2.1.places handle =
    if (host.disconnect key world).1 = .ok () ∧ key = handle.session then 0 else host.places handle := by
  rcases disconnect_cases hnodup key world with ⟨-, heq⟩ | ⟨before, session, behind, hsplit, hkey, hothers, heq⟩
  · rw [heq]
    simp
  · rw [heq]
    simp only [true_and]
    split
    · rename_i hsession
      rw [hsession] at hothers
      refine places_of_not_mem ?_
      simpa [Registry.keys, or_imp, forall_and] using hothers
    · rename_i hsession
      have hother : session.key ≠ handle.session := fun hown => hsession (hkey.symm.trans hown)
      have hfind : host.registry.find? handle.session =
          ({ host.registry with sessions := before ++ behind } : Registry C Q).find? handle.session := by
        simp [Registry.find?, hsplit, hother]
      rw [places, places, hfind]

end

/-- A request is where it was before a call, or nowhere if the call ends its life. -/
theorem perform_places (hnodup : host.registry.keys.Nodup)
    (hsettled : ∀ session ∈ host.registry.sessions, session.Settled) (hone : host.places handle ≤ 1) (call : HostCall)
    (world : W)
    (hnumber : handle.request ≤ host.lastRequest ∨ (host.perform call world).2.1.lastRequest < handle.request) :
    (host.perform call world).2.1.places handle =
      if settles handle (call, (host.perform call world).1) then 0 else host.places handle := by
  cases call with
  | connect | connectAttempt => exact connects_places handle world rfl
  | disconnect key =>
    simp only [perform, Prod.map_fst, Prod.map_snd, settles_disconnect]
    exact disconnect_places handle world hnodup key
  | disconnectAll => rfl
  | reset key =>
    simp only [perform, Prod.map_fst, Prod.map_snd, settles_reset]
    exact reset_places handle world hnodup key
  | reestablish key => exact reestablish_places handle world hnodup key hsettled
  | poll other =>
    cases hnames : handle.names other with
    | false =>
      rw [if_neg (by simp [settles, completes, hnames])]
      refine unnamed_places hnodup hone world (.poll other) rfl (fun named hnamed => ?_) hnumber
      cases hnamed
      exact hnames
    | true =>
      simp only [perform, Prod.map_fst, Prod.map_snd, settles, completes, hnames, Bool.true_and]
      rcases poll_cases hnodup hsettled world hone hnames with
        ⟨hbefore, hafter, ⟨failure, hanswer⟩ | hanswer⟩ | ⟨hbefore, hafter, ⟨result, hanswer⟩ | ⟨status, hanswer⟩⟩ |
          ⟨hbefore, hafter, hanswer | hanswer⟩
      all_goals
        rw [hanswer, hbefore]
        exact hafter
  | abandon other =>
    simp only [perform, settles_abandon]
    cases hnames : handle.names other with
    | false =>
      rw [if_neg (by simp)]
      refine unnamed_places hnodup hone world (.abandon other) rfl (fun named hnamed => ?_) hnumber
      cases hnamed
      exact hnames
    | true =>
      rcases abandon_cases hnodup hone hnames with ⟨hbefore, hafter, hanswer⟩ | ⟨hbefore, hafter, hanswer | hanswer⟩
      all_goals
        rw [hanswer, hbefore, hafter]
        simp
  | _ => exact unnamed_places hnodup hone world _ rfl (fun _ h => by cases h) hnumber

/-- Only a poll for a tracked request brings its completion. -/
lemma places_of_completes (hnodup : host.registry.keys.Nodup)
    (hsettled : ∀ session ∈ host.registry.sessions, session.Settled) (hone : host.places handle ≤ 1) {call : HostCall}
    {world : W} (h : completes handle (call, (host.perform call world).1) = true) : host.places handle = 1 := by
  unfold completes at h
  split at h
  · rename_i other answer heq
    cases heq
    obtain ⟨hnames, hterminal⟩ := Bool.and_eq_true_iff.mp h
    rcases poll_cases hnodup hsettled world hone hnames with ⟨hbefore, -, -⟩ | ⟨hbefore, -, -⟩ | ⟨-, -, hanswer | hanswer⟩
    · exact hbefore
    · exact hbefore
    · simp [perform, hanswer, HostAnswer.isTerminal] at hterminal
    · simp [perform, hanswer, HostAnswer.isTerminal] at hterminal
  · cases h

/-- No request is tracked that was not numbered yet. -/
def Fresh (host : Host C Q) : Prop := ∀ handle : RequestHandle, host.lastRequest < handle.request → host.places handle = 0

lemma Fresh.perform (h : host.Fresh) (hnodup : host.registry.keys.Nodup)
    (hsettled : ∀ session ∈ host.registry.sessions, session.Settled) (call : HostCall) (world : W) :
    (host.perform call world).2.1.Fresh := by
  intro handle hlater
  have hzero := h handle (Nat.lt_of_le_of_lt (lastRequest_perform hnodup call world) hlater)
  rw [perform_places hnodup hsettled (hzero ▸ Nat.zero_le 1) call world (.inr hlater), hzero, ite_self]

/-- A request that is submitted has a new number and is tracked. -/
lemma Fresh.submit_places (h : host.Fresh) (hnodup : host.registry.keys.Nodup) (handle : RequestHandle)
    (range : BlockRange) (available : Nat) (command : Command) (world : W)
    (hdone : (host.onLive handle.session
      (fun last session => session.submit host.config last range available command) world).1 = .ok handle.request) :
    let after := (host.onLive handle.session
      (fun last session => session.submit host.config last range available command) world).2.1
    handle.request ≤ after.lastRequest ∧ after.places handle = 1 := by
  rcases onLive_cases hnodup handle.session (fun last session => session.submit host.config last range available command)
      (fun last session world => session.submit_key world host.config last range available command) world with
    ⟨-, heq⟩ | ⟨before, session, behind, hsplit, hkey, hothers, ⟨-, heq⟩ | ⟨-, heq⟩⟩
  · rw [heq] at hdone
    cases hdone
  · rw [heq] at hdone
    cases hdone
  · rw [heq] at hdone
    simp only [heq]
    have hfree : ∀ request, host.lastRequest < request → session.places request = 0 := by
      intro request hnew
      have hplaces : host.places ⟨handle.session, request, handle.direction⟩ = session.places request :=
        places_of_split hsplit hkey hothers
      rw [← hplaces]
      exact h _ hnew
    obtain ⟨-, hlast, htracked⟩ := Session.submit_tracked world hfree hdone
    have hkey' := (session.submit_key world host.config host.lastRequest range available command).trans hkey
    refine ⟨Nat.le_of_eq hlast.symm, ?_⟩
    have hafter : ∀ last : Session C Q, last.key = handle.session → ∀ lastRequest,
        places { host with registry := { host.registry with sessions := before ++ last :: behind }, lastRequest } handle =
          last.places handle.request := fun _ hlast _ => places_of_split rfl hlast hothers
    rw [hafter _ hkey', htracked]

end Host

end FabricHost
