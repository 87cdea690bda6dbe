import FabricHost.Proofs.Queue.Confinement
import FabricHost.Proofs.Requests.Lifecycle
import FabricHost.Proofs.Session.Asking

/-!
# Accounts of requests

A call changes in how many places a request is tracked by what it answers: a submit that gives a handle adds the request
of that handle, a call that settles a handle takes its request away, and nothing else counts. A synchronous call numbers
requests too, but however it ends, they are tracked no more.
-/

namespace FabricHost

variable {W C Q : Type} [Fabric W C Q] [Clock W]

namespace Session

/-- What a submit counts for a request: one if it gives the number of that request. -/
def given (other : RequestId) : Except HostError RequestId → Nat
  | .ok request => if request = other then 1 else 0
  | .error _ => 0

/-- An action under a new number counts for a request what its answer says. -/
structure Credits {α : Type} (other : RequestId) (gained : Except HostError α → Nat)
    (action : RequestId → Session C Q → W → Except HostError α × Session C Q × W) : Prop where
  onIo : OnIo action
  refused : ∀ error, gained (.error error) = 0
  places : ∀ request session world, session.places request = 0 → session.places other ≤ 1 →
    (action request session world).2.1.places other = session.places other + gained (action request session world).1

variable {session : Session C Q} {request other : RequestId} (world : W)

/-- A command that is waited for leaves every request where it is, also its own. -/
lemma executeIo_places (budget : Nat) (deadline : Tick) (command : Command) (hzero : session.places request = 0)
    (hone : session.places other ≤ 1) :
    (session.executeIo budget deadline request command world).2.1.places other = session.places other := by
  -- the command's own request is back nowhere in the end, while any other is only carried along
  by_cases hown : request = other
  · subst hown
    rw [hzero]
    unfold executeIo
    split
    · exact hzero
    · rename_i io hio
      rw [places_of_io hio] at hzero
      exact Channel.execute_places deadline command budget io world hzero
  · have herrands : Errands (fun _ own => request = own) (fun _ => True) (session, world)
        (session.executeIo budget deadline request command world).2 :=
      session.executeIo_errands world budget deadline rfl trivial
    exact herrands.steps.places hown hone

lemma readPermitted_credits (config : Config) (deadline : Tick) (range : BlockRange) (buffer : Bytes) :
    Credits other (fun _ => 0) (readPermitted (W := W) (C := C) (Q := Q) config deadline range buffer) where
  onIo := readPermitted_onIo config deadline range buffer
  refused _ := rfl
  places _ _ world hzero hone := executeIo_places world _ _ _ hzero hone

lemma writePermitted_credits (config : Config) (deadline : Tick) (range : BlockRange) (data : Bytes) :
    Credits other (fun _ => 0) (writePermitted (W := W) (C := C) (Q := Q) config deadline range data) where
  onIo := writePermitted_onIo config deadline range data
  refused _ := rfl
  places _ _ world hzero hone := executeIo_places world _ _ _ hzero hone

lemma submitPermitted_credits (command : Command) :
    Credits other (given other) (submitPermitted (W := W) (C := C) (Q := Q) command) where
  onIo := submitPermitted_onIo command
  refused _ := rfl
  places request session world hzero hone := by
    simp only [submitPermitted]
    by_cases hown : request = other
    · subst hown
      rcases session.submitIo_places world command hzero with ⟨⟨error, hfailed⟩, hplaces⟩ | ⟨hdone, hplaces⟩
      · rw [hfailed, hplaces, hzero]
        rfl
      · rw [hdone, hplaces, hzero]
        simp [given, Except.map]
    · have herrands : Errands (fun _ own => request = own) (fun _ => True) (session, world)
          (session.submitIo request command world).2 := session.submitIo_errands world rfl trivial
      rw [herrands.steps.places hown hone]
      cases (session.submitIo request command world).1 <;> simp [given, Except.map, hown]

section

variable {α : Type} {gained : Except HostError α → Nat}
  {action : RequestId → Session C Q → W → Except HostError α × Session C Q × W} (haction : Credits other gained action)
  (config : Config) (last : RequestId) (range : BlockRange) (available : Nat)
include haction

lemma permitted_places (hfree : ∀ request, last < request → session.places request = 0)
    (hone : session.places other ≤ 1) :
    (session.permitted config last range available action world).2.2.1.places other =
      session.places other + gained (session.permitted config last range available action world).1 := by
  have hlast := session.permit_last world config last range available
  have hplaces : ∀ request, (session.permit config last range available world).2.2.1.places request =
      session.places request := by simp [places, session.permit_io world config last range available]
  unfold permitted
  split
  all_goals
    rename_i heq
    simp only [heq] at hlast hplaces
  · rw [haction.refused, hplaces, Nat.add_zero]
  · rw [← hplaces other] at hone ⊢
    exact haction.places _ _ _ ((hplaces _).trans (hfree _ (Nat.lt_succ_of_le hlast))) hone

end

end Session

namespace HostCall

/-- The handle that a submit gave. -/
def given? : HostCall × HostAnswer → Option RequestHandle
  | (_, .submitted (.ok handle)) => some handle
  | _ => none

/-- Whether the call may number requests. -/
def numbers : HostCall → Bool
  | read .. => true
  | write .. => true
  | submitRead .. => true
  | submitWrite .. => true
  | identify .. => true
  | _ => false

end HostCall

open HostCall

namespace Host

variable {host : Host C Q} {handle : RequestHandle}

omit [Fabric W C Q] [Clock W] in
/-- What a submit counts for the request of a handle. -/
lemma given_submitted (key : SessionKey) (direction : IoDirection) (call : HostCall)
    (answer : Except HostError RequestId) :
    (if (given? (call, .submitted (answer.map (⟨key, ·, direction⟩)))).any handle.names then 1 else 0) =
      if key = handle.session then Session.given handle.request answer else 0 := by
  cases answer with
  | error => simp [given?, Session.given, Except.map]
  | ok request => by_cases hkey : key = handle.session <;> simp [given?, Session.given, Except.map, RequestHandle.names, hkey]

lemma lastRequest_of_not_numbers {call : HostCall} (h : call.numbers = false) (world : W) :
    (host.perform call world).2.1.lastRequest = host.lastRequest := by
  have hconnect : ∀ call : HostCall, call.connects → (host.perform call world).2.1.lastRequest = host.lastRequest := by
    intro call hconnects
    rcases host.perform_membership hconnects world with ⟨_, _, heq, -⟩ | ⟨_, _, -, -, -, heq⟩
    · rw [heq]
    · rw [heq]
  cases call with
  | connect | connectAttempt => exact hconnect _ rfl
  | disconnect key =>
    simp only [perform, disconnect]
    split <;> rfl
  | disconnectAll | tick | tickAt => rfl
  | reset key => exact lastRequest_onSession key _ Session.reset world
  | reestablish key =>
    exact lastRequest_onSession key _ (fun session => session.reestablish host.config.ioQueueDepth) world
  | poll other =>
    simp only [perform, poll, onLive]
    split
    · rfl
    · split <;> rfl
  | abandon other =>
    simp only [perform, abandon]
    split <;> rfl
  | _ => cases h

section

variable (hnodup : host.registry.keys.Nodup) (hfresh : host.Fresh) (hone : host.places handle ≤ 1)
include hnodup hfresh hone

lemma permitted_places {α : Type} {gained : Except HostError α → Nat}
    {action : RequestId → Session C Q → W → Except HostError α × Session C Q × W}
    (haction : Session.Credits handle.request gained action) (key : SessionKey) (range : BlockRange) (available : Nat)
    (world : W) :
    let result := host.onLive key (fun last session => session.permitted host.config last range available action) world
    result.2.1.places handle = host.places handle + if key = handle.session then gained result.1 else 0 := by
  intro result
  have hrefused : result.1 = .error .sessionClosed → result.2.1 = host →
      result.2.1.places handle = host.places handle + if key = handle.session then gained result.1 else 0 := by
    intro hanswer hsame
    rw [hanswer, hsame, haction.refused, ite_self, Nat.add_zero]
  rcases onLive_cases hnodup key (fun last session => session.permitted host.config last range available action)
    (fun last session world => session.permitted_key world _ last range available _ haction.onIo.key) world with
    ⟨-, heq⟩ | ⟨before, session, behind, hsplit, hkey, hothers, ⟨-, heq⟩ | ⟨-, heq⟩⟩
  · exact hrefused (congrArg Prod.fst heq) (congrArg (·.2.1) heq)
  · exact hrefused (congrArg Prod.fst heq) (congrArg (·.2.1) heq)
  · simp only [result, heq]
    have hkey' : (session.permitted host.config host.lastRequest range available action world).2.2.1.key = session.key :=
      session.permitted_key world _ _ _ _ _ haction.onIo.key
    split
    · rename_i hsession
      rw [hsession] at hkey hothers
      have hfree : ∀ request, host.lastRequest < request → session.places request = 0 := by
        intro request hnew
        have hplaces : host.places ⟨handle.session, request, handle.direction⟩ = session.places request :=
          places_of_split hsplit hkey hothers
        rw [← hplaces]
        exact hfresh _ hnew
      rw [places_of_split hsplit hkey hothers] at hone ⊢
      rw [← Session.permitted_places world haction host.config host.lastRequest range available hfree hone]
      exact places_of_split rfl (hkey'.trans hkey) hothers
    · rename_i hsession
      exact places_replaced hsplit hkey' fun hown => (hsession (hkey.symm.trans hown)).elim

/-- A call takes away the request of a handle that it settles and adds the request of a handle that it gives. -/
theorem perform_accounts (hsettled : ∀ session ∈ host.registry.sessions, session.Settled) (call : HostCall) (world : W) :
    (host.perform call world).2.1.places handle =
      (if settles handle (call, (host.perform call world).1) then 0 else host.places handle) +
        if (given? (call, (host.perform call world).1)).any handle.names then 1 else 0 := by
  have hunnumbered : call.numbers = false →
      (host.perform call world).2.1.places handle =
        if settles handle (call, (host.perform call world).1) then 0 else host.places handle := by
    intro hcall
    have hlast := host.lastRequest_of_not_numbers hcall world
    refine perform_places hnodup hsettled hone call world ?_
    rw [hlast]
    exact Nat.lt_or_ge host.lastRequest handle.request |>.symm
  cases call with
  | read key range buffer =>
    simp only [perform, read_eq_permitted]
    refine (permitted_places hnodup hfresh hone (Session.readPermitted_credits _ _ range buffer) key range _ _).trans ?_
    simp [settles, completes, given?]
  | write key range data =>
    simp only [perform, write_eq_permitted]
    refine (permitted_places hnodup hfresh hone (Session.writePermitted_credits _ _ range data) key range _ _).trans ?_
    simp [settles, completes, given?]
  | submitRead key range =>
    simp only [perform, submitRead_eq_permitted]
    refine (permitted_places hnodup hfresh hone (Session.submitPermitted_credits _) key range _ _).trans ?_
    rw [← given_submitted key .read (.submitRead key range)]
    rfl
  | submitWrite key range data =>
    simp only [perform, submitWrite_eq_permitted]
    refine (permitted_places hnodup hfresh hone (Session.submitPermitted_credits _) key range _ _).trans ?_
    rw [← given_submitted key .write (.submitWrite key range data)]
    rfl
  | identify key nsid =>
    have hvisit : Visit (fun _ _ => False) (fun _ => False) key (host, world) (host.identify key nsid world).2 :=
      identify_visit hnodup key nsid
    exact hvisit.steps.places id hone
  | _ => exact hunnumbered rfl

end

end Host

end FabricHost
