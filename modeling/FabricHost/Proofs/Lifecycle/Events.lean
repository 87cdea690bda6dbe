import FabricHost.Proofs.Host.Invariants

/-!
# Events in the life of a session

A reset, a new queue and a disconnect are events that the session of a key processes, and so is the handshake that it
begins with. An event is processed only when it can happen, so none is ever ignored. All other calls leave the session in
the state that it is in.
-/

namespace FabricHost

/-- From a state a session gets to another one or ends by an event that can happen there, or it stays without one. -/
def Lifecycle.Advances (state : Lifecycle) (event? : Option LifecycleEvent) (next : Option Lifecycle) : Prop :=
  match event? with
  | none => next = some state
  | some event => ∃ reached, state.next? event = some reached ∧ next = if reached = .closed then none else some reached

/-- The event that a call, answered so, has the session of a key process, if it finds the session in that state. A live
session has its queue already, and processes nothing when it is to be re-established. -/
def HostCall.event? (key : SessionKey) (state : Lifecycle) : HostCall × HostAnswer → Option LifecycleEvent
  | (reset other, .done (.ok ())) => if other = key then some .controllerReset else none
  | (reestablish other, .done (.ok ())) => if other = key ∧ state ≠ .live then some .queuesReestablished else none
  | (disconnect other, .done (.ok ())) => if other = key then some .disconnect else none
  | (disconnectAll, _) => some .disconnect
  | _ => none

namespace Host

variable {W C Q : Type} [Fabric W C Q] [Clock W] {host : Host C Q} {key : SessionKey} {state : Lifecycle}

/-- The state of the session of a key, if there is one. -/
def stateOf? (host : Host C Q) (key : SessionKey) : Option Lifecycle := (host.registry.find? key).map Session.state

omit [Fabric W C Q] [Clock W] in
lemma stateOf?_eq_none_iff : host.stateOf? key = none ↔ key ∉ host.registry.keys := by
  rw [stateOf?, Option.map_eq_none_iff, Registry.find?_eq_none_iff]

omit [Fabric W C Q] [Clock W] in
lemma stateOf?_of_mem (hnodup : host.registry.keys.Nodup) {session : Session C Q} (h : session ∈ host.registry.sessions) :
    host.stateOf? session.key = some session.state := by
  rw [stateOf?, Registry.find?_of_mem hnodup h, Option.map_some]

lemma Steps.stateOf? {own : SessionKey → RequestId → Prop} {sends : Command → Prop} {before after : Host C Q × W}
    (h : Steps own sends before after) (key : SessionKey) : after.1.stateOf? key = before.1.stateOf? key := by
  induction h with
  | refl => rfl
  | tail _ hstep ih =>
    rw [← ih]
    cases hstep with
    | now => rfl
    | number => rfl
    | session hsplit h =>
      have hkey := h.key
      have hstate := h.state
      simp only [Host.stateOf?, Registry.find?, hsplit, List.find?_append, List.find?_cons, hkey]
      split
      · rw [Option.map_or, Option.map_or, Option.map_some, Option.map_some, hstate]
      · rfl

omit [Fabric W C Q] [Clock W] in
lemma stateOf?_replace (host : Host C Q) (session : Session C Q) (key : SessionKey) :
    ({ host with registry := host.registry.replace session } : Host C Q).stateOf? key =
      (host.stateOf? key).map fun state => if key = session.key then session.state else state := by
  simp only [stateOf?, Registry.find?_replace, Option.map_map]
  congr 1
  funext other
  simp only [Function.comp_apply]
  split <;> rfl

section

variable (hnodup : host.registry.keys.Nodup) (hsettled : ∀ session ∈ host.registry.sessions, session.Settled)
  (hstate : host.stateOf? key = some state)
include hsettled hstate

omit [Fabric W C Q] [Clock W] in
lemma live_or_reset : state = .live ∨ state = .queuesNeedReinit := by
  obtain ⟨session, hfind, rfl⟩ := Option.map_eq_some_iff.mp hstate
  exact (hsettled session (List.mem_of_find?_eq_some hfind)).imp And.left And.left

omit [Fabric W C Q] [Clock W] in
lemma advances_end : state.Advances (some .disconnect) none := by
  rcases live_or_reset hsettled hstate with rfl | rfl <;> exact ⟨.closed, rfl, rfl⟩

omit [Fabric W C Q] [Clock W] hsettled in
/-- What happens to one session is no event for another. -/
lemma replace_advances {other : SessionKey} {session session' : Session C Q}
    (hfind : host.registry.find? other = some session) (hkey : session'.key = session.key)
    {event? : Option LifecycleEvent} (hsame : other = key → session.state = state →
      state.Advances event? (some session'.state)) (hother : other ≠ key → event? = none) :
    state.Advances event? (({ host with registry := host.registry.replace session' } : Host C Q).stateOf? key) := by
  rw [stateOf?_replace, hstate, Option.map_some, hkey, Registry.key_of_find? hfind]
  by_cases heq : other = key
  · rw [if_pos heq.symm]
    subst heq
    rw [stateOf?, hfind] at hstate
    exact hsame rfl (Option.some.inj hstate)
  · rw [if_neg fun h => heq h.symm, hother heq]
    rfl

omit [Clock W] in
lemma reset_advances (other : SessionKey) (world : W) :
    state.Advances (HostCall.event? key state (.reset other, .done (host.reset other world).1))
      ((host.reset other world).2.1.stateOf? key) := by
  unfold reset onSession
  split
  · exact hstate
  · rename_i session hfind
    rcases session.reset_cases world with ⟨_, _, _, -, heq⟩ | ⟨_, _, -, heq⟩
    · simp only [heq]
      refine replace_advances hstate hfind ?_ (fun _ hsession => ?_) fun _ => rfl
      · rfl
      · exact congrArg some hsession
    · simp only [heq]
      refine replace_advances hstate hfind ?_ (fun hsame hsession => ?_) fun hother => if_neg hother
      · rfl
      · have hreset : (session.state.after .controllerReset) = .queuesNeedReinit := by
          rcases live_or_reset hsettled hstate with h | h <;> rw [hsession, h] <;> rfl
        simp only [HostCall.event?, if_pos hsame]
        refine ⟨.queuesNeedReinit, ?_, congrArg some hreset⟩
        rcases live_or_reset hsettled hstate with rfl | rfl <;> rfl

omit [Clock W] in
lemma reestablish_advances (other : SessionKey) (world : W) :
    state.Advances (HostCall.event? key state (.reestablish other, .done (host.reestablish other world).1))
      ((host.reestablish other world).2.1.stateOf? key) := by
  unfold reestablish onSession
  split
  · exact hstate
  · rename_i session hfind
    have hsession := hsettled session (List.mem_of_find?_eq_some hfind)
    rcases hsession.reestablish_cases host.config.ioQueueDepth world with
      ⟨hlive, heq⟩ | ⟨hreset, -, ⟨_, _, _, -, heq⟩ | ⟨_, _, _, -, heq⟩⟩
    · simp only [heq]
      refine replace_advances hstate hfind ?_ (fun hsame hsession => ?_) fun hother => if_neg fun h => hother h.1
      · rfl
      · have hnone : ¬ (other = key ∧ state ≠ .live) := fun h => h.2 (hsession.symm.trans hlive)
        simp only [HostCall.event?, if_neg hnone]
        exact congrArg some hsession
    · simp only [heq]
      refine replace_advances hstate hfind ?_ (fun _ hsession => ?_) fun _ => rfl
      · rfl
      · exact congrArg some hsession
    · simp only [heq]
      refine replace_advances hstate hfind ?_ (fun hsame hsession => ?_) fun hother => if_neg fun h => hother h.1
      · rfl
      · rw [hreset] at hsession
        subst hsession
        simp only [HostCall.event?, if_pos (show other = key ∧ Lifecycle.queuesNeedReinit ≠ .live from ⟨hsame, by decide⟩)]
        exact ⟨.live, rfl, congrArg (fun state => some (Lifecycle.after state .queuesReestablished)) hreset⟩

include hnodup

omit [Clock W] in
lemma disconnect_advances (other : SessionKey) (world : W) :
    state.Advances (HostCall.event? key state (.disconnect other, .done (host.disconnect other world).1))
      ((host.disconnect other world).2.1.stateOf? key) := by
  rcases host.disconnect_cases hnodup other world with ⟨-, heq⟩ | ⟨before, session, behind, hsplit, hkey, hothers, heq⟩
  · rw [heq]
    exact hstate
  · rw [heq]
    have hregistry : host.registry = ⟨host.registry.limit, before ++ session :: behind⟩ := by rw [← hsplit]
    have hbefore : ∀ other ∈ before, other.key ≠ session.key := fun other hother =>
      hkey ▸ hothers other (List.mem_append_left _ hother)
    have hlookup : host.registry.find? key = if session.key = key then some session else
        (⟨host.registry.limit, before ++ behind⟩ : Registry C Q).find? key := by
      rw [hregistry]
      exact Registry.find?_middle hbefore _ key
    rw [hkey] at hlookup
    by_cases hsame : other = key
    · have hgone : ({ host with registry := ⟨host.registry.limit, before ++ behind⟩ } : Host C Q).stateOf? key = none := by
        refine Option.map_eq_none_iff.mpr (List.find?_eq_none.mpr fun other' hmem => ?_)
        simpa using hsame ▸ hothers other' hmem
      simp only [HostCall.event?, if_pos hsame, hgone]
      exact advances_end hsettled hstate
    · rw [if_neg hsame] at hlookup
      simp only [HostCall.event?, if_neg hsame]
      rw [stateOf?, hlookup] at hstate
      exact hstate

/-- A registered session processes an event that is possible for it, or none. -/
lemma perform_advances (call : HostCall) (world : W) :
    state.Advances (HostCall.event? key state (call, (host.perform call world).1))
      ((host.perform call world).2.1.stateOf? key) := by
  have hconnect : ∀ call : HostCall, call.connects →
      (host.perform call world).2.1.stateOf? key = some state := by
    intro call hconnects
    rcases host.perform_membership hconnects world with ⟨_, _, heq, -⟩ | ⟨session, _, -, -, -, heq⟩
    · rw [heq]
      exact hstate
    · rw [heq]
      obtain ⟨found, hfind, hfound⟩ := Option.map_eq_some_iff.mp hstate
      refine Option.map_eq_some_iff.mpr ⟨found, ?_, hfound⟩
      rw [Registry.find?_append]
      exact Option.or_eq_some_iff.mpr (.inl hfind)
  cases call with
  | connect | connectAttempt => exact hconnect _ rfl
  | disconnect other => exact disconnect_advances hnodup hsettled hstate other world
  | disconnectAll => exact advances_end hsettled hstate
  | reset other => exact reset_advances hsettled hstate other world
  | reestablish other => exact reestablish_advances hsettled hstate other world
  | _ => exact ((perform_steps hnodup rfl world).stateOf? key).trans hstate

end

/-- A connect that succeeds brings a session of a new key, which is live after its handshake. -/
lemma perform_connected {call : HostCall} {world : W}
    (h : HostCall.connected? (call, (host.perform call world).1) = some key) :
    host.stateOf? key = none ∧
      (host.perform call world).2.1.stateOf? key = Lifecycle.connecting.next? .handshakeComplete := by
  by_cases hconnects : call.connects = true
  · rcases host.perform_membership hconnects world with ⟨_, _, heq, -⟩ | ⟨session, _, -, hnew, hopened, heq⟩
    · rw [heq] at h
      cases h
    · rw [heq] at h ⊢
      simp only [HostCall.connected?, hconnects, if_true, Option.some.injEq] at h
      subst h
      refine ⟨stateOf?_eq_none_iff.mpr hnew, ?_⟩
      obtain ⟨plan, association, io, timer, hsession⟩ := hopened
      have hstate : session.state = .live := by
        rw [hsession]
        rfl
      rw [stateOf?, Registry.find?_append, Registry.find?_eq_none_iff.mpr hnew, if_pos rfl]
      exact congrArg some hstate
  · rw [HostCall.connected?_of_not_connects hconnects] at h
    cases h

/-- A key is registered only by a connect. -/
lemma perform_unconnected {config : Config} {log : List (HostCall × HostAnswer)} (h : Sound config log host)
    (hnone : host.stateOf? key = none) {call : HostCall} {world : W}
    (hother : HostCall.connected? (call, (host.perform call world).1) ≠ some key) :
    (host.perform call world).2.1.stateOf? key = none := by
  rw [stateOf?_eq_none_iff] at hnone ⊢
  rw [h.enrolled.keys] at hnone
  rw [(h.enrolled.perform call world).keys, HostCall.survivors_append, List.mem_append, not_or]
  refine ⟨fun hkey => hnone (List.mem_filter.mp hkey).1, fun hkey => hother ?_⟩
  simpa using hkey

end Host

end FabricHost
