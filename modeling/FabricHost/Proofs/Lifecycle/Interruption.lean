import FabricHost.Proofs.Lifecycle.Events
import FabricHost.Proofs.Session.Errors

/-!
# Interrupted sessions

A reset interrupts the traffic of a session until the session is re-established. Whether a session is interrupted can be
read off the answers, and exactly then reads, writes and polls are told that it is closed, as they are for a key of no
session.
-/

namespace FabricHost

namespace HostCall

/-- Whether the session of a key has an I/O queue from then on: it got a new one, or it is a new session. -/
def revives (key : SessionKey) : HostCall × HostAnswer → Bool
  | (reestablish other, .done (.ok ())) => other = key
  | entry => connected? entry = some key

/-- The session of a key was reset, and not re-established since its last reset. -/
def Interrupted (key : SessionKey) (log : List (HostCall × HostAnswer)) : Prop :=
  ∃ earlier later, log = earlier ++ (reset key, .done (.ok ())) :: later ∧ ∀ entry ∈ later, revives key entry = false

variable {key : SessionKey} {log : List (HostCall × HostAnswer)} {entry : HostCall × HostAnswer}

lemma interrupted_append : Interrupted key (log ++ [entry]) ↔
    entry = (reset key, .done (.ok ())) ∨ Interrupted key log ∧ revives key entry = false := by
  constructor
  · rintro ⟨earlier, later, heq, hlater⟩
    rcases List.eq_nil_or_concat later with rfl | ⟨later, last, rfl⟩
    · exact .inl (List.append_inj_right' heq rfl |> List.cons.inj |>.1)
    · rw [List.concat_eq_append, ← List.cons_append, ← List.append_assoc] at heq
      obtain ⟨hlog, hentry⟩ := List.append_inj' heq rfl
      obtain rfl := (List.cons.inj hentry).1
      refine .inr ⟨⟨earlier, later, hlog, fun other hother => hlater other (by simp [hother])⟩, hlater _ (by simp)⟩
  · rintro (rfl | ⟨⟨earlier, later, rfl, hlater⟩, hentry⟩)
    · exact ⟨log, [], rfl, fun _ hmem => (List.not_mem_nil hmem).elim⟩
    · refine ⟨earlier, later ++ [entry], by rw [List.append_assoc, List.cons_append], fun other hother => ?_⟩
      rcases List.mem_append.mp hother with hother | hother
      · exact hlater other hother
      · rw [List.mem_singleton.mp hother]
        exact hentry

lemma revives_of_connected (h : connected? entry = some key) : revives key entry = true := by
  unfold revives
  split
  · cases h
  · exact decide_eq_true h

/-- Reviving without an event is re-establishing a live session, if it is not connecting. -/
lemma live_of_revives {state : Lifecycle} (hrevives : revives key entry = true) (hconnected : connected? entry ≠ some key)
    (hevent : event? key state entry = none) : state = .live := by
  unfold revives at hrevives
  split at hrevives
  · by_contra hstate
    rw [event?, if_pos ⟨of_decide_eq_true hrevives, hstate⟩] at hevent
    cases hevent
  · exact (hconnected (of_decide_eq_true hrevives)).elim

lemma event?_eq_some {state : Lifecycle} {event : LifecycleEvent} (h : event? key state entry = some event) :
    entry = (reset key, .done (.ok ())) ∧ event = .controllerReset ∨
      entry = (reestablish key, .done (.ok ())) ∧ event = .queuesReestablished ∨ event = .disconnect := by
  unfold event? at h
  split at h
  · split at h
    · rename_i heq
      exact .inl ⟨by rw [heq], (Option.some.inj h).symm⟩
    · cases h
  · split at h
    · rename_i heq
      exact .inr (.inl ⟨by rw [heq.1], (Option.some.inj h).symm⟩)
    · cases h
  · split at h
    · exact .inr (.inr (Option.some.inj h).symm)
    · cases h
  · exact .inr (.inr (Option.some.inj h).symm)
  · cases h

/-- The session that the call wants to read, write or poll on. -/
def ioKey? : HostCall → Option SessionKey
  | read key .. => some key
  | write key .. => some key
  | submitRead key .. => some key
  | submitWrite key .. => some key
  | poll handle => some handle.session
  | _ => none

end HostCall

open HostCall

namespace Host

variable {W C Q : Type} [Fabric W C Q] [Clock W] {host : Host C Q} {config : Config}
  {log : List (HostCall × HostAnswer)} {key : SessionKey}

/-- The sessions without an I/O queue are those that are interrupted. -/
def Tallied (log : List (HostCall × HostAnswer)) (host : Host C Q) : Prop :=
  ∀ key state, host.stateOf? key = some state → (state = .queuesNeedReinit ↔ Interrupted key log)

lemma Tallied.perform (h : Tallied log host) (hsound : Sound config log host) (call : HostCall) (world : W) :
    Tallied (log ++ [(call, (host.perform call world).1)]) (host.perform call world).2.1 := by
  intro key after hafter
  rw [interrupted_append]
  cases hbefore : host.stateOf? key with
  | none =>
    by_cases hconnected : connected? (call, (host.perform call world).1) = some key
    · have hlive := (perform_connected hconnected).2
      rw [hafter] at hlive
      cases hlive
      rw [revives_of_connected hconnected]
      refine iff_of_false (by decide) (not_or.mpr ⟨fun hreset => ?_, fun h => Bool.noConfusion h.2⟩)
      rw [hreset] at hconnected
      cases hconnected
    · rw [perform_unconnected hsound hbefore hconnected] at hafter
      cases hafter
  | some state =>
    have hadvances := perform_advances hsound.enrolled.nodup hsound.settled hbefore call world
    have hconnected : connected? (call, (host.perform call world).1) ≠ some key := by
      intro hconnected
      rw [(perform_connected hconnected).1] at hbefore
      cases hbefore
    rw [hafter] at hadvances
    generalize (call, (host.perform call world).1) = entry at hadvances hconnected ⊢
    cases hevent : event? key state entry with
    | none =>
      rw [hevent] at hadvances
      cases hadvances
      have hreset : entry ≠ (.reset key, .done (.ok ())) := by
        rintro rfl
        simp [event?] at hevent
      cases hrevives : revives key entry with
      | false => simp [hreset, h key after hbefore]
      | true =>
        have hlive := live_of_revives hrevives hconnected hevent
        simp [hreset, hlive]
    | some event =>
      rw [hevent] at hadvances
      obtain ⟨reached, hnext, hreached⟩ := hadvances
      rcases event?_eq_some hevent with ⟨rfl, rfl⟩ | ⟨rfl, rfl⟩ | rfl
      · have hreset : reached = .queuesNeedReinit := by cases state <;> cases hnext <;> rfl
        subst hreset
        cases hreached
        exact iff_of_true rfl (.inl rfl)
      · have hlive : reached = .live := by
          cases state <;> cases hnext
          rfl
        subst hlive
        cases hreached
        simp [revives]
      · have hclosed : reached = .closed := by cases state <;> cases hnext <;> rfl
        rw [if_pos hclosed] at hreached
        cases hreached

lemma tallied_run (config : Config) (world : W) (calls : List (HostCall × (W → W))) :
    Tallied ((Host.ofConfig config : Host C Q).run world calls).1
      ((Host.ofConfig config : Host C Q).run world calls).2.1 := by
  refine (run_induction (fun log host _ => Sound config log host ∧ Tallied log host) ?_ calls (fun _ _ _ _ _ h => h)
    ⟨Sound.start config, fun _ _ hstate => by cases hstate⟩).2
  exact fun _ _ world call ⟨hsound, h⟩ => ⟨hsound.perform call world, h.perform hsound call world⟩

section

variable (hsettled : ∀ session ∈ host.registry.sessions, session.Settled)
include hsettled

omit [Fabric W C Q] [Clock W] in
lemma onLive_closed_iff {α : Type} (key : SessionKey)
    {action : RequestId → Session C Q → W → Except HostError α × RequestId × Session C Q × W}
    (haction : ∀ last session world, session.io.isSome → (action last session world).1 ≠ .error .sessionClosed)
    (world : W) : (host.onLive key action world).1 = .error .sessionClosed ↔
      ∀ state, host.stateOf? key = some state → state = .queuesNeedReinit := by
  unfold onLive stateOf?
  cases hfind : host.registry.find? key with
  | none => simp
  | some session =>
    rcases hsettled session (List.mem_of_find?_eq_some hfind) with ⟨hstate, hio⟩ | ⟨hstate, -⟩
    · have hne := haction host.lastRequest session world hio
      simp [hstate, Lifecycle.acceptsIo, hne]
    · simp [hstate, Lifecycle.acceptsIo]

omit [Fabric W C Q] [Clock W] in
lemma answer_closed_iff {α : Type} (answer : Except HostError α → HostAnswer)
    (hfailed : ∀ error, (answer (.error error)).error? = some error) (hdone : ∀ value, (answer (.ok value)).error? = none)
    (key : SessionKey) (action : RequestId → Session C Q → W → Except HostError α × RequestId × Session C Q × W)
    (haction : ∀ last session world, session.io.isSome → (action last session world).1 ≠ .error .sessionClosed)
    (world : W) : (answer (host.onLive key action world).1).error? = some .sessionClosed ↔
      ∀ state, host.stateOf? key = some state → state = .queuesNeedReinit := by
  rw [← onLive_closed_iff hsettled key haction world]
  exact HostAnswer.error?_eq_some_iff answer hfailed hdone

lemma permitted_closed_iff {α : Type} (answer : Except HostError α → HostAnswer)
    (hfailed : ∀ error, (answer (.error error)).error? = some error) (hdone : ∀ value, (answer (.ok value)).error? = none)
    (key : SessionKey) (range : BlockRange) (available : Nat)
    {action : RequestId → Session C Q → W → Except HostError α × Session C Q × W}
    (haction : ∀ request session world, session.io.isSome → (action request session world).1 ≠ .error .sessionClosed)
    (world : W) :
    (answer (host.onLive key (fun last session => session.permitted host.config last range available action) world).1).error? =
        some .sessionClosed ↔ ∀ state, host.stateOf? key = some state → state = .queuesNeedReinit :=
  answer_closed_iff hsettled answer hfailed hdone key _
    (fun _ _ _ => Session.permitted_ne_closed _ _ _ _ haction) world

/-- A key is told to be closed if it is of no session, or of one without an I/O queue. -/
lemma perform_closed_iff {call : HostCall} (hkey : call.ioKey? = some key) (world : W) :
    (host.perform call world).1.error? = some .sessionClosed ↔
      ∀ state, host.stateOf? key = some state → state = .queuesNeedReinit := by
  cases call with
  | read key range buffer =>
    cases hkey
    simp only [perform]
    rw [read_eq_permitted]
    refine permitted_closed_iff hsettled .data (fun _ => rfl) (fun _ => rfl) key range buffer.length ?_ _
    intro request session world hio
    exact Session.readPermitted_ne_error rfl buffer (Session.executeIo_ne_closed hio _ _ _ _)
  | write key range data =>
    cases hkey
    simp only [perform]
    rw [write_eq_permitted]
    refine permitted_closed_iff hsettled .done (fun _ => rfl) (fun _ => rfl) key range data.length ?_ _
    intro request session world hio
    exact map_ne_error (Session.executeIo_ne_closed hio _ _ _ _)
  | submitRead key range =>
    cases hkey
    simp only [perform]
    rw [submitRead_eq_permitted]
    exact permitted_closed_iff hsettled (fun result => .submitted (result.map _)) (fun _ => rfl) (fun _ => rfl) key range _
      (fun _ _ _ hio => map_ne_error (Session.submitIo_ne_closed hio _ _)) world
  | submitWrite key range data =>
    cases hkey
    simp only [perform]
    rw [submitWrite_eq_permitted]
    exact permitted_closed_iff hsettled (fun result => .submitted (result.map _)) (fun _ => rfl) (fun _ => rfl) key range _
      (fun _ _ _ hio => map_ne_error (Session.submitIo_ne_closed hio _ _)) world
  | poll handle =>
    cases hkey
    have hpoll := answer_closed_iff hsettled (fun result => .polled (result.map (Option.map (resultOf handle))))
      (fun _ => rfl) (fun _ => rfl) handle.session
      (fun last session world => ((session.pollIo handle.request world).1, last, (session.pollIo handle.request world).2))
      (fun _ _ _ _ => Session.pollIo_ne_error rfl handle.request) world
    exact hpoll
  | _ => cases hkey

end

/-- Exactly the keys of no session and those that are interrupted are told to be closed. -/
lemma Tallied.closed_iff (h : Tallied log host) (hsound : Sound config log host) {call : HostCall}
    (hkey : call.ioKey? = some key) (world : W) :
    (host.perform call world).1.error? = some .sessionClosed ↔ key ∉ host.registry.keys ∨ Interrupted key log := by
  rw [perform_closed_iff hsound.settled hkey world, ← stateOf?_eq_none_iff]
  cases hstate : host.stateOf? key with
  | none => simp
  | some state => simp [h key state hstate]

end Host

end FabricHost
