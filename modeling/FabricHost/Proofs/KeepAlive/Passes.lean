import FabricHost.Proofs.KeepAlive.Quiet

/-!
# Keep-alive passes

A pass hands one keep-alive to the admin queue pair of each session whose deadline has come, and none to any other. If it
is accepted, the next deadline counts from the tick of the pass; if not, the deadline stays.
-/

namespace FabricHost

namespace Sight

lemma keepAlives_append (queue : Nat) (first second : List Sight) :
    keepAlives queue (first ++ second) = keepAlives queue first ++ keepAlives queue second := List.filterMap_append

lemma keepAlives_eq_nil {queue : Nat} {sights : List Sight} (h : ∀ accepted, .handed queue .keepAlive accepted ∉ sights) :
    keepAlives queue sights = [] := by
  refine List.filterMap_eq_nil_iff.mpr fun sight hmem => ?_
  unfold keepAlive?
  split
  · rename_i other accepted
    refine if_neg fun heq => h accepted ?_
    rwa [← heq]
  · rfl

lemma keepAlives_handed (queue : Nat) (answers : List Bool) :
    keepAlives queue (answers.map (.handed queue .keepAlive)) = answers := by
  have hsome : keepAlive? queue ∘ Sight.handed queue .keepAlive = some := by
    funext accepted
    exact if_pos rfl
  rw [keepAlives, List.filterMap_map, hsome, List.filterMap_some]

end Sight

/-- What a pass at a tick makes of a timer, and the answers to the keep-alives that it hands out. -/
inductive KeepAliveTimer.Passed (now : Tick) (timer : KeepAliveTimer) : List Bool → KeepAliveTimer → Prop where
  | early (h : now < timer.deadline) : Passed now timer [] timer
  | sent (h : timer.deadline ≤ now) : Passed now timer [true] (timer.sent now)
  | refused (h : timer.deadline ≤ now) : Passed now timer [false] timer.skipped

variable {W C Q : Type} [Fabric W C Q] [Clock W]

namespace Channel

variable (channel : Channel (Numbered Q)) (seen : Seen W)

omit [Clock W] in
lemma submitDetached_seen (command : Command) :
    let result := channel.submitDetached command seen
    result.2.1.queue.number = channel.queue.number ∧ result.2.2.queues = seen.queues ∧
      result.2.2.sights = seen.sights ++ [.handed channel.queue.number command result.1.isOk] := by
  simp only [submitDetached, QueuePairs.submit]
  rcases QueuePairs.submit channel.queue.handle command seen.world with ⟨_ | _, handle, world⟩ <;> exact ⟨rfl, rfl, rfl⟩

end Channel

omit [Clock W] in
/-- The pass over one session. -/
lemma Session.keepAlivePass_passed (session : Session C (Numbered Q)) (hadmin : session.state.acceptsAdmin = true)
    (now : Tick) (seen : Seen W) :
    let result := session.keepAlivePass now seen
    result.2.1.admin.queue.number = session.admin.queue.number ∧ result.2.2.queues = seen.queues ∧
      ∃ answers, result.2.2.sights = seen.sights ++ answers.map (.handed session.admin.queue.number .keepAlive) ∧
        session.keepAlive.Passed now answers result.2.1.keepAlive := by
  have hreap := session.admin.reap_unseen seen
  unfold keepAlivePass
  rw [hadmin]
  rcases hreaped : session.admin.reap seen with ⟨answer, admin, reaped⟩
  rw [hreaped] at hreap
  obtain ⟨hnumber, hqueues, hsights⟩ := hreap
  by_cases hdue : session.keepAlive.deadline ≤ now
  · have hisDue : session.keepAlive.isDue now = true := decide_eq_true hdue
    have hsend := admin.submitDetached_seen reaped .keepAlive
    rcases hsent : admin.submitDetached .keepAlive reaped with ⟨error | _, sent, after⟩
    all_goals
      rw [hsent] at hsend
      obtain ⟨hnumber', hqueues', hsights'⟩ := hsend
      simp only [Bool.not_true, Bool.false_eq_true, if_false, hisDue, hsent]
      refine ⟨hnumber'.trans hnumber, hqueues'.trans hqueues, ?_⟩
      rw [hsights', hsights, hnumber]
    · exact ⟨[false], rfl, .refused hdue⟩
    · exact ⟨[true], rfl, .sent hdue⟩
  · have hnotDue : session.keepAlive.isDue now = false := decide_eq_false hdue
    simp only [Bool.not_true, Bool.false_eq_true, if_false, hnotDue, Bool.not_false, if_true]
    refine ⟨hnumber, hqueues, [], ?_, .early ?_⟩
    · rw [hsights, List.map_nil, List.append_nil]
    · exact UInt64.not_le.mp hdue

namespace Host

omit [Clock W] in
/-- The pass over sessions with admin queue pairs of their own. -/
lemma keepAlivePass_passed (now : Tick) (sessions : List (Session C (Numbered Q)))
    (hadmin : ∀ session ∈ sessions, session.state.acceptsAdmin = true)
    (hdistinct : (sessions.map (·.admin.queue.number)).Nodup) (report : KeepAliveReport) (seen : Seen W) :
    let result := keepAlivePass now sessions report seen
    result.2.2.queues = seen.queues ∧ ∃ new, result.2.2.sights = seen.sights ++ new ∧
      (∀ sight ∈ new, ∃ session ∈ sessions, ∃ accepted, sight = .handed session.admin.queue.number .keepAlive accepted) ∧
      List.Forall₂ (fun before after => after.admin.queue.number = before.admin.queue.number ∧
        before.keepAlive.Passed now (Sight.keepAlives before.admin.queue.number new) after.keepAlive)
        sessions result.2.1 := by
  induction sessions generalizing report seen with
  | nil => exact ⟨rfl, [], (List.append_nil _).symm, fun _ hmem => (List.not_mem_nil hmem).elim, .nil⟩
  | cons session rest ih =>
    obtain ⟨hnotMem, hrestDistinct⟩ := List.nodup_cons.mp hdistinct
    obtain ⟨hnumber, hqueues, answers, hsights, hpassed⟩ :=
      session.keepAlivePass_passed (hadmin session List.mem_cons_self) now seen
    obtain ⟨hrestQueues, new, hrestSights, hnew, hrest⟩ :=
      ih (fun other hother => hadmin other (List.mem_cons_of_mem _ hother)) hrestDistinct
        (report.add (session.keepAlivePass now seen).1) (session.keepAlivePass now seen).2.2
    -- the admin queue pair of the session is none of those of the rest
    have hother : ∀ other ∈ rest, other.admin.queue.number ≠ session.admin.queue.number := fun other hmem heq =>
      hnotMem (List.mem_map.mpr ⟨other, hmem, heq⟩)
    have hfirst : Sight.keepAlives session.admin.queue.number
        (answers.map (.handed session.admin.queue.number .keepAlive) ++ new) = answers := by
      have hnone : Sight.keepAlives session.admin.queue.number new = [] := by
        refine Sight.keepAlives_eq_nil fun accepted hmem => ?_
        obtain ⟨other, hmem', _, heq⟩ := hnew _ hmem
        exact hother other hmem' (Sight.handed.inj heq).1.symm
      rw [Sight.keepAlives_append, hnone, List.append_nil, Sight.keepAlives_handed]
    have hsecond : ∀ other ∈ rest, Sight.keepAlives other.admin.queue.number
        (answers.map (.handed session.admin.queue.number .keepAlive) ++ new) =
          Sight.keepAlives other.admin.queue.number new := by
      intro other hmem
      have hnone : Sight.keepAlives other.admin.queue.number
          (answers.map (.handed session.admin.queue.number .keepAlive)) = [] := by
        refine Sight.keepAlives_eq_nil fun accepted hmem' => ?_
        obtain ⟨_, _, heq⟩ := List.mem_map.mp hmem'
        exact hother other hmem (Sight.handed.inj heq).1.symm
      rw [Sight.keepAlives_append, hnone, List.nil_append]
    refine ⟨hrestQueues.trans hqueues, _, ?_, ?_, .cons ⟨hnumber, hfirst.symm ▸ hpassed⟩ ?_⟩
    · exact hrestSights.trans (by rw [hsights, List.append_assoc])
    · intro sight hmem
      rcases List.mem_append.mp hmem with hmem | hmem
      · obtain ⟨accepted, _, rfl⟩ := List.mem_map.mp hmem
        exact ⟨session, List.mem_cons_self, accepted, rfl⟩
      · obtain ⟨other, hmem', hsight⟩ := hnew sight hmem
        exact ⟨other, List.mem_cons_of_mem _ hmem', hsight⟩
    · refine ((List.forall₂_and_left _ _).mpr ⟨hsecond, hrest⟩).imp ?_
      rintro before after ⟨hsame, hnumber, hpassed⟩
      exact ⟨hnumber, hsame.symm ▸ hpassed⟩

/-- A call with a tick is a pass over all sessions. -/
lemma perform_passed {host : Host C (Numbered Q)}
    (hadmin : ∀ session ∈ host.registry.sessions, session.state.acceptsAdmin = true)
    (hdistinct : (host.registry.sessions.map (·.admin.queue.number)).Nodup) {call : HostCall} {seen : Seen W}
    (hbegin : seen.sights = []) {now : Tick} (htick : call.tick? seen = some now) :
    let result := host.perform call seen
    result.2.1.config = host.config ∧ result.2.2.queues = seen.queues ∧
      (∀ sight ∈ result.2.2.sights, sight = .time now ∨
        ∃ session ∈ host.registry.sessions, ∃ accepted, sight = .handed session.admin.queue.number .keepAlive accepted) ∧
      List.Forall₂ (fun before after => after.admin.queue.number = before.admin.queue.number ∧
        before.keepAlive.Passed now (Sight.keepAlives before.admin.queue.number result.2.2.sights) after.keepAlive)
        host.registry.sessions result.2.1.registry.sessions := by
  have hpass := fun (seen : Seen W) => keepAlivePass_passed now host.registry.sessions hadmin hdistinct {} seen
  cases call with
  | tick =>
    cases htick
    obtain ⟨hqueues, new, hsights, hnew, hpassed⟩ := hpass (Clock.now seen).2
    have hall : (host.perform .tick seen).2.2.sights = .time (Clock.now seen).1 :: new := by
      refine hsights.trans ?_
      change (seen.sights ++ [_]) ++ new = _
      rw [hbegin]
      rfl
    refine ⟨rfl, hqueues, ?_, ?_⟩
    · rw [hall]
      exact fun sight hmem => (List.mem_cons.mp hmem).imp_right (hnew sight)
    · simp only [hall]
      exact hpassed
  | tickAt =>
    cases htick
    obtain ⟨hqueues, new, hsights, hnew, hpassed⟩ := hpass seen
    have hall : (host.perform (.tickAt now) seen).2.2.sights = new := by
      refine hsights.trans ?_
      rw [hbegin]
      rfl
    refine ⟨rfl, hqueues, ?_, ?_⟩
    · rw [hall]
      exact fun sight hmem => .inr (hnew sight hmem)
    · simp only [hall]
      exact hpassed
  | _ => cases htick

end Host

end FabricHost
