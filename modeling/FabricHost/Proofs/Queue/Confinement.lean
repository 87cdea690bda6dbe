import FabricHost.Proofs.Queue.Polling

/-!
# Channels of one caller

A tracker knows of no requests but those of its callers, and holds completions back only for commands that are waited for.
So when a synchronous call is over on a channel that nobody else uses, the tracker is at rest: all that may be left are
the ids of commands whose completions are dropped.
-/

namespace FabricHost

namespace Tracker

/-- Nobody waits for anything and nothing can be taken. -/
structure AtRest (tracker : Tracker) : Prop where
  inflight : tracker.inflight = []
  arrived : tracker.arrived = ∅
  ready : tracker.ready = ∅

/-- Only requests of some callers are tracked, and what is held back are completions of commands that are waited for. -/
structure Confined (mine : RequestId → Prop) (tracker : Tracker) : Prop where
  inflight : ∀ entry ∈ tracker.inflight, mine entry.request
  arrived : ∀ id ∈ tracker.arrived, ∃ entry ∈ tracker.inflight, entry.id = id
  ready : ∀ request ∈ tracker.ready, mine request

variable {tracker : Tracker} {mine : RequestId → Prop}

lemma AtRest.confined (h : tracker.AtRest) (mine : RequestId → Prop) : tracker.Confined mine where
  inflight entry hmem := by simp [h.inflight] at hmem
  arrived id hmem := by simp [h.arrived] at hmem
  ready request hmem := by simp [h.ready] at hmem

/-- When the callers' requests are tracked no more, the tracker is at rest. -/
lemma Confined.atRest (h : tracker.Confined mine) (hnone : ∀ request, mine request → tracker.places request = 0) :
    tracker.AtRest := by
  have hinflight : tracker.inflight = [] := by
    refine List.eq_nil_iff_forall_not_mem.mpr fun entry hmem => ?_
    have hplaces := (Nat.add_eq_zero_iff.mp (hnone entry.request (h.inflight entry hmem))).1
    simpa using List.countP_eq_zero.mp hplaces entry hmem
  refine ⟨hinflight, Std.ExtTreeMap.eq_empty_iff_forall_not_mem.mpr fun id hmem => ?_,
    Std.ExtTreeMap.eq_empty_iff_forall_not_mem.mpr fun request hmem => ?_⟩
  · obtain ⟨entry, hentry, -⟩ := h.arrived id hmem
    rw [hinflight] at hentry
    exact List.not_mem_nil hentry
  · have hplaces := (Nat.add_eq_zero_iff.mp (hnone request (h.ready request hmem))).2
    rw [if_pos hmem] at hplaces
    cases hplaces

lemma Confined.arrive (h : tracker.Confined mine) (completion : Completion) : (tracker.arrive completion).Confined mine := by
  unfold Tracker.arrive
  split
  · exact ⟨h.inflight, h.arrived, h.ready⟩
  · split
    · rename_i hwaited
      refine ⟨h.inflight, fun id hmem => ?_, h.ready⟩
      rcases Std.ExtTreeMap.mem_insert.mp hmem with heq | hmem
      · obtain ⟨entry, hentry, hid⟩ := List.any_eq_true.mp hwaited
        rw [Std.compare_eq_iff_eq] at heq
        exact ⟨entry, hentry, (by simpa using hid : entry.id = completion.id).trans heq⟩
      · exact h.arrived id hmem
    · exact h

lemma Confined.releaseFront {inflight : List Inflight} {arrived : Std.ExtTreeMap CommandId Completion}
    {ready : Std.ExtTreeMap RequestId Completion} {discard : Std.ExtTreeSet CommandId}
    (h : Confined mine ⟨inflight, arrived, ready, discard⟩) :
    Confined mine ⟨(releaseFront inflight arrived ready).1, (releaseFront inflight arrived ready).2.1,
      (releaseFront inflight arrived ready).2.2, discard⟩ := by
  induction inflight generalizing arrived ready with
  | nil => exact h
  | cons front rest ih =>
    rw [Tracker.releaseFront]
    split
    · exact h
    · refine ih ⟨fun entry hmem => h.inflight entry (List.mem_cons_of_mem _ hmem), fun id hmem => ?_, fun request hmem => ?_⟩
      · obtain ⟨hne, hmem⟩ := Std.ExtTreeMap.mem_erase.mp hmem
        obtain ⟨entry, hentry, rfl⟩ := h.arrived id hmem
        rcases List.mem_cons.mp hentry with rfl | hentry
        · exact (hne (Std.compare_eq_iff_eq.mpr rfl)).elim
        · exact ⟨entry, hentry, rfl⟩
      · rcases Std.ExtTreeMap.mem_insert.mp hmem with heq | hmem
        · exact Std.compare_eq_iff_eq.mp heq ▸ h.inflight front List.mem_cons_self
        · exact h.ready request hmem

lemma Confined.absorb (h : tracker.Confined mine) (completions : List Completion) :
    (tracker.absorb completions).Confined mine := by
  have harrived : (completions.foldl Tracker.arrive tracker).Confined mine := by
    induction completions generalizing tracker with
    | nil => exact h
    | cons completion rest ih => exact ih (h.arrive completion)
  exact harrived.releaseFront

lemma Confined.abandon (h : tracker.Confined mine) (request : RequestId) : (tracker.abandon request).2.Confined mine := by
  unfold Tracker.abandon
  split
  · exact ⟨h.inflight, h.arrived, fun other hmem => h.ready other (Std.ExtTreeMap.mem_erase.mp hmem).2⟩
  · split
    · exact h
    · rename_i entry hfind
      obtain ⟨hentry, before, behind, hsplit, hbefore⟩ := List.find?_eq_some_iff_append.mp hfind
      have herase : tracker.inflight.eraseP (·.request == request) = before ++ behind := by
        rw [hsplit, List.eraseP_append_right _ fun other hmem => by simpa using hbefore other hmem,
          List.eraseP_cons_of_pos (by exact hentry)]
      have hinflight : ∀ other ∈ before ++ behind, mine other.request := by
        refine fun other hmem => h.inflight other ?_
        rw [hsplit]
        exact (List.sublist_cons_self entry behind).append_left before |>.subset hmem
      -- a completion is held back for each id at most, so those of other commands keep their command
      have harrived : ∀ id ∈ tracker.arrived, id ≠ entry.id → ∃ other ∈ before ++ behind, other.id = id := by
        intro id hmem hne
        obtain ⟨other, hother, rfl⟩ := h.arrived id hmem
        rw [hsplit] at hother
        have hother : other ∈ before ∨ other = entry ∨ other ∈ behind := by simpa using hother
        refine ⟨other, List.mem_append.mpr (hother.imp_right fun hother => hother.resolve_left ?_), rfl⟩
        exact fun heq => hne (congrArg Inflight.id heq)
      rw [herase]
      simp only
      split
      · refine ⟨hinflight, fun id hmem => ?_, h.ready⟩
        obtain ⟨hne, hmem⟩ := Std.ExtTreeMap.mem_erase.mp hmem
        exact harrived id hmem fun heq => hne (Std.compare_eq_iff_eq.mpr heq.symm)
      · rename_i habsent
        refine ⟨hinflight, fun id hmem => harrived id hmem ?_, h.ready⟩
        rintro rfl
        exact habsent (Std.ExtTreeMap.contains_iff_mem.mpr hmem)

end Tracker

namespace Channel

variable {W Q : Type} [QueuePairs W Q] [Clock W] {own : RequestId → Prop} {sends : Command → Prop}
  {before after : Channel Q × W}

lemma Step.confined (h : Step own sends before after) (hconfined : before.1.tracker.Confined own) :
    after.1.tracker.Confined own := by
  cases h with
  | now => exact hconfined
  | submit channel world hown =>
    unfold Channel.submit
    split
    · exact hconfined
    · refine ⟨fun entry hmem => ?_, fun id hmem => ?_, hconfined.ready⟩
      · rcases List.mem_append.mp hmem with hmem | hmem
        · exact hconfined.inflight entry hmem
        · rw [List.mem_singleton.mp hmem]
          exact hown
      · obtain ⟨entry, hentry, hid⟩ := hconfined.arrived id hmem
        exact ⟨entry, List.mem_append_left _ hentry, hid⟩
  | submitDetached channel world =>
    unfold Channel.submitDetached
    split
    · exact hconfined
    · exact ⟨hconfined.inflight, hconfined.arrived, hconfined.ready⟩
  | reap channel world =>
    unfold Channel.reap
    split
    · exact hconfined
    · exact hconfined.absorb _
  | take channel world =>
    exact ⟨hconfined.inflight, hconfined.arrived, fun other hmem =>
      hconfined.ready other (Std.ExtTreeMap.mem_erase.mp hmem).2⟩
  | abandon channel world => exact hconfined.abandon _

lemma Steps.confined (h : Steps own sends before after) (hconfined : before.1.tracker.Confined own) :
    after.1.tracker.Confined own := by
  induction h with
  | refl => exact hconfined
  | tail _ hstep ih => exact hstep.confined ih

/-- Steps for nobody leave a tracker at rest. -/
lemma Steps.atRest (h : Steps (fun _ => False) sends before after) (hrest : before.1.tracker.AtRest) :
    after.1.tracker.AtRest :=
  (h.confined (hrest.confined _)).atRest fun _ hnobody => hnobody.elim

variable (deadline : Tick) {request : RequestId} (command : Command)

/-- A command is submitted and its request is tracked, or it is not. -/
lemma submitBy_places (budget : Nat) (channel : Channel Q) (world : W) (hzero : channel.tracker.places request = 0) :
    let result := submitBy deadline request command budget channel world
    (∃ error, result.1 = .error error) ∧ result.2.1.tracker.places request = 0 ∨
      result.1 = .ok () ∧ result.2.1.tracker.places request = 1 := by
  induction budget generalizing channel world with
  | zero => exact .inl ⟨⟨_, rfl⟩, hzero⟩
  | succ budget ih =>
    rcases retries_or_stops deadline request command (channel, world) with ⟨after, hretries⟩ | ⟨result, hstops⟩
    · have hagain := ih after.1 after.2 (hretries.places hzero)
      rwa [← hretries.submitBy_eq] at hagain
    · have heq : submitBy deadline request command (budget + 1) channel world = result := hstops.submitBy_eq
      rw [heq]
      exact hstops.places hzero

/-- A wait that ends leaves its request in no place: it was taken, or it was given up. -/
lemma Answers.places_eq_zero {deadline : Tick} {result : Except HostError Completion × Channel Q × W}
    (h : Answers deadline request before result) (hone : before.1.tracker.places request = 1) :
    result.2.1.tracker.places request = 0 := by
  cases hanswer : result.1 with
  | error error => exact h.places hone hanswer
  | ok completion =>
    cases h with
    | lost => cases hanswer
    | @taken _ reaped _ _ _ h htake =>
      have hreaped := reap_places before.1 before.2 (Nat.le_of_eq hone)
      rw [h, hone] at hreaped
      obtain ⟨hsome, rfl⟩ := Prod.mk.inj htake
      have htaken : (reaped.tracker.take request).2.places request = _ := Tracker.places_take_self hreaped
      rwa [show (reaped.tracker.take request).1 = _ from hsome] at htaken
    | late => cases hanswer

/-- However the wait for a request ends, the request is tracked no more. -/
lemma awaitBy_places (budget : Nat) (channel : Channel Q) (world : W) (hone : channel.tracker.places request = 1) :
    (awaitBy deadline request budget channel world).2.1.tracker.places request = 0 := by
  induction budget generalizing channel world with
  | zero => exact (Tracker.places_abandon_self hone).2
  | succ budget ih =>
    rcases waits_or_answers deadline request (channel, world) with ⟨after, hwaits⟩ | ⟨result, hanswers⟩
    · have hagain := ih after.1 after.2 (hwaits.places hone)
      rwa [← hwaits.awaitBy_eq] at hagain
    · have heq : awaitBy deadline request (budget + 1) channel world = result := hanswers.awaitBy_eq
      rw [heq]
      exact hanswers.places_eq_zero hone

/-- A synchronous call leaves nothing of its request behind. -/
lemma execute_places (budget : Nat) (channel : Channel Q) (world : W) (hzero : channel.tracker.places request = 0) :
    (channel.execute budget deadline request command world).2.1.tracker.places request = 0 := by
  have hsubmit := submitBy_places deadline command budget channel world hzero
  unfold execute
  split
  all_goals
    rename_i heq
    rw [heq] at hsubmit
  · exact (hsubmit.resolve_right fun ⟨hok, _⟩ => by cases hok).2
  · exact awaitBy_places deadline budget _ _ (hsubmit.resolve_left fun ⟨⟨_, herror⟩, _⟩ => by cases herror).2

/-- A synchronous call on a channel at rest leaves it at rest. -/
lemma execute_atRest (budget : Nat) (channel : Channel Q) (request : RequestId) (world : W)
    (hrest : channel.tracker.AtRest) :
    (channel.execute budget deadline request command world).2.1.tracker.AtRest := by
  have hsteps : Steps (Eq request) (fun _ => True) (channel, world)
      (channel.execute budget deadline request command world).2 := channel.execute_steps world rfl trivial budget deadline
  refine (hsteps.confined (hrest.confined _)).atRest ?_
  rintro _ rfl
  refine execute_places deadline command budget channel world ?_
  rw [Tracker.places, hrest.inflight, hrest.ready]
  simp

end Channel

end FabricHost
