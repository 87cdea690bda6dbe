import FabricHost.Proofs.Session.Lifecycle

/-!
# Places of requests

A tracker has a request in a number of places: each time it is in flight, and once more if its completion can be taken.
A request that is tracked in one place stays in one place until it is taken or abandoned, whatever is done for other
requests, and then it is in none.
-/

namespace FabricHost

namespace Tracker

/-- In how many places a request is tracked. -/
def places (tracker : Tracker) (request : RequestId) : Nat :=
  tracker.inflight.countP (·.request = request) + if request ∈ tracker.ready then 1 else 0

variable {tracker : Tracker} {request other : RequestId}

@[simp]
lemma places_empty (request : RequestId) : ({} : Tracker).places request = 0 := by simp [places]

lemma isTracked_iff_places : tracker.isTracked request = true ↔ 0 < tracker.places request := by
  have hinflight : tracker.inflight.any (·.request == request) = true ↔
      0 < tracker.inflight.countP (·.request = request) := by
    rw [List.any_eq_true, List.countP_pos_iff]
    simp
  unfold isTracked places
  rw [Bool.or_eq_true, hinflight, Std.ExtTreeMap.contains_iff_mem]
  split <;> rename_i hready <;> simp [hready]

lemma places_submitted (id : CommandId) :
    (tracker.submitted other id).places request = tracker.places request + if other = request then 1 else 0 := by
  simp only [places, submitted, List.countP_append, List.countP_singleton, decide_eq_true_eq]
  exact Nat.add_right_comm _ _ _

lemma places_take : (tracker.take other).2.places request =
    tracker.inflight.countP (·.request = request) + if request ∈ tracker.ready ∧ other ≠ request then 1 else 0 := by
  simp [places, take, Std.ExtTreeMap.mem_erase, and_comm]

/-- Taking concerns the request that is taken. -/
lemma places_take_of_ne (hne : other ≠ request) : (tracker.take other).2.places request = tracker.places request := by
  rw [places_take, places]
  simp [hne]

/-- A request is taken from its only place, or it could not be taken. -/
lemma places_take_self (hone : tracker.places request = 1) :
    (tracker.take request).2.places request = if (tracker.take request).1.isSome then 0 else 1 := by
  have htaken : (tracker.take request).1.isSome = true ↔ request ∈ tracker.ready :=
    Std.ExtTreeMap.mem_iff_isSome_getElem?.symm
  unfold places at hone
  rw [places_take]
  by_cases hready : request ∈ tracker.ready
  · rw [if_pos hready] at hone
    rw [if_neg (by simp), if_pos (htaken.mpr hready)]
    omega
  · rw [if_neg hready] at hone
    rw [if_neg (by simp [hready]), if_neg (by rwa [htaken])]
    exact hone

lemma countP_eraseP (inflight : List Inflight) (other request : RequestId) :
    (inflight.eraseP (·.request == other)).countP (·.request = request) =
      inflight.countP (·.request = request) - if other = request then 1 else 0 := by
  induction inflight with
  | nil => simp
  | cons entry rest ih =>
    by_cases hother : entry.request = other
    · rw [List.eraseP_cons_of_pos (by simpa using hother), List.countP_cons, hother]
      simp
    · rw [List.eraseP_cons_of_neg (by simpa using hother), List.countP_cons, List.countP_cons, ih]
      by_cases heq : other = request
      · have hne : entry.request ≠ request := fun hentry => hother (hentry.trans heq.symm)
        simp [heq, hne]
      · simp [heq]

/-- Abandoning concerns the request that is abandoned. -/
lemma places_abandon_of_ne (hne : other ≠ request) : (tracker.abandon other).2.places request = tracker.places request := by
  unfold abandon
  split
  · simp [places, Std.ExtTreeMap.mem_erase, hne]
  · split
    · rfl
    · simp only
      split <;> simp [places, countP_eraseP, hne]

/-- A request is abandoned from its only place. -/
lemma places_abandon_self (hone : tracker.places request = 1) :
    (tracker.abandon request).1 = true ∧ (tracker.abandon request).2.places request = 0 := by
  unfold places at hone
  unfold abandon
  split
  · rename_i hready
    rw [Std.ExtTreeMap.contains_iff_mem] at hready
    rw [if_pos hready] at hone
    refine ⟨rfl, ?_⟩
    simp only [places, Std.ExtTreeMap.mem_erase]
    simpa using hone
  · rename_i hready
    rw [Std.ExtTreeMap.contains_iff_mem] at hready
    rw [if_neg hready] at hone
    split
    · rename_i hnone
      rw [List.countP_eq_zero.mpr (by simpa using hnone)] at hone
      cases hone
    · have hlast : tracker.inflight.countP (·.request = request) - 1 = 0 := Nat.sub_eq_zero_of_le (Nat.le_of_eq hone)
      simp only
      split <;> simp [places, countP_eraseP, hready, hlast]

/-- Who is not tracked cannot be abandoned. -/
lemma abandon_of_places_eq_zero (hzero : tracker.places request = 0) : tracker.abandon request = (false, tracker) := by
  obtain ⟨hinflight, hready⟩ := Nat.add_eq_zero_iff.mp hzero
  have hnone : tracker.inflight.find? (·.request == request) = none := by
    rw [List.find?_eq_none]
    simpa using List.countP_eq_zero.mp hinflight
  have hnever : request ∉ tracker.ready := by simpa using hready
  unfold abandon
  rw [hnone, if_neg (by rwa [Std.ExtTreeMap.contains_iff_mem])]

lemma arrive_places (completion : Completion) : (tracker.arrive completion).places request = tracker.places request := by
  unfold arrive
  split
  · rfl
  · split <;> rfl

lemma foldl_arrive_places (tracker : Tracker) (completions : List Completion) :
    (completions.foldl arrive tracker).places request = tracker.places request := by
  induction completions generalizing tracker with
  | nil => rfl
  | cons completion rest ih => rw [List.foldl_cons, ih, arrive_places]

/-- Letting go of the front moves requests from one place to the other. -/
lemma releaseFront_places (inflight : List Inflight) (arrived : Std.ExtTreeMap CommandId Completion)
    (ready : Std.ExtTreeMap RequestId Completion) (discard : Std.ExtTreeSet CommandId)
    (hone : places ⟨inflight, arrived, ready, discard⟩ request ≤ 1) :
    places ⟨(releaseFront inflight arrived ready).1, (releaseFront inflight arrived ready).2.1,
        (releaseFront inflight arrived ready).2.2, discard⟩ request = places ⟨inflight, arrived, ready, discard⟩ request := by
  induction inflight generalizing arrived ready with
  | nil => rfl
  | cons front rest ih =>
    rw [releaseFront]
    split
    · rfl
    · rename_i completion _
      have hmove : places ⟨rest, arrived.erase front.id, ready.insert front.request completion, discard⟩ request =
          places ⟨front :: rest, arrived, ready, discard⟩ request := by
        simp only [places, List.countP_cons, Std.ExtTreeMap.mem_insert, Std.compare_eq_iff_eq, decide_eq_true_eq] at hone ⊢
        by_cases hfront : front.request = request
        · have hready : request ∉ ready := fun hready => by simp [hfront, hready] at hone
          simp [hfront, hready]
        · simp only [hfront, if_false, false_or]
          omega
      rw [← hmove]
      exact ih _ _ (hmove ▸ hone)

lemma absorb_places (completions : List Completion) (hone : tracker.places request ≤ 1) :
    (tracker.absorb completions).places request = tracker.places request := by
  rw [← foldl_arrive_places tracker completions] at hone ⊢
  exact releaseFront_places _ _ _ _ hone

lemma releaseFront_tracked (inflight : List Inflight) (arrived : Std.ExtTreeMap CommandId Completion)
    (ready : Std.ExtTreeMap RequestId Completion) (discard : Std.ExtTreeSet CommandId)
    (h : 0 < places ⟨inflight, arrived, ready, discard⟩ request) :
    0 < places ⟨(releaseFront inflight arrived ready).1, (releaseFront inflight arrived ready).2.1,
        (releaseFront inflight arrived ready).2.2, discard⟩ request := by
  induction inflight generalizing arrived ready with
  | nil => exact h
  | cons front rest ih =>
    rw [releaseFront]
    split
    · exact h
    · apply ih
      simp only [places, List.countP_cons, Std.ExtTreeMap.mem_insert, Std.compare_eq_iff_eq, decide_eq_true_eq] at h ⊢
      by_cases hfront : front.request = request
      · simp [hfront]
      · simpa only [hfront, if_false, false_or, Nat.add_zero] using h

/-- Nobody who is tracked is forgotten when completions come. -/
lemma absorb_tracked (completions : List Completion) (h : 0 < tracker.places request) :
    0 < (tracker.absorb completions).places request := by
  rw [← foldl_arrive_places tracker completions] at h
  exact releaseFront_tracked _ _ _ _ h

end Tracker

/-- Steps for other requests leave a request where it is. -/
lemma Channel.Step.places {W Q : Type} [QueuePairs W Q] [Clock W] {own : RequestId → Prop} {sends : Command → Prop}
    {before after : Channel Q × W} (h : Channel.Step own sends before after) {request : RequestId} (hown : ¬ own request)
    (hone : before.1.tracker.places request ≤ 1) :
    after.1.tracker.places request = before.1.tracker.places request := by
  have hne : ∀ {other}, own other → other ≠ request := fun hother heq => hown (heq ▸ hother)
  cases h with
  | now => rfl
  | submit channel world hother =>
    unfold Channel.submit
    split
    · rfl
    · simp only [Tracker.places_submitted, if_neg (hne hother), Nat.add_zero]
  | submitDetached channel world =>
    unfold Channel.submitDetached
    split <;> rfl
  | reap channel world =>
    unfold Channel.reap
    split
    · rfl
    · exact Tracker.absorb_places _ hone
  | take channel world hother => exact Tracker.places_take_of_ne (hne hother)
  | abandon channel world hother => exact Tracker.places_abandon_of_ne (hne hother)

/-- Steps for other requests do not forget a request. -/
lemma Channel.Step.tracked {W Q : Type} [QueuePairs W Q] [Clock W] {own : RequestId → Prop} {sends : Command → Prop}
    {before after : Channel Q × W} (h : Channel.Step own sends before after) {request : RequestId} (hown : ¬ own request)
    (htracked : 0 < before.1.tracker.places request) : 0 < after.1.tracker.places request := by
  have hne : ∀ {other}, own other → other ≠ request := fun hother heq => hown (heq ▸ hother)
  cases h with
  | now => exact htracked
  | submit channel world hother =>
    unfold Channel.submit
    split
    · exact htracked
    · simpa only [Tracker.places_submitted, if_neg (hne hother), Nat.add_zero] using htracked
  | submitDetached channel world =>
    unfold Channel.submitDetached
    split <;> exact htracked
  | reap channel world =>
    unfold Channel.reap
    split
    · exact htracked
    · exact Tracker.absorb_tracked _ htracked
  | take channel world hother => exact (Tracker.places_take_of_ne (hne hother)).symm ▸ htracked
  | abandon channel world hother => exact (Tracker.places_abandon_of_ne (hne hother)).symm ▸ htracked

lemma Channel.Steps.tracked {W Q : Type} [QueuePairs W Q] [Clock W] {own : RequestId → Prop} {sends : Command → Prop}
    {before after : Channel Q × W} (h : Channel.Steps own sends before after) {request : RequestId} (hown : ¬ own request)
    (htracked : 0 < before.1.tracker.places request) : 0 < after.1.tracker.places request := by
  induction h with
  | refl => exact htracked
  | tail _ hstep ih => exact hstep.tracked hown ih

/-- A command is accepted and its request is tracked, or the tracker stays as it was. -/
lemma Channel.submit_tracked {W Q : Type} [QueuePairs W Q] (channel : Channel Q) (world : W) {request : RequestId}
    (command : Command) (hzero : channel.tracker.places request = 0) :
    (∃ error, (channel.submit request command world).1 = .error error) ∧
        (channel.submit request command world).2.1.tracker.places request = 0 ∨
      (channel.submit request command world).1 = .ok () ∧
        (channel.submit request command world).2.1.tracker.places request = 1 := by
  unfold Channel.submit
  rcases QueuePairs.submit channel.queue command world with ⟨error | id, queue, world'⟩
  · exact .inl ⟨⟨error, rfl⟩, hzero⟩
  · exact .inr ⟨rfl, by simp only [Tracker.places_submitted, hzero, if_true]⟩

namespace Session

variable {W C Q : Type} [Fabric W C Q] [Clock W] {session : Session C Q} {request : RequestId}

/-- In how many places the I/O queue of a session has a request. -/
def places (session : Session C Q) (request : RequestId) : Nat :=
  match session.io with
  | some io => io.tracker.places request
  | none => 0

omit [Fabric W C Q] [Clock W] in
lemma places_of_io {io : Channel Q} (hio : session.io = some io) : session.places request = io.tracker.places request := by
  rw [places, hio]

omit [Fabric W C Q] [Clock W] in
lemma exists_io_of_places_pos (h : 0 < session.places request) :
    ∃ io, session.io = some io ∧ io.tracker.places request = session.places request := by
  cases hio : session.io with
  | none => simp [places, hio] at h
  | some io => exact ⟨io, rfl, (places_of_io hio).symm⟩

lemma Step.places {own : SessionKey → RequestId → Prop} {sends : Command → Prop} {before after : Session C Q × W}
    (h : Step own sends before after) (hown : ¬ own before.1.key request) (hone : before.1.places request ≤ 1) :
    after.1.places request = before.1.places request := by
  cases h with
  | io hio h =>
    rw [places_of_io hio] at hone ⊢
    exact h.places hown hone
  | _ => rfl

variable (world : W)

omit [Clock W] in
/-- A poll for a request that is not tracked finds nothing and changes nothing. -/
lemma pollIo_untracked (hzero : session.places request = 0) :
    session.pollIo request world = (.error (.notFound (.request request)), session, world) := by
  unfold pollIo
  split
  · rfl
  · rename_i io hio
    have huntracked : io.tracker.isTracked request = false := by
      rw [places_of_io hio] at hzero
      rw [← Bool.not_eq_true, Tracker.isTracked_iff_places]
      omega
    rw [huntracked]
    rfl

/-- A poll for a tracked request fails to reap or finds it in flight, and the request stays; or it is the last one. -/
lemma pollIo_tracked (hone : session.places request = 1) :
    (session.pollIo request world).2.1.places request = 1 ∧
        ((∃ failure, (session.pollIo request world).1 = .error (.ofFailure failure)) ∨
          (session.pollIo request world).1 = .ok none) ∨
      (session.pollIo request world).2.1.places request = 0 ∧
        ((∃ completion, (session.pollIo request world).1 = .ok (some completion)) ∨
          ∃ status, (session.pollIo request world).1 = .error (.mediaError status)) := by
  obtain ⟨io, hio, hplaces⟩ := exists_io_of_places_pos (by rw [hone]; exact Nat.one_pos)
  rw [hone] at hplaces
  have htracked : io.tracker.isTracked request = true := by
    rw [Tracker.isTracked_iff_places, hplaces]
    exact Nat.one_pos
  have hreap : (io.reap world).2.1.tracker.places request = 1 := by
    have hstep : Channel.Step (fun _ => False) (fun _ => False) (io, world) (io.reap world).2 := .reap io world
    rw [hstep.places id (Nat.le_of_eq hplaces), hplaces]
  unfold pollIo
  rw [hio]
  simp only [htracked, Bool.not_true, Bool.false_eq_true, if_false]
  rcases hresult : io.reap world with ⟨failure | _, io', world'⟩
  all_goals rw [hresult] at hreap
  · exact .inl ⟨hreap, .inl ⟨failure, rfl⟩⟩
  · have htake := Tracker.places_take_self hreap
    simp only [Channel.take]
    cases htaken : (io'.tracker.take request).1 with
    | none =>
      rw [htaken] at htake
      exact .inl ⟨htake, .inr rfl⟩
    | some completion =>
      rw [htaken] at htake
      refine .inr ⟨htake, ?_⟩
      by_cases hsuccess : completion.status.isSuccess
      · have hdone : Channel.successful completion = .ok completion := if_pos hsuccess
        exact .inl ⟨completion, congrArg (some <$> ·) hdone⟩
      · have hfailed : Channel.successful completion = .error (.mediaError completion.status) := if_neg hsuccess
        exact .inr ⟨completion.status, congrArg (some <$> ·) hfailed⟩

omit [Fabric W C Q] [Clock W] in
/-- Who abandons a request that is not tracked is told so. -/
lemma abandonIo_untracked (hzero : session.places request = 0) :
    session.abandonIo request = (.error (.notFound (.request request)), session) := by
  unfold abandonIo
  split
  · rfl
  · rename_i io hio
    rw [places_of_io hio] at hzero
    rw [Channel.abandon, Tracker.abandon_of_places_eq_zero hzero]

omit [Fabric W C Q] [Clock W] in
lemma abandonIo_tracked (hone : session.places request = 1) :
    (session.abandonIo request).1 = .ok () ∧ (session.abandonIo request).2.places request = 0 := by
  obtain ⟨io, hio, hplaces⟩ := exists_io_of_places_pos (by rw [hone]; exact Nat.one_pos)
  rw [hone] at hplaces
  obtain ⟨hknown, hzero⟩ := Tracker.places_abandon_self hplaces
  unfold abandonIo
  rw [hio]
  simp only [Channel.abandon]
  rw [hknown]
  exact ⟨rfl, hzero⟩

/-- A request is submitted and tracked, or it is not. -/
lemma submitIo_places (command : Command) (hzero : session.places request = 0) :
    let result := session.submitIo request command world
    (∃ error, result.1 = .error error) ∧ result.2.1.places request = 0 ∨
      result.1 = .ok () ∧ result.2.1.places request = 1 := by
  unfold submitIo
  cases hio : session.io with
  | none => exact .inl ⟨⟨_, rfl⟩, hzero⟩
  | some io =>
    rw [places_of_io hio] at hzero
    simp only
    have hfirst := io.submit_tracked world command hzero
    rcases hresult : io.submit request command world with ⟨(_ | failure) | _, full, world'⟩
    all_goals
      rw [hresult] at hfirst
      simp only at hfirst ⊢
    · have hfull : full.tracker.places request = 0 := by simpa using hfirst
      have hreap : (full.reap world').2.1.tracker.places request = 0 := by
        have hstep : Channel.Step (fun _ => False) (fun _ => False) (full, world') (full.reap world').2 := .reap full world'
        rw [hstep.places id (hfull ▸ Nat.zero_le 1), hfull]
      rcases hreaped : full.reap world' with ⟨failure | _, reaped, world''⟩
      all_goals
        rw [hreaped] at hreap
        simp only at hreap ⊢
      · exact .inl ⟨⟨_, rfl⟩, hreap⟩
      · have hagain := reaped.submit_tracked world'' command hreap
        rcases hsecond : reaped.submit request command world'' with ⟨(_ | failure) | _, last, _⟩
        all_goals
          rw [hsecond] at hagain
          simp only at hagain ⊢
        · exact .inl ⟨⟨_, rfl⟩, (by simpa using hagain : last.tracker.places request = 0)⟩
        · exact .inl ⟨⟨_, rfl⟩, (by simpa using hagain : last.tracker.places request = 0)⟩
        · exact .inr ⟨trivial, (by simpa using hagain : last.tracker.places request = 1)⟩
    · exact .inl ⟨⟨_, rfl⟩, (by simpa using hfirst : full.tracker.places request = 0)⟩
    · exact .inr ⟨trivial, (by simpa using hfirst : full.tracker.places request = 1)⟩

/-- A request that was submitted is tracked. -/
lemma submitIo_tracked {command : Command} (hzero : session.places request = 0)
    (hdone : (session.submitIo request command world).1 = .ok ()) :
    (session.submitIo request command world).2.1.places request = 1 := by
  rcases session.submitIo_places world command hzero with ⟨⟨error, hfailed⟩, -⟩ | ⟨-, hone⟩
  · rw [hdone] at hfailed
    cases hfailed
  · exact hone

lemma Steps.places {own : SessionKey → RequestId → Prop} {sends : Command → Prop} {before after : Session C Q × W}
    (h : Steps own sends before after) (hown : ¬ own before.1.key request) (hone : before.1.places request ≤ 1) :
    after.1.places request = before.1.places request := by
  induction h with
  | refl => rfl
  | tail hsteps hstep ih =>
    rw [← ih] at hone ⊢
    exact hstep.places (by rwa [Steps.key hsteps]) hone

/-- A submit that is accepted uses a new number and leaves the request tracked. -/
lemma submit_tracked {config : Config} {last : RequestId} {range : BlockRange} {available : Nat} {command : Command}
    (hfresh : ∀ request, last < request → session.places request = 0)
    (hdone : (session.submit config last range available command world).1 = .ok request) :
    last < request ∧ (session.submit config last range available command world).2.1 = request ∧
      (session.submit config last range available command world).2.2.1.places request = 1 := by
  have hlast := session.permit_last world config last range available
  have hpermit : Steps (fun _ _ => False) (fun _ => False) (session, world)
      (session.permit config last range available world).2.2 :=
    (session.permit_errands world config last range available).steps
  unfold submit at hdone ⊢
  split at hdone
  · cases hdone
  · rename_i last' session' world' heq
    rw [heq] at hlast hpermit
    have hzero : session'.places (last' + 1) = 0 := by
      have hnew := hfresh (last' + 1) (Nat.lt_succ_of_le hlast)
      rw [hpermit.places id (hnew ▸ Nat.zero_le 1), hnew]
    simp only at hdone ⊢
    cases hsubmit : (session'.submitIo (last' + 1) command world').1 with
    | error error =>
      rw [hsubmit] at hdone
      cases hdone
    | ok =>
      rw [hsubmit] at hdone
      cases hdone
      exact ⟨Nat.lt_succ_of_le hlast, rfl, submitIo_tracked world' hzero hsubmit⟩

end Session

end FabricHost
