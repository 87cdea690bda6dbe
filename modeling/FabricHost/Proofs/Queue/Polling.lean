import FabricHost.Loopback.Network
import FabricHost.Proofs.Queue.Delivery
import FabricHost.Proofs.Queue.Steps
import FabricHost.Proofs.Requests.Places
import Mathlib.Logic.Basic

/-!
# Waiting comes to an end

A synchronous call tries to submit its command, round after round, and then polls for the completion, round after round.
Each round that is not the last reads the clock, so a clock that comes to the deadline ends the call. What ends it is told
by its last round: the time is up only where the reading says so and the completion is not there to be taken.
-/

namespace FabricHost

section Clocks

variable {W : Type} (Q : Type) [QueuePairs W Q]

/-- What a queue pair does to the world between two readings of the clock. -/
inductive Untimed : W → W → Prop
  | submit (queue : Q) (command : Command) (world : W) : Untimed world (QueuePairs.submit queue command world).2.2
  | process (queue : Q) (limit : Nat) (world : W) : Untimed world (QueuePairs.process queue limit world).2.2

variable [Clock W] (deadline : Tick)

/-- One of the next readings is at or past the deadline, whatever queue pairs do between them. -/
def ComesWithin : (readings : Nat) → (world : W) → Prop
  | 0, _ => False
  | readings + 1, world => ∀ later, Relation.ReflTransGen (Untimed Q) world later →
      deadline ≤ (Clock.now later).1 ∨ ComesWithin readings (Clock.now later).2

variable {Q deadline} {world later : W} {readings more : Nat}

lemma ComesWithin.moved (h : ComesWithin Q deadline readings world) (hmoved : Relation.ReflTransGen (Untimed Q) world later) :
    ComesWithin Q deadline readings later := by
  cases readings with
  | zero => exact h
  | succ readings => exact fun last hlast => h last (hmoved.trans hlast)

lemma ComesWithin.mono (h : ComesWithin Q deadline readings world) (hmore : readings ≤ more) :
    ComesWithin Q deadline more world := by
  induction readings generalizing world more with
  | zero => exact h.elim
  | succ readings ih =>
    cases more with
    | zero => cases hmore
    | succ more => exact fun later hlater => (h later hlater).imp_right fun hrest => ih hrest (Nat.le_of_succ_le_succ hmore)

/-- What the clock says on a reading, when nothing else is done with it. -/
def nthReading {T : Type} (read : T → Tick × T) : Nat → T → Tick
  | 0, clock => (read clock).1
  | n + 1, clock => nthReading read n (read clock).2

/-- A clock that queue pairs do not touch comes to a deadline when one of its readings does. -/
lemma ComesWithin.of_clock {T : Type} (time : W → T) (read : T → Tick × T)
    (hnow : ∀ world : W, read (time world) = ((Clock.now world).1, time (Clock.now world).2))
    (huntimed : ∀ {world later : W}, Untimed Q world later → time later = time world) {n : Nat}
    (h : deadline ≤ nthReading read n (time world)) : ComesWithin Q deadline (n + 1) world := by
  have hlater : ∀ {world later : W}, Relation.ReflTransGen (Untimed Q) world later → time later = time world := by
    intro world later hmoved
    induction hmoved with
    | refl => rfl
    | tail _ hstep ih => rw [huntimed hstep, ih]
  induction n generalizing world with
  | zero =>
    intro later hmoved
    rw [nthReading, ← hlater hmoved, hnow] at h
    exact .inl h
  | succ n ih =>
    intro later hmoved
    rw [nthReading, ← hlater hmoved, hnow] at h
    exact .inr (ih h)

end Clocks

/-- With so much budget, or with any more, a run gives the answer. -/
def SettlesFrom {α : Type} (enough : Nat) (run : Nat → α) (answer : α) : Prop :=
  ∀ budget, enough ≤ budget → run budget = answer

namespace SettlesFrom

variable {α : Type} {enough more : Nat} {run next : Nat → α} {answer other : α}

lemma mono (h : SettlesFrom enough run answer) (hmore : enough ≤ more) : SettlesFrom more run answer :=
  fun budget hbudget => h budget (Nat.le_trans hmore hbudget)

lemma unique (h : SettlesFrom enough run answer) (h' : SettlesFrom more run other) : answer = other :=
  (h _ (Nat.le_max_left enough more)).symm.trans (h' _ (Nat.le_max_right enough more))

/-- One round that is the last. -/
lemma last (h : ∀ budget, run (budget + 1) = answer) (enough : Nat) : SettlesFrom (enough + 1) run answer
  | budget + 1, _ => h budget

/-- One round more. -/
lemma round (h : ∀ budget, run (budget + 1) = next budget) (hnext : SettlesFrom enough next answer) :
    SettlesFrom (enough + 1) run answer
  | budget + 1, hbudget => (h budget).trans (hnext budget (Nat.le_of_succ_le_succ hbudget))

end SettlesFrom

/-- A loop with a budget of rounds: a round leads to another or gives the answer. -/
structure Rounds {S α : Type} (run : Nat → S → α) (Next : S → S → Prop) (Last : S → α → Prop) : Prop where
  next_or_last (before : S) : (∃ after, Next before after) ∨ ∃ answer, Last before answer
  run_next {before after : S} (h : Next before after) (budget : Nat) : run (budget + 1) before = run budget after
  run_last {before : S} {answer : α} (h : Last before answer) (budget : Nat) : run (budget + 1) before = answer

namespace Rounds

variable {S α : Type} {run : Nat → S → α} {Next : S → S → Prop} {Last : S → α → Prop} {start finish : S} {answer : α}

/-- Rounds that a last one follows are what the loop does. -/
lemma settles (h : Rounds run Next Last) (hrounds : Relation.ReflTransGen Next start finish) (hlast : Last finish answer) :
    ∃ enough, SettlesFrom enough (run · start) answer := by
  induction hrounds using Relation.ReflTransGen.head_induction_on with
  | refl => exact ⟨1, .last (h.run_last hlast) 0⟩
  | head hnext _ ih =>
    obtain ⟨enough, hsettles⟩ := ih
    exact ⟨enough + 1, .round (h.run_next hnext) hsettles⟩

/-- Where every round comes nearer to an end that leaves room for none, as many rounds are enough as it was away. -/
lemma exists_last (h : Rounds run Next Last) (Within : Nat → S → Prop) (hnone : ∀ before, ¬Within 0 before)
    (hnearer : ∀ {away : Nat} {before after : S}, Next before after → Within (away + 1) before → Within away after)
    {away : Nat} (hstart : Within away start) :
    ∃ finish answer, Relation.ReflTransGen Next start finish ∧ Last finish answer ∧ (∃ left ≤ away, Within left finish) ∧
      SettlesFrom away (run · start) answer := by
  induction away generalizing start with
  | zero => exact absurd hstart (hnone start)
  | succ away ih =>
    rcases h.next_or_last start with ⟨after, hnext⟩ | ⟨answer, hlast⟩
    · obtain ⟨finish, answer, hrounds, hlast, ⟨left, hleft, hfinish⟩, hsettles⟩ := ih (hnearer hnext hstart)
      exact ⟨finish, answer, .head hnext hrounds, hlast, ⟨left, Nat.le_succ_of_le hleft, hfinish⟩,
        .round (h.run_next hnext) hsettles⟩
    · exact ⟨start, answer, .refl, hlast, ⟨away + 1, Nat.le_refl _, hstart⟩, .last (h.run_last hlast) away⟩

end Rounds

namespace Channel

variable {W Q : Type} [QueuePairs W Q] [Clock W] (deadline : Tick) (request : RequestId) (command : Command)

/-- A round that finds no slot, in time for another: what has completed is reaped. -/
def Retries (before after : Channel Q × W) : Prop :=
  ∃ full world count, before.1.submit request command before.2 = (.error .queueFull, full, world) ∧
    (Clock.now world).1 < deadline ∧ full.reap (Clock.now world).2 = (.ok count, after)

/-- The last of the rounds that try to submit. -/
inductive Stops (before : Channel Q × W) : Except HostError Unit × Channel Q × W → Prop
  | accepted {after : Channel Q × W} (h : before.1.submit request command before.2 = (.ok (), after)) :
      Stops before (.ok (), after)
  | refused {failure : TransportFailure} {after : Channel Q × W}
      (h : before.1.submit request command before.2 = (.error (.transport failure), after)) :
      Stops before (.error (.ofFailure failure), after)
  | late {full : Channel Q} {world : W} (h : before.1.submit request command before.2 = (.error .queueFull, full, world))
      (hlate : deadline ≤ (Clock.now world).1) : Stops before (.error .timeout, full, (Clock.now world).2)
  | lost {full : Channel Q} {world : W} {failure : TransportFailure} {after : Channel Q × W}
      (h : before.1.submit request command before.2 = (.error .queueFull, full, world))
      (hearly : (Clock.now world).1 < deadline) (hreap : full.reap (Clock.now world).2 = (.error failure, after)) :
      Stops before (.error (.ofFailure failure), after)

/-- A round that does not find the completion, in time for another. -/
def Waits (before after : Channel Q × W) : Prop :=
  ∃ count reaped waiting world, before.1.reap before.2 = (.ok count, reaped, world) ∧
    reaped.take request = (none, waiting) ∧ (Clock.now world).1 < deadline ∧ after = (waiting, (Clock.now world).2)

/-- The last of the rounds that wait for the completion. -/
inductive Answers (before : Channel Q × W) : Except HostError Completion × Channel Q × W → Prop
  | lost {failure : TransportFailure} {channel : Channel Q} {world : W}
      (h : before.1.reap before.2 = (.error failure, channel, world)) :
      Answers before (channel.giveUp request world (.ofFailure failure))
  | taken {count : Nat} {reaped rest : Channel Q} {world : W} {completion : Completion}
      (h : before.1.reap before.2 = (.ok count, reaped, world)) (htake : reaped.take request = (some completion, rest)) :
      Answers before (.ok completion, rest, world)
  | late {count : Nat} {reaped waiting : Channel Q} {world : W} (h : before.1.reap before.2 = (.ok count, reaped, world))
      (htake : reaped.take request = (none, waiting)) (hlate : deadline ≤ (Clock.now world).1) :
      Answers before (waiting.giveUp request (Clock.now world).2 .timeout)

variable {deadline request command} {before after : Channel Q × W} {budget : Nat}

lemma Retries.submitBy_eq (h : Retries deadline request command before after) :
    submitBy deadline request command (budget + 1) before.1 before.2 =
      submitBy deadline request command budget after.1 after.2 := by
  obtain ⟨full, world, count, hsubmit, hearly, hreap⟩ := h
  have hnot : ¬deadline ≤ (Clock.now world).1 := UInt64.not_le.mpr hearly
  rw [submitBy, hsubmit]
  simp only [if_neg hnot, hreap]

lemma Stops.submitBy_eq {result : Except HostError Unit × Channel Q × W}
    (h : Stops deadline request command before result) :
    submitBy deadline request command (budget + 1) before.1 before.2 = result := by
  rw [submitBy]
  cases h with
  | accepted h => rw [h]
  | refused h => rw [h]
  | late h hlate =>
    rw [h]
    simp only [if_pos hlate]
  | lost h hearly hreap =>
    rw [h]
    simp only [if_neg (UInt64.not_le.mpr hearly), hreap]

/-- A round is the last one, or there is another. -/
lemma retries_or_stops (deadline : Tick) (request : RequestId) (command : Command) (before : Channel Q × W) :
    (∃ after, Retries deadline request command before after) ∨ ∃ result, Stops deadline request command before result := by
  rcases hsubmit : before.1.submit request command before.2 with ⟨(_ | failure) | _, full, world⟩
  · by_cases hlate : deadline ≤ (Clock.now world).1
    · exact .inr ⟨_, .late hsubmit hlate⟩
    · rcases hreap : full.reap (Clock.now world).2 with ⟨failure | count, reaped⟩
      · exact .inr ⟨_, .lost hsubmit (UInt64.not_le.mp hlate) hreap⟩
      · exact .inl ⟨_, full, world, count, hsubmit, UInt64.not_le.mp hlate, hreap⟩
  · exact .inr ⟨_, .refused hsubmit⟩
  · exact .inr ⟨_, .accepted hsubmit⟩

lemma Waits.awaitBy_eq (h : Waits deadline request before after) :
    awaitBy deadline request (budget + 1) before.1 before.2 = awaitBy deadline request budget after.1 after.2 := by
  obtain ⟨count, reaped, waiting, world, hreap, htake, hearly, rfl⟩ := h
  rw [awaitBy, hreap]
  simp only [htake, if_neg (UInt64.not_le.mpr hearly)]

lemma Answers.awaitBy_eq {result : Except HostError Completion × Channel Q × W} (h : Answers deadline request before result) :
    awaitBy deadline request (budget + 1) before.1 before.2 = result := by
  rw [awaitBy]
  cases h with
  | lost h => rw [h]
  | taken h htake =>
    rw [h]
    simp only [htake]
  | late h htake hlate =>
    rw [h]
    simp only [htake, if_pos hlate]

lemma waits_or_answers (deadline : Tick) (request : RequestId) (before : Channel Q × W) :
    (∃ after, Waits deadline request before after) ∨ ∃ result, Answers deadline request before result := by
  rcases hreap : before.1.reap before.2 with ⟨failure | count, reaped, world⟩
  · exact .inr ⟨_, .lost hreap⟩
  · rcases htake : reaped.take request with ⟨_ | completion, waiting⟩
    · by_cases hlate : deadline ≤ (Clock.now world).1
      · exact .inr ⟨_, .late hreap htake hlate⟩
      · exact .inl ⟨_, count, reaped, waiting, world, hreap, htake, UInt64.not_le.mp hlate, rfl⟩
    · exact .inr ⟨_, .taken hreap htake⟩

lemma submitBy_rounds (deadline : Tick) (request : RequestId) (command : Command) :
    Rounds (fun budget (before : Channel Q × W) => submitBy deadline request command budget before.1 before.2)
      (Retries deadline request command) (Stops deadline request command) where
  next_or_last := retries_or_stops deadline request command
  run_next h _ := h.submitBy_eq
  run_last h _ := h.submitBy_eq

lemma awaitBy_rounds (deadline : Tick) (request : RequestId) :
    Rounds (fun budget (before : Channel Q × W) => awaitBy deadline request budget before.1 before.2)
      (Waits deadline request) (Answers deadline request) where
  next_or_last := waits_or_answers deadline request
  run_next h _ := h.awaitBy_eq
  run_last h _ := h.awaitBy_eq

lemma Stops.ne_exhausted {result : Except HostError Unit × Channel Q × W}
    (h : Stops deadline request command before result) : result.1 ≠ .error .pollsExhausted := by
  cases h <;> simp [HostError.ofFailure]

lemma Answers.ne_exhausted {result : Except HostError Completion × Channel Q × W}
    (h : Answers deadline request before result) : result.1 ≠ .error .pollsExhausted := by
  cases h <;> simp [giveUp, HostError.ofFailure]

lemma Stops.of_timeout {channel : Channel Q} {last : W}
    (h : Stops deadline request command before (.error .timeout, channel, last)) :
    ∃ full read, before.1.submit request command before.2 = (.error .queueFull, full, read) ∧
      deadline ≤ (Clock.now read).1 ∧ last = (Clock.now read).2 := by
  generalize hresult : (Except.error HostError.timeout, channel, last) = result at h
  cases h with
  | accepted => cases hresult
  | refused => simp [HostError.ofFailure] at hresult
  | @late full read h hlate =>
    cases hresult
    exact ⟨channel, read, h, hlate, rfl⟩
  | lost => simp [HostError.ofFailure] at hresult

lemma Answers.of_timeout {channel : Channel Q} {last : W}
    (h : Answers deadline request before (.error .timeout, channel, last)) :
    ∃ count reaped read, before.1.reap before.2 = (.ok count, reaped, read) ∧ reaped.tracker.ready[request]? = none ∧
      deadline ≤ (Clock.now read).1 ∧ last = (Clock.now read).2 := by
  generalize hresult : (Except.error HostError.timeout, channel, last) = result at h
  cases h with
  | lost => simp [giveUp, HostError.ofFailure] at hresult
  | taken => cases hresult
  | @late count reaped _ read h htake hlate =>
    cases hresult
    exact ⟨count, reaped, read, h, congrArg Prod.fst htake, hlate, rfl⟩

omit [Clock W] in
lemma submit_untimed (channel : Channel Q) (request : RequestId) (command : Command) (world : W) :
    Untimed Q world (channel.submit request command world).2.2 := by
  have huntimed := Untimed.submit channel.queue command world
  unfold submit
  rcases hsubmit : QueuePairs.submit channel.queue command world with ⟨error | id, queue, later⟩
  all_goals
    rw [hsubmit] at huntimed
    exact huntimed

omit [Clock W] in
lemma submitDetached_untimed (channel : Channel Q) (command : Command) (world : W) :
    Untimed Q world (channel.submitDetached command world).2.2 := by
  have huntimed := Untimed.submit channel.queue command world
  unfold submitDetached
  rcases hsubmit : QueuePairs.submit channel.queue command world with ⟨error | id, queue, later⟩
  all_goals
    rw [hsubmit] at huntimed
    exact huntimed

omit [Clock W] in
lemma reap_untimed (channel : Channel Q) (world : W) : Untimed Q world (channel.reap world).2.2 := by
  have huntimed := Untimed.process channel.queue 0 world
  unfold reap
  rcases hprocess : QueuePairs.process channel.queue 0 world with ⟨failure | completions, queue, later⟩
  all_goals
    rw [hprocess] at huntimed
    exact huntimed

variable {readings : Nat}

/-- Each round reads the clock once, so there is one reading less until the deadline. -/
lemma Retries.comesWithin (h : Retries deadline request command before after)
    (hclock : ComesWithin Q deadline (readings + 1) before.2) : ComesWithin Q deadline readings after.2 := by
  obtain ⟨full, world, count, hsubmit, hearly, hreap⟩ := h
  have hsubmitted := submit_untimed before.1 request command before.2
  have hreaped := reap_untimed full (Clock.now world).2
  rw [hsubmit] at hsubmitted
  rw [hreap] at hreaped
  rcases hclock world (.single hsubmitted) with hlate | hrest
  · exact absurd hlate (UInt64.not_le.mpr hearly)
  · exact hrest.moved (.single hreaped)

lemma Waits.comesWithin (h : Waits deadline request before after)
    (hclock : ComesWithin Q deadline (readings + 1) before.2) : ComesWithin Q deadline readings after.2 := by
  obtain ⟨count, reaped, waiting, world, hreap, -, hearly, rfl⟩ := h
  have hreaped := reap_untimed before.1 before.2
  rw [hreap] at hreaped
  rcases hclock world (.single hreaped) with hlate | hrest
  · exact absurd hlate (UInt64.not_le.mpr hearly)
  · exact hrest

/-- Any number of rounds that find no slot. -/
abbrev Tries (deadline : Tick) (request : RequestId) (command : Command) : Channel Q × W → Channel Q × W → Prop :=
  Relation.ReflTransGen (Retries deadline request command)

/-- The command was accepted after some rounds, and any number of rounds have not found its completion since. -/
def Polls (deadline : Tick) (request : RequestId) (command : Command) (start polling : Channel Q × W) : Prop :=
  ∃ tried accepted, Tries deadline request command start tried ∧
    tried.1.submit request command tried.2 = (.ok (), accepted) ∧
    Relation.ReflTransGen (Waits deadline request) accepted polling

section

variable {start : Channel Q × W} {result : Except HostError Completion × Channel Q × W}

lemma execute_of_error {enough : Nat} {error : HostError} {after : Channel Q × W}
    (hsubmit : SettlesFrom enough (fun budget => submitBy deadline request command budget start.1 start.2)
      (.error error, after)) :
    SettlesFrom enough (fun budget => start.1.execute budget deadline request command start.2) (.error error, after) := by
  intro budget hbudget
  have h := hsubmit budget hbudget
  simp only [execute] at h ⊢
  rw [h]

lemma execute_of_accepted {enough more : Nat} {accepted : Channel Q × W}
    (hsubmit : SettlesFrom enough (fun budget => submitBy deadline request command budget start.1 start.2) (.ok (), accepted))
    (hawait : SettlesFrom more (fun budget => awaitBy deadline request budget accepted.1 accepted.2) result) :
    SettlesFrom (max enough more) (fun budget => start.1.execute budget deadline request command start.2) result := by
  intro budget hbudget
  have h := hsubmit budget (Nat.le_trans (Nat.le_max_left _ _) hbudget)
  have h' := hawait budget (Nat.le_trans (Nat.le_max_right _ _) hbudget)
  simp only [execute] at h h' ⊢
  rw [h]
  exact h'

/-- How a call ends: it could not submit, or the wait for its completion ended. -/
def Ends (deadline : Tick) (request : RequestId) (command : Command) (start : Channel Q × W)
    (result : Except HostError Completion × Channel Q × W) : Prop :=
  (∃ tried error, Tries deadline request command start tried ∧
      Stops deadline request command tried (.error error, result.2) ∧ result.1 = .error error) ∨
    ∃ polling, Polls deadline request command start polling ∧ Answers deadline request polling result

lemma exists_ends (start : Channel Q × W) (request : RequestId) (command : Command)
    (hclock : ComesWithin Q deadline readings start.2) :
    ∃ result, Ends deadline request command start result ∧
      SettlesFrom readings (fun budget => start.1.execute budget deadline request command start.2) result := by
  obtain ⟨tried, ⟨error | _, accepted⟩, htries, hstops, ⟨left, hleft, hlast⟩, hsubmit⟩ :=
    (submitBy_rounds deadline request command).exists_last (fun left before => ComesWithin Q deadline left before.2)
      (fun _ => id) Retries.comesWithin hclock
  · exact ⟨_, .inl ⟨tried, error, htries, hstops, rfl⟩, execute_of_error hsubmit⟩
  · have haccepted : tried.1.submit request command tried.2 = (.ok (), accepted) := by
      cases hstops with
      | accepted h => exact h
    have hmoved := submit_untimed tried.1 request command tried.2
    rw [haccepted] at hmoved
    obtain ⟨polling, result, hwaits, hanswers, -, hawait⟩ :=
      (awaitBy_rounds deadline request).exists_last (fun left before => ComesWithin Q deadline left before.2)
        (fun _ => id) Waits.comesWithin ((hlast.mono hleft).moved (.single hmoved))
    exact ⟨result, .inr ⟨polling, ⟨tried, accepted, htries, haccepted, hwaits⟩, hanswers⟩,
      (execute_of_accepted hsubmit hawait).mono (Nat.le_of_eq (Nat.max_self readings))⟩

lemma Ends.ne_exhausted (h : Ends deadline request command start result) : result.1 ≠ .error .pollsExhausted := by
  rcases h with ⟨tried, error, -, hstops, herror⟩ | ⟨polling, -, hanswers⟩
  · rw [herror]
    exact fun heq => hstops.ne_exhausted (congrArg Except.error (Except.error.inj heq))
  · exact hanswers.ne_exhausted

/-- A budget of as many polls as the clock is read until the deadline is never used up. -/
lemma execute_ne_exhausted {budget : Nat} (channel : Channel Q) (request : RequestId) (command : Command) {world : W}
    (hclock : ComesWithin Q deadline readings world) (hbudget : readings ≤ budget) :
    (channel.execute budget deadline request command world).1 ≠ .error .pollsExhausted := by
  obtain ⟨result, hends, hsettles⟩ := exists_ends (channel, world) request command hclock
  have hresult : channel.execute budget deadline request command world = result := hsettles budget hbudget
  rw [hresult]
  exact hends.ne_exhausted

lemma Ends.settles (h : Ends deadline request command start result) : ∃ enough,
    SettlesFrom enough (fun budget => start.1.execute budget deadline request command start.2) result := by
  rcases h with ⟨tried, error, htries, hstops, herror⟩ | ⟨polling, ⟨tried, accepted, htries, hsubmit, hwaits⟩, hanswers⟩
  · obtain ⟨enough, hsettles⟩ := (submitBy_rounds deadline request command).settles htries hstops
    obtain ⟨_, after⟩ := result
    cases herror
    exact ⟨enough, execute_of_error hsettles⟩
  · obtain ⟨enough, hsettles⟩ := (submitBy_rounds deadline request command).settles htries (.accepted hsubmit)
    obtain ⟨more, hawait⟩ := (awaitBy_rounds deadline request).settles hwaits hanswers
    exact ⟨_, execute_of_accepted hsettles hawait⟩

end

lemma reap_places (channel : Channel Q) (world : W) (hone : channel.tracker.places request ≤ 1) :
    (channel.reap world).2.1.tracker.places request = channel.tracker.places request := by
  have hstep : Step (fun _ => False) (fun _ => False) (channel, world) (channel.reap world).2 := .reap channel world
  exact hstep.places id hone

lemma Retries.places (h : Retries deadline request command before after) (hzero : before.1.tracker.places request = 0) :
    after.1.tracker.places request = 0 := by
  obtain ⟨full, world, count, hsubmit, -, hreap⟩ := h
  have hfull := before.1.submit_tracked before.2 command hzero
  rw [hsubmit] at hfull
  have hfull' : full.tracker.places request = 0 := by simpa using hfull
  have hreaped := reap_places full (Clock.now world).2 (hfull' ▸ Nat.zero_le 1)
  rw [hreap, hfull'] at hreaped
  exact hreaped

lemma Tries.places (h : Tries deadline request command before after) (hzero : before.1.tracker.places request = 0) :
    after.1.tracker.places request = 0 := by
  induction h with
  | refl => exact hzero
  | tail _ hretries ih => exact hretries.places ih

/-- A request is tracked from when its command was accepted. -/
lemma Stops.places {result : Except HostError Unit × Channel Q × W} (h : Stops deadline request command before result)
    (hzero : before.1.tracker.places request = 0) :
    (∃ error, result.1 = .error error) ∧ result.2.1.tracker.places request = 0 ∨
      result.1 = .ok () ∧ result.2.1.tracker.places request = 1 := by
  have hsubmitted := before.1.submit_tracked before.2 command hzero
  cases h with
  | accepted h =>
    rw [h] at hsubmitted
    exact .inr (by simpa using hsubmitted)
  | refused h =>
    rw [h] at hsubmitted
    exact .inl ⟨⟨_, rfl⟩, by simpa using hsubmitted⟩
  | late h =>
    rw [h] at hsubmitted
    exact .inl ⟨⟨_, rfl⟩, by simpa using hsubmitted⟩
  | @lost full world _ _ h _ hreap =>
    rw [h] at hsubmitted
    have hfull : full.tracker.places request = 0 := by simpa using hsubmitted
    have hreaped := reap_places full (Clock.now world).2 (hfull ▸ Nat.zero_le 1)
    rw [hreap, hfull] at hreaped
    exact .inl ⟨⟨_, rfl⟩, hreaped⟩

/-- A completion that could not be taken leaves its request where it is. -/
lemma places_of_take_eq_none {channel waiting : Channel Q} (hone : channel.tracker.places request = 1)
    (htake : channel.take request = (none, waiting)) : waiting.tracker.places request = 1 := by
  have htaken := Tracker.places_take_self hone
  obtain ⟨hnone, rfl⟩ := Prod.mk.inj htake
  rwa [show (channel.tracker.take request).1 = none from hnone] at htaken

lemma Waits.places (h : Waits deadline request before after) (hone : before.1.tracker.places request = 1) :
    after.1.tracker.places request = 1 := by
  obtain ⟨count, reaped, waiting, world, hreap, htake, -, rfl⟩ := h
  have hreaped := reap_places before.1 before.2 (Nat.le_of_eq hone)
  rw [hreap, hone] at hreaped
  exact places_of_take_eq_none hreaped htake

lemma Polls.places {start polling : Channel Q × W} (h : Polls deadline request command start polling)
    (hzero : start.1.tracker.places request = 0) : polling.1.tracker.places request = 1 := by
  obtain ⟨tried, accepted, htries, hsubmit, hwaits⟩ := h
  have hsubmitted := tried.1.submit_tracked tried.2 command (htries.places hzero)
  rw [hsubmit] at hsubmitted
  induction hwaits with
  | refl => simpa using hsubmitted
  | tail _ hwaits ih => exact hwaits.places ih

/-- A request that was given up is tracked no more. -/
lemma Answers.places {result : Except HostError Completion × Channel Q × W} (h : Answers deadline request before result)
    (hone : before.1.tracker.places request = 1) {error : HostError} (herror : result.1 = .error error) :
    result.2.1.tracker.places request = 0 := by
  have hreaped := reap_places before.1 before.2 (Nat.le_of_eq hone)
  cases h with
  | lost h =>
    rw [h, hone] at hreaped
    exact (Tracker.places_abandon_self hreaped).2
  | taken => cases herror
  | late h htake =>
    rw [h, hone] at hreaped
    exact (Tracker.places_abandon_self (places_of_take_eq_none hreaped htake)).2

/-- A synchronous call is over when the clock has come to its deadline, however slowly and in whatever order the queue
pair completes. The time is up only where a reading says so, and there was no slot or the completion could not be taken
just before it; a completion that a poll can take is the answer. Where there is none, the request is tracked no more, and
everybody else's still is. -/
theorem execute_terminates {W Q : Type} [QueuePairs W Q] [Clock W] (channel : Channel Q) (world : W) (deadline : Tick)
    (request : RequestId) (command : Command) (huntracked : channel.tracker.isTracked request = false) (readings : Nat)
    (hclock : ComesWithin Q deadline readings world) :
    ∃ answer after last,
      (∀ budget, readings ≤ budget →
        channel.execute budget deadline request command world = (answer, after, last)) ∧
      answer ≠ .error .pollsExhausted ∧
      (answer = .error .timeout → ∃ read, deadline ≤ (Clock.now read).1 ∧ last = (Clock.now read).2 ∧
        ((∃ tried full, Tries deadline request command (channel, world) tried ∧
            tried.1.submit request command tried.2 = (.error .queueFull, full, read)) ∨
          ∃ polling count reaped, Polls deadline request command (channel, world) polling ∧
            polling.1.reap polling.2 = (.ok count, reaped, read) ∧ reaped.tracker.ready[request]? = none)) ∧
      (∀ polling count reaped read completion, Polls deadline request command (channel, world) polling →
        polling.1.reap polling.2 = (.ok count, reaped, read) → reaped.tracker.ready[request]? = some completion →
        answer = .ok completion ∧ last = read) ∧
      ∀ error, answer = .error error → after.tracker.isTracked request = false ∧
        ∀ other, channel.tracker.isTracked other = true → after.tracker.isTracked other = true := by
  have hzero : channel.tracker.places request = 0 := by
    rw [← Bool.not_eq_true, Tracker.isTracked_iff_places] at huntracked
    omega
  obtain ⟨⟨answer, after, last⟩, hends, hsettles⟩ :=
    exists_ends (channel, world) request command hclock
  refine ⟨answer, after, last, hsettles, ?_, ?_, ?_, ?_⟩
  · exact hends.ne_exhausted
  · rintro rfl
    rcases hends with ⟨tried, error, htries, hstops, herror⟩ | ⟨polling, hpolls, hanswers⟩
    · cases herror
      obtain ⟨full, read, hsubmit, hlate, rfl⟩ := hstops.of_timeout
      exact ⟨read, hlate, rfl, .inl ⟨tried, full, htries, hsubmit⟩⟩
    · obtain ⟨count, reaped, read, hreap, hready, hlate, rfl⟩ := hanswers.of_timeout
      exact ⟨read, hlate, rfl, .inr ⟨polling, count, reaped, hpolls, hreap, hready⟩⟩
  · intro polling count reaped read completion hpolls hreap hready
    have htaken : reaped.take request = (some completion, (reaped.take request).2) := Prod.ext hready rfl
    obtain ⟨enough, hother⟩ := Ends.settles (.inr ⟨polling, hpolls, .taken hreap htaken⟩)
    cases hsettles.unique hother
    exact ⟨rfl, rfl⟩
  · rintro error rfl
    refine ⟨?_, fun other hother => ?_⟩
    · rw [← Bool.not_eq_true, Tracker.isTracked_iff_places, Nat.not_lt, Nat.le_zero]
      rcases hends with ⟨tried, error, htries, hstops, herror⟩ | ⟨polling, hpolls, hanswers⟩
      · rcases hstops.places (htries.places hzero) with ⟨-, hplaces⟩ | ⟨hok, -⟩
        · exact hplaces
        · cases hok
      · exact hanswers.places (hpolls.places hzero) rfl
    · rw [Tracker.isTracked_iff_places] at hother ⊢
      have hsteps : Steps (Eq request) (fun _ => True) (channel, world)
          (channel.execute readings deadline request command world).2 := by
        apply execute_steps
        · rfl
        · trivial
      have hrun : channel.execute readings deadline request command world = (.error error, after, last) :=
        hsettles readings (Nat.le_refl _)
      rw [hrun] at hsteps
      refine hsteps.tracked ?_ hother
      rintro rfl
      omega

end Channel

/-- A controller whose I/O queue stands still, and a clock that moves on by a second on every reading. -/
def Simulation.stalled : Simulation where
  net := { Loopback.attached 0 with behavior := { stallIo := true } }
  clock := { step := 1000 }

/-- A read of a queue that stands still is given up on the sixth reading of the clock. -/
theorem Channel.execute_terminates_stalled :
    let channel : Channel LoopbackQueue := { queue := { controllerId := 1, generation := some 0, depth := 4 } }
    channel.tracker.isTracked 1 = false ∧ ComesWithin LoopbackQueue 5000 6 Simulation.stalled ∧
      ∃ after last, after.tracker.isTracked 1 = false ∧ ∀ budget, 6 ≤ budget →
        channel.execute budget 5000 1 (.read 1 0 1) Simulation.stalled = (.error .timeout, after, last) := by
  intro channel
  have huntracked : channel.tracker.isTracked 1 = false := by decide +kernel
  have hclock : ComesWithin LoopbackQueue 5000 6 Simulation.stalled := by
    apply ComesWithin.of_clock Simulation.clock ManualClock.read (fun _ => rfl)
    · rintro world later (_ | _) <;> rfl
    · decide
  have htimeout : (channel.execute 6 5000 1 (.read 1 0 1) Simulation.stalled).1 = .error .timeout := by decide +kernel
  obtain ⟨answer, after, last, hrun, -, -, -, herror⟩ :=
    execute_terminates channel Simulation.stalled 5000 1 (.read 1 0 1) huntracked 6 hclock
  have hanswer : answer = .error .timeout := by rw [← htimeout, hrun 6 (Nat.le_refl 6)]
  exact ⟨huntracked, hclock, after, last, (herror _ hanswer).1, hanswer ▸ hrun⟩

end FabricHost
