import FabricHost.Proofs.Host.Connecting
import FabricHost.Proofs.Host.Steps
import FabricHost.Proofs.Loopback.Apart
import FabricHost.Proofs.Queue.Polling
import FabricHost.Proofs.Session.Errors
import Mathlib.Logic.Function.Iterate

/-!
# Deadlines come before the polls run out

A wait has no end of its own but its deadline, and the budget of its polls is not to be noticed. Where the clock never goes
back, and every timeout runs out on no more readings than the budget has polls, no call answers that its polls are used up.
A clock that only its readings move is such a clock, if it shows no tick too often for the budget.
-/

namespace FabricHost

open Relation (ReflTransGen)

section Clocks

variable {W : Type} (Q : Type) [QueuePairs W Q] [Clock W]

/-- What a call does to the world while it waits: queue pairs are used, and the clock is read. -/
inductive Waiting : W → W → Prop
  | untimed {world later : W} (h : Untimed Q world later) : Waiting world later
  | now (world : W) : Waiting world (Clock.now world).2

/-- From a world on, however long is waited there, the clock does not go back, and the timeouts of a configuration run out
on no more readings than it has polls for. -/
structure Timely (config : Config) (world : W) : Prop where
  monotone : ∀ start, ReflTransGen (Waiting Q) world start →
    ∀ later, ReflTransGen (Waiting Q) (Clock.now start).2 later → (Clock.now start).1 ≤ (Clock.now later).1
  runsOut : ∀ start, ReflTransGen (Waiting Q) world start →
    ∀ timeout ∈ [config.ioTimeoutMs, config.adminTimeoutMs],
      ComesWithin Q (Tick.after (Clock.now start).1 timeout) config.pollBudget (Clock.now start).2

variable {Q} {config : Config} {world later : W} {deadline : Tick} {readings : Nat}

lemma Timely.waited (h : Timely Q config world) (hwaited : ReflTransGen (Waiting Q) world later) :
    Timely Q config later where
  monotone start hstart := h.monotone start (hwaited.trans hstart)
  runsOut start hstart := h.runsOut start (hwaited.trans hstart)

/-- A deadline does not get further away, however long is waited. Once it has come, each reading says so. -/
lemma ComesWithin.waited (h : ComesWithin Q deadline readings world) (htimely : Timely Q config world)
    (hwaited : ReflTransGen (Waiting Q) world later) : ComesWithin Q deadline readings later := by
  cases readings with
  | zero => exact h.elim
  | succ readings =>
    induction hwaited with
    | refl => exact h
    | @tail middle _ hmiddle hstep ih =>
      cases hstep with
      | untimed huntimed => exact ih.moved (.single huntimed)
      | now =>
        rcases ih middle .refl with hlate | hrest
        · intro last hlast
          have hlast : ReflTransGen (Waiting Q) (Clock.now middle).2 last := hlast.lift id fun _ _ => .untimed
          exact .inl (UInt64.le_trans hlate (htimely.monotone middle hmiddle last hlast))
        · exact hrest.mono (Nat.le_succ readings)

/-- Readings that do not go back, and of which every `pace` gain a tick or more, until there is none left to gain. -/
structure Paced {T : Type} (read : T → Tick × T) (pace : Nat) : Prop where
  monotone : ∀ clock, (read clock).1 ≤ (read (read clock).2).1
  gains : ∀ clock, min ((read clock).1.toNat + 1) (UInt64.size - 1) ≤ (nthReading read pace clock).toNat

section

variable {T : Type} {read : T → Tick × T} {pace : Nat}

lemma nthReading_add (read : T → Tick × T) (m n : Nat) (clock : T) :
    nthReading read (m + n) clock = nthReading read n ((fun clock => (read clock).2)^[m] clock) := by
  induction m generalizing clock with
  | zero => rw [Nat.zero_add, Function.iterate_zero_apply]
  | succ m ih => rw [Nat.succ_add, nthReading, ih, Function.iterate_succ_apply]

lemma Paced.nthReading_le_succ (h : Paced read pace) (n : Nat) (clock : T) :
    nthReading read n clock ≤ nthReading read (n + 1) clock := by
  induction n generalizing clock with
  | zero => exact h.monotone clock
  | succ n ih => exact ih (read clock).2

lemma Paced.le_nthReading (h : Paced read pace) (n : Nat) (clock : T) : (read clock).1 ≤ nthReading read n clock := by
  induction n with
  | zero => exact UInt64.le_refl _
  | succ n ih => exact UInt64.le_trans ih (h.nthReading_le_succ n clock)

/-- A span of time has passed after `pace` readings for each of its ticks. -/
lemma Paced.after_le (h : Paced read pace) (span : Tick) (clock : T) :
    Tick.after (read clock).1 span ≤ nthReading read (pace * span.toNat) clock := by
  have hgained : ∀ ticks, min ((read clock).1.toNat + ticks) (UInt64.size - 1) ≤
      (nthReading read (pace * ticks) clock).toNat := by
    intro ticks
    induction ticks with
    | zero => exact Nat.min_le_left _ _
    | succ ticks ih =>
      have hgains := h.gains ((fun clock => (read clock).2)^[pace * ticks] clock)
      have hreading := nthReading_add read (pace * ticks) 0 clock
      rw [nthReading, Nat.add_zero] at hreading
      rw [← hreading, ← nthReading_add] at hgains
      rw [Nat.mul_succ]
      omega
  rw [UInt64.le_iff_toNat_le, Tick.toNat_after]
  exact hgained span.toNat

variable (read) (time : W → T)
  (hnow : ∀ world : W, read (time world) = ((Clock.now world).1, time (Clock.now world).2))
  (huntimed : ∀ {world later : W}, Untimed Q world later → time later = time world)
include hnow huntimed

/-- A clock that queue pairs do not touch has been read a number of times. -/
lemma time_waited (hwaited : ReflTransGen (Waiting Q) world later) :
    ∃ n, time later = (fun clock => (read clock).2)^[n] (time world) := by
  induction hwaited with
  | refl => exact ⟨0, rfl⟩
  | tail _ hstep ih =>
    obtain ⟨n, hn⟩ := ih
    cases hstep with
    | untimed h => exact ⟨n, (huntimed h).trans hn⟩
    | now => exact ⟨n + 1, by rw [Function.iterate_succ_apply', ← hn, hnow]⟩

/-- Time goes on in a world where only its readings move the clock, if the budget has polls for all readings of each
timeout. -/
lemma Timely.of_paced (hpaced : Paced read pace)
    (hbudget : ∀ timeout ∈ [config.ioTimeoutMs, config.adminTimeoutMs], pace * timeout.toNat < config.pollBudget)
    (world : W) : Timely Q config world where
  monotone start _ later hwaited := by
    obtain ⟨n, hn⟩ := time_waited read time hnow huntimed hwaited
    have hfirst : (Clock.now start).1 = (read (time start)).1 := by rw [hnow]
    have hlater : (Clock.now later).1 = nthReading read (n + 1) (time start) := by
      have hreading := nthReading_add read n 0 (read (time start)).2
      rw [nthReading, Nat.add_zero, hnow, ← hn, hnow] at hreading
      rw [nthReading, hnow, hreading]
    rw [hfirst, hlater]
    exact hpaced.le_nthReading (n + 1) (time start)
  runsOut start _ timeout htimeout := by
    have hdeadline := UInt64.le_trans (hpaced.after_le timeout (time start))
      (hpaced.nthReading_le_succ (pace * timeout.toNat) (time start))
    rw [nthReading, hnow] at hdeadline
    have hcomes : ComesWithin Q (Tick.after (Clock.now start).1 timeout) (pace * timeout.toNat + 1) (Clock.now start).2 :=
      .of_clock time read hnow huntimed hdeadline
    exact hcomes.mono (hbudget timeout htimeout)

end

end Clocks

/-- A clock that shows each tick `pace` times, and the last one for ever. -/
structure Ticking (pace : Nat) where
  readings : Nat := 0

namespace Ticking

variable {pace : Nat}

def read (clock : Ticking pace) : Tick × Ticking pace :=
  (UInt64.ofNat (min (clock.readings / pace) (UInt64.size - 1)), ⟨clock.readings + 1⟩)

instance : Clock (Ticking pace) := ⟨read⟩

lemma toNat_read (clock : Ticking pace) : clock.read.1.toNat = min (clock.readings / pace) (UInt64.size - 1) := by
  have hsize : UInt64.size = 18446744073709551616 := rfl
  simp only [read, UInt64.toNat_ofNat']
  generalize clock.readings / pace = tick
  omega

lemma nthReading_read (n : Nat) (clock : Ticking pace) :
    nthReading read n clock = (⟨clock.readings + n⟩ : Ticking pace).read.1 := by
  induction n generalizing clock with
  | zero => rfl
  | succ n ih =>
    rw [nthReading, ih]
    simp only [read, Nat.add_assoc, Nat.add_comm 1]

lemma paced (hpace : 0 < pace) : Paced (@read pace) pace where
  monotone clock := by
    rw [UInt64.le_iff_toNat_le, toNat_read, toNat_read]
    have hdiv : clock.readings / pace ≤ (clock.readings + 1) / pace := Nat.div_le_div_right (Nat.le_succ _)
    simp only [read]
    omega
  gains clock := by
    rw [nthReading_read, toNat_read, toNat_read, Nat.add_div_right _ hpace]
    omega

end Ticking

section Sessions

variable {W C Q : Type} [Fabric W C Q] [Clock W] {own : SessionKey → RequestId → Prop} {sends : Command → Prop}

omit [Fabric W C Q] in
lemma Channel.Step.waiting [QueuePairs W Q] {own : RequestId → Prop} {before after : Channel Q × W}
    (h : Channel.Step own sends before after) : ReflTransGen (Waiting Q) before.2 after.2 := by
  cases h with
  | now channel world => exact .single (.now world)
  | submit channel world => exact .single (.untimed (channel.submit_untimed _ _ world))
  | submitDetached channel world => exact .single (.untimed (channel.submitDetached_untimed _ world))
  | reap channel world => exact .single (.untimed (channel.reap_untimed world))
  | take => exact .refl
  | abandon => exact .refl

lemma Session.Errands.waiting {before after : Session C Q × W} (h : Session.Errands own sends before after) :
    ReflTransGen (Waiting Q) before.2 after.2 := by
  induction h with
  | refl => exact .refl
  | tail _ herrand ih =>
    refine ih.trans ?_
    cases herrand with
    | now session world => exact .single (.now world)
    | admin h => exact h.waiting
    | io _ h => exact h.waiting
    | learn => exact .refl

namespace Session

variable {session : Session C Q} {world : W} {config : Config}

lemma executeIo_ne_exhausted {budget : Nat} {deadline : Tick} (hclock : ComesWithin Q deadline budget world)
    (request : RequestId) (command : Command) :
    (session.executeIo budget deadline request command world).1 ≠ .error .pollsExhausted :=
  executeIo_ne_error rfl (fun _ => nofun) fun io _ => io.execute_ne_exhausted request command hclock (Nat.le_refl budget)

/-- A range is permitted in time, and then its command is waited for in a world that has only waited. -/
lemma permitted_ne_exhausted {α : Type} (htimely : Timely Q config world) (last : RequestId) (range : BlockRange)
    (available : Nat) {action : RequestId → Session C Q → W → Except HostError α × Session C Q × W}
    (haction : ∀ request session later, ReflTransGen (Waiting Q) world later →
      (action request session later).1 ≠ .error .pollsExhausted) :
    (session.permitted config last range available action world).1 ≠ .error .pollsExhausted := by
  have herrands : Errands (fun _ _ => True) (fun _ => True) (session, world)
      (session.permit config last range available world).2.2 := session.permit_errands world config last range available
  have hadmin := htimely.runsOut world .refl config.adminTimeoutMs (by simp)
  refine permitted_ne_error (permit_ne_error rfl available ?_) (haction _ _ _ herrands.waiting)
  exact session.admin.execute_ne_exhausted _ _ hadmin (Nat.le_refl _)

end Session

end Sessions

namespace Host

variable {W C Q : Type} [Fabric W C Q] [Clock W] {host : Host C Q} {world : W}

section

omit [Fabric W C Q] [Clock W]

variable {α : Type} (key : SessionKey)

lemma onSession_ne_exhausted {missing : HostError} (hmissing : missing ≠ .pollsExhausted)
    {action : Session C Q → W → Except HostError α × Session C Q × W}
    (haction : ∀ session, (action session world).1 ≠ .error .pollsExhausted) :
    (host.onSession key missing action world).1 ≠ .error .pollsExhausted := by
  unfold onSession
  split
  · exact fun h => hmissing (Except.error.inj h)
  · exact haction _

lemma onLive_ne_exhausted
    {action : RequestId → Session C Q → W → Except HostError α × RequestId × Session C Q × W}
    (haction : ∀ session, (action host.lastRequest session world).1 ≠ .error .pollsExhausted) :
    (host.onLive key action world).1 ≠ .error .pollsExhausted := by
  unfold onLive
  split
  · nofun
  · split
    · exact haction _
    · nofun

end

lemma connect_ne_exhausted (command : ConnectCommand) (defaults : HostDefaults) :
    (host.connect command defaults world).1 ≠ .error .pollsExhausted := by
  rcases host.connect_cases command defaults world with
    ⟨error, hother, heq⟩ | ⟨plan, hroom, ⟨error, world', hfail, heq⟩ | ⟨association, world', -, heq⟩⟩
  · rw [heq]
    exact hother.ne_exhausted
  · rw [heq]
    exact (handshake_error (congrArg Prod.fst hfail)).ne_exhausted
  · rw [heq]
    rcases register_cases hroom plan association world' with
      ⟨_, _, _, -, hreg⟩ | ⟨_, _, _, -, ⟨-, hreg⟩ | ⟨_, _, -, -, hreg⟩⟩
    all_goals
      rw [hreg]
      nofun

lemma connectAttempt_ne_exhausted (attempt : Attempt) (defaults : HostDefaults) :
    (host.connectAttempt attempt defaults world).1 ≠ .error .pollsExhausted := by
  obtain ⟨world', -, ⟨error, hother, heq⟩ | ⟨command, heq⟩⟩ := host.connectAttempt_cases attempt defaults world
  · rw [heq]
    exact hother.ne_exhausted
  · rw [heq]
    exact host.connect_ne_exhausted command defaults

omit [Clock W] in
lemma disconnect_ne_exhausted (key : SessionKey) : (host.disconnect key world).1 ≠ .error .pollsExhausted := by
  unfold disconnect
  split <;> nofun

omit [Clock W] in
lemma reset_ne_exhausted (key : SessionKey) : (host.reset key world).1 ≠ .error .pollsExhausted := by
  refine onSession_ne_exhausted key (by simp) fun session => ?_
  unfold Session.reset
  split <;> nofun

omit [Clock W] in
lemma reestablish_ne_exhausted (key : SessionKey) : (host.reestablish key world).1 ≠ .error .pollsExhausted := by
  refine onSession_ne_exhausted key (by simp) fun session => ?_
  unfold Session.reestablish
  split
  · nofun
  · split <;> nofun
  · nofun
  · nofun

omit [Clock W] in
lemma poll_ne_exhausted (handle : RequestHandle) : (host.poll handle world).1 ≠ .error .pollsExhausted := by
  have hlive : (host.onLive handle.session
      (fun last session world => ((session.pollIo handle.request world).1, last, (session.pollIo handle.request world).2))
      world).1 ≠ .error .pollsExhausted :=
    onLive_ne_exhausted handle.session fun session => Session.pollIo_ne_error rfl handle.request
  exact map_ne_error hlive

omit [Fabric W C Q] [Clock W] in
lemma abandon_ne_exhausted (handle : RequestHandle) : (host.abandon handle).1 ≠ .error .pollsExhausted := by
  unfold abandon
  split
  · nofun
  · exact Session.abandonIo_ne_error rfl handle.request

section

variable (htimely : Timely Q host.config world) (key : SessionKey)
include htimely

/-- A read or a write that waits: its deadline counts from the first reading. -/
lemma waiting_ne_exhausted {α : Type} (range : BlockRange) (available : Nat)
    {action : RequestId → Session C Q → W → Except HostError α × Session C Q × W}
    (haction : ∀ request session later, ComesWithin Q (Tick.after (Clock.now world).1 host.config.ioTimeoutMs)
      host.config.pollBudget later → (action request session later).1 ≠ .error .pollsExhausted) :
    (host.onLive key (fun last session => session.permitted host.config last range available action)
      (Clock.now world).2).1 ≠ .error .pollsExhausted := by
  have hnow : Timely Q host.config (Clock.now world).2 := htimely.waited (.single (.now world))
  have hdeadline := htimely.runsOut world .refl host.config.ioTimeoutMs (by simp)
  refine onLive_ne_exhausted key fun session => ?_
  exact Session.permitted_ne_exhausted hnow _ range available fun request session later hwaited =>
    haction request session later (hdeadline.waited hnow hwaited)

lemma read_ne_exhausted (range : BlockRange) (buffer : Bytes) :
    (host.read key range buffer world).1 ≠ .error .pollsExhausted := by
  rw [read_eq_permitted]
  refine waiting_ne_exhausted htimely key range buffer.length fun request session later hdeadline => ?_
  exact Session.readPermitted_ne_error rfl buffer (Session.executeIo_ne_exhausted hdeadline _ _)

lemma write_ne_exhausted (range : BlockRange) (data : Bytes) :
    (host.write key range data world).1 ≠ .error .pollsExhausted := by
  rw [write_eq_permitted]
  refine waiting_ne_exhausted htimely key range data.length fun request session later hdeadline => ?_
  exact map_ne_error (Session.executeIo_ne_exhausted hdeadline _ _)

/-- A submission waits for nothing but an identify. -/
lemma submitting_ne_exhausted (range : BlockRange) (available : Nat) (command : Command) :
    (host.onLive key (fun last session => session.permitted host.config last range available
      (Session.submitPermitted command)) world).1 ≠ .error .pollsExhausted := by
  refine onLive_ne_exhausted key fun session => ?_
  refine Session.permitted_ne_exhausted htimely _ range available fun request session later _ => ?_
  exact map_ne_error (Session.submitIo_ne_error rfl (by simp) request command)

lemma submitRead_ne_exhausted (range : BlockRange) :
    (host.submitRead key range world).1 ≠ .error .pollsExhausted := by
  rw [submitRead_eq_permitted]
  exact map_ne_error (submitting_ne_exhausted htimely key range range.length _)

lemma submitWrite_ne_exhausted (range : BlockRange) (data : Bytes) :
    (host.submitWrite key range data world).1 ≠ .error .pollsExhausted := by
  rw [submitWrite_eq_permitted]
  exact map_ne_error (submitting_ne_exhausted htimely key range data.length _)

lemma identify_ne_exhausted (nsid : UInt32) : (host.identify key nsid world).1 ≠ .error .pollsExhausted := by
  have hadmin := htimely.runsOut world .refl host.config.adminTimeoutMs (by simp)
  refine onSession_ne_exhausted key (by simp) fun session => ?_
  have hcheck : session.checkNamespace nsid ≠ .error .pollsExhausted := Session.checkNamespace_ne_error rfl session nsid
  split
  · nofun
  · split
    · exact map_ne_error (Session.identifyController_ne_error rfl
        (session.admin.execute_ne_exhausted _ _ hadmin (Nat.le_refl _)))
    · split
      · rename_i heq
        rw [heq] at hcheck
        simpa using hcheck
      · exact map_ne_error (Session.identifyNamespace_ne_error rfl
          (session.admin.execute_ne_exhausted _ _ hadmin (Nat.le_refl _)))

/-- While time goes on, no call is answered that its polls are used up. -/
theorem perform_ne_exhausted (call : HostCall) : (host.perform call world).1.error? ≠ some .pollsExhausted := by
  cases call with
  | connect command defaults =>
    exact mt (HostAnswer.error?_eq_some_iff .connected (fun _ => rfl) fun _ => rfl).mp
      (connect_ne_exhausted command defaults)
  | connectAttempt attempt defaults =>
    exact mt (HostAnswer.error?_eq_some_iff .connected (fun _ => rfl) fun _ => rfl).mp
      (connectAttempt_ne_exhausted attempt defaults)
  | disconnect key =>
    exact mt (HostAnswer.error?_eq_some_iff .done (fun _ => rfl) fun _ => rfl).mp (disconnect_ne_exhausted key)
  | disconnectAll => nofun
  | reset key =>
    exact mt (HostAnswer.error?_eq_some_iff .done (fun _ => rfl) fun _ => rfl).mp (reset_ne_exhausted key)
  | reestablish key =>
    exact mt (HostAnswer.error?_eq_some_iff .done (fun _ => rfl) fun _ => rfl).mp (reestablish_ne_exhausted key)
  | read key range buffer =>
    exact mt (HostAnswer.error?_eq_some_iff .data (fun _ => rfl) fun _ => rfl).mp
      (read_ne_exhausted htimely key range buffer)
  | write key range data =>
    exact mt (HostAnswer.error?_eq_some_iff .done (fun _ => rfl) fun _ => rfl).mp
      (write_ne_exhausted htimely key range data)
  | submitRead key range =>
    exact mt (HostAnswer.error?_eq_some_iff .submitted (fun _ => rfl) fun _ => rfl).mp
      (submitRead_ne_exhausted htimely key range)
  | submitWrite key range data =>
    exact mt (HostAnswer.error?_eq_some_iff .submitted (fun _ => rfl) fun _ => rfl).mp
      (submitWrite_ne_exhausted htimely key range data)
  | poll handle =>
    exact mt (HostAnswer.error?_eq_some_iff .polled (fun _ => rfl) fun _ => rfl).mp (poll_ne_exhausted handle)
  | abandon handle =>
    exact mt (HostAnswer.error?_eq_some_iff .done (fun _ => rfl) fun _ => rfl).mp (abandon_ne_exhausted handle)
  | identify key nsid =>
    exact mt (HostAnswer.error?_eq_some_iff .identified (fun _ => rfl) fun _ => rfl).mp
      (identify_ne_exhausted htimely key nsid)
  | tick => nofun
  | tickAt now => nofun

end

/-- A host on a simulated network, beside a clock that shows no tick too often for the budget, is never told so. -/
theorem perform_ne_exhausted_ticking {pace : Nat} (hpace : 0 < pace) (host : Host LoopbackController LoopbackQueue)
    (hbudget : ∀ timeout ∈ [host.config.ioTimeoutMs, host.config.adminTimeoutMs],
      pace * timeout.toNat < host.config.pollBudget) (world : Clocked Loopback (Ticking pace)) (call : HostCall) :
    (host.perform call world).1.error? ≠ some .pollsExhausted := by
  refine perform_ne_exhausted ?_ call
  refine Timely.of_paced Ticking.read Clocked.clock (fun _ => rfl) ?_ (Ticking.paced hpace) hbudget world
  rintro world later (_ | _) <;> rfl

example : 10 ^ 14 * ({} : Config).ioTimeoutMs.toNat < ({} : Config).pollBudget ∧
    10 ^ 14 * ({} : Config).adminTimeoutMs.toNat < ({} : Config).pollBudget := by decide

end Host

end FabricHost
