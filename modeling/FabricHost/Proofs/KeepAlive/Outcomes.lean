import FabricHost.Proofs.KeepAlive.Noted
import FabricHost.Proofs.KeepAlive.Spacing

/-!
# Outcomes of keep-alive passes

What a pass makes of a session follows from the session and from what its own admin queue pair answers, whatever the other
ones answer. So a whole pass is one `SessionPass` for each session, in their order, and its report counts these.
-/

namespace FabricHost

/-- Whether a keep-alive was accepted. -/
def QueueNote.isBeat : QueueNote → Bool
  | .submitted _ .keepAlive (.ok _) => true
  | _ => false

/-- The tracker after a reap. One that fails leaves it as it is. -/
def Tracker.reaped (tracker : Tracker) : Except TransportFailure (List Completion) → Tracker
  | .ok completions => tracker.absorb completions
  | .error _ => tracker

/-- The tracker after a command was handed over for nobody. -/
def Tracker.handed (tracker : Tracker) : Except SubmitError CommandId → Tracker
  | .ok id => tracker.detached id
  | .error _ => tracker

/-- The pass at a tick over one session: what its admin queue pair answers when it is reaped, and when it is handed the
keep-alive that is due, if one is. -/
structure SessionPass (C Q : Type) (now : Tick) where
  session : Session C (Numbered Q)
  reaped : Except TransportFailure (List Completion)
  handed : Option (Except SubmitError CommandId)
  /-- The admin queue pair as it is left. -/
  queue : Numbered Q
  same : queue.number = session.admin.queue.number
  due : handed.isSome = session.keepAlive.isDue now

namespace SessionPass

variable {C Q : Type} {now : Tick} (pass : SessionPass C Q now)

/-- All that the admin queue pair is asked to do. -/
def notes : List QueueNote :=
  .processed pass.session.admin.queue.number 0 pass.reaped ::
    pass.handed.toList.map (.submitted pass.session.admin.queue.number .keepAlive)

def tracker : Tracker := pass.handed.elim (pass.session.admin.tracker.reaped pass.reaped) fun answer =>
  (pass.session.admin.tracker.reaped pass.reaped).handed answer

def timer : KeepAliveTimer :=
  match pass.handed with
  | none => pass.session.keepAlive
  | some (.ok _) => pass.session.keepAlive.sent now
  | some (.error _) => pass.session.keepAlive.skipped

/-- The session after the pass. -/
def after : Session C (Numbered Q) :=
  { pass.session with admin := { queue := pass.queue, tracker := pass.tracker }, keepAlive := pass.timer }

def outcome : KeepAliveOutcome :=
  match pass.handed with
  | none => .notDue
  | some (.ok _) => .sent
  | some (.error _) => .skipped

lemma after_notDue (h : pass.handed = none) : pass.after.keepAlive = pass.session.keepAlive := by
  simp only [after, timer, h]

lemma after_sent {id : CommandId} (h : pass.handed = some (.ok id)) : pass.after.keepAlive.skips = 0 := by
  simp only [after, timer, h]
  rfl

/-- Skips are counted up to the largest count. -/
lemma after_skipped {error : SubmitError} (h : pass.handed = some (.error error))
    (hroom : pass.session.keepAlive.skips.toNat < UInt32.size - 1) :
    pass.after.keepAlive.skips.toNat = pass.session.keepAlive.skips.toNat + 1 := by
  have hsize : UInt32.size = 4294967296 := rfl
  simp only [after, timer, h, KeepAliveTimer.skipped, UInt32.toNat_add, UInt32.toNat_one]
  omega

lemma add_sent (report : KeepAliveReport) :
    (report.add pass.outcome).sent = report.sent + pass.notes.countP QueueNote.isBeat := by
  unfold outcome notes
  rcases pass.handed with _ | _ | _ <;> rfl

lemma add_due (report : KeepAliveReport) :
    (report.add pass.outcome).sent + (report.add pass.outcome).skipped =
      report.sent + report.skipped + (pass.session.keepAlive.isDue now).toNat := by
  rw [← pass.due]
  unfold outcome
  rcases pass.handed with _ | _ | _
  · rfl
  · rfl
  · exact Nat.add_right_comm _ 1 _

end SessionPass

variable {W C Q : Type} [Fabric W C Q] [Clock W]

namespace Channel

variable (channel : Channel (Numbered Q)) (noted : Noted (Seen W))

omit [Clock W] in
lemma reap_noted : ∃ answer queue world, queue.number = channel.queue.number ∧
    channel.reap noted = (answer.map List.length, { queue, tracker := channel.tracker.reaped answer },
      { world, notes := noted.notes ++ [.processed channel.queue.number 0 answer] }) := by
  simp only [reap, QueuePairs.process]
  rcases QueuePairs.process channel.queue.handle 0 noted.world.world with ⟨failure | completions, handle, world⟩
  · exact ⟨.error failure, ⟨channel.queue.number, handle⟩, _, rfl, rfl⟩
  · exact ⟨.ok completions, ⟨channel.queue.number, handle⟩, _, rfl, rfl⟩

omit [Clock W] in
lemma submitDetached_noted (command : Command) : ∃ answer queue world, queue.number = channel.queue.number ∧
    channel.submitDetached command noted =
      (answer.map fun _ => (), { queue, tracker := channel.tracker.handed answer },
        { world, notes := noted.notes ++ [.submitted channel.queue.number command answer] }) := by
  simp only [submitDetached, QueuePairs.submit]
  rcases QueuePairs.submit channel.queue.handle command noted.world.world with ⟨error | id, handle, world⟩
  · exact ⟨.error error, ⟨channel.queue.number, handle⟩, _, rfl, rfl⟩
  · exact ⟨.ok id, ⟨channel.queue.number, handle⟩, _, rfl, rfl⟩

end Channel

omit [Clock W] in
/-- The pass over one session. -/
lemma Session.keepAlivePass_noted (session : Session C (Numbered Q)) (hadmin : session.state.acceptsAdmin = true)
    (now : Tick) (noted : Noted (Seen W)) :
    let result := session.keepAlivePass now noted
    ∃ pass : SessionPass C Q now, pass.session = session ∧ result.1 = pass.outcome ∧ result.2.1 = pass.after ∧
      result.2.2.notes = noted.notes ++ pass.notes := by
  obtain ⟨reaped, queue, world, hqueue, hreap⟩ := session.admin.reap_noted noted
  simp only [keepAlivePass, hadmin, Bool.not_true, Bool.false_eq_true, if_false, hreap]
  cases hdue : session.keepAlive.isDue now with
  | false => exact ⟨⟨session, reaped, none, queue, hqueue, hdue.symm⟩, rfl, rfl, rfl, rfl⟩
  | true =>
    obtain ⟨answer, queue', world', hqueue', hsubmit⟩ :=
      Channel.submitDetached_noted { queue, tracker := session.admin.tracker.reaped reaped }
        { world, notes := noted.notes ++ [.processed session.admin.queue.number 0 reaped] } .keepAlive
    refine ⟨⟨session, reaped, some answer, queue', hqueue'.trans hqueue, hdue.symm⟩, rfl, ?_⟩
    rw [hqueue, List.append_assoc] at hsubmit
    cases answer <;> simp only [hsubmit, Bool.not_true, Bool.false_eq_true, if_false] <;> exact ⟨rfl, rfl, rfl⟩

namespace Host

omit [Clock W] in
lemma keepAlivePass_noted (now : Tick) (sessions : List (Session C (Numbered Q)))
    (hadmin : ∀ session ∈ sessions, session.state.acceptsAdmin = true) (report : KeepAliveReport)
    (noted : Noted (Seen W)) :
    let result := keepAlivePass now sessions report noted
    ∃ passes : List (SessionPass C Q now), passes.map SessionPass.session = sessions ∧
      result.2.1 = passes.map SessionPass.after ∧
      result.2.2.notes = noted.notes ++ passes.flatMap SessionPass.notes ∧
      result.1.sent = report.sent + (passes.flatMap SessionPass.notes).countP QueueNote.isBeat ∧
      result.1.sent + result.1.skipped =
        report.sent + report.skipped + sessions.countP (·.keepAlive.isDue now) := by
  induction sessions generalizing report noted with
  | nil => exact ⟨[], rfl, rfl, (List.append_nil _).symm, rfl, rfl⟩
  | cons session rest ih =>
    obtain ⟨pass, rfl, houtcome, hafter, hnotes⟩ :=
      session.keepAlivePass_noted (hadmin session List.mem_cons_self) now noted
    obtain ⟨passes, hsessions, hafters, hall, hsent, hdue⟩ :=
      ih (fun other hother => hadmin other (List.mem_cons_of_mem _ hother)) (report.add pass.outcome)
        (pass.session.keepAlivePass now noted).2.2
    simp only [keepAlivePass, houtcome]
    refine ⟨pass :: passes, congrArg _ hsessions, congrArg₂ _ hafter hafters, ?_, ?_, ?_⟩
    · rw [hall, hnotes, List.append_assoc, List.flatMap_cons]
    · rw [hsent, pass.add_sent, List.flatMap_cons, List.countP_append, Nat.add_assoc]
    · rw [hdue, pass.add_due, List.countP_cons]
      cases pass.session.keepAlive.isDue now
      · rfl
      · exact Nat.add_right_comm _ 1 _

variable {host : Host C (Numbered Q)} (hadmin : ∀ session ∈ host.registry.sessions, session.state.acceptsAdmin = true)
include hadmin

omit [Clock W] in
lemma tickAt_noted (now : Tick) (seen : Seen W) :
    let result := host.tickAt now ({ world := seen } : Noted (Seen W))
    ∃ passes : List (SessionPass C Q now), passes.map SessionPass.session = host.registry.sessions ∧
      result.2.2.notes = passes.flatMap SessionPass.notes ∧
      result.2.1 = { host with registry := { host.registry with sessions := passes.map SessionPass.after } } ∧
      result.1.sent = result.2.2.notes.countP QueueNote.isBeat ∧
      result.1.sent + result.1.skipped = host.registry.sessions.countP (·.keepAlive.isDue now) := by
  obtain ⟨passes, hsessions, hafter, hnotes, hsent, hdue⟩ :=
    keepAlivePass_noted now host.registry.sessions hadmin {} ({ world := seen } : Noted (Seen W))
  rw [List.nil_append] at hnotes
  rw [← hnotes] at hsent
  refine ⟨passes, hsessions, hnotes, ?_, hsent.trans (Nat.zero_add _), hdue.trans (Nat.zero_add _)⟩
  exact congrArg (fun sessions => { host with registry := { host.registry with sessions } }) hafter

/-- A call with a tick is a pass over all sessions. -/
lemma perform_noted {call : HostCall} {seen : Seen W} {now : Tick} (htick : call.tick? seen = some now) :
    let result := host.perform call ({ world := seen } : Noted (Seen W))
    ∃ passes : List (SessionPass C Q now), passes.map SessionPass.session = host.registry.sessions ∧
      result.2.2.notes = passes.flatMap SessionPass.notes ∧
      result.2.1 = { host with registry := { host.registry with sessions := passes.map SessionPass.after } } ∧
      ∃ report, result.1 = .passed report ∧ report.sent = result.2.2.notes.countP QueueNote.isBeat ∧
        report.sent + report.skipped = host.registry.sessions.countP (·.keepAlive.isDue now) := by
  cases call with
  | tick =>
    cases htick
    obtain ⟨passes, hsessions, hnotes, hhost, hreport⟩ := tickAt_noted hadmin _ (Clock.now seen).2
    exact ⟨passes, hsessions, hnotes, hhost, _, rfl, hreport⟩
  | tickAt =>
    cases htick
    obtain ⟨passes, hsessions, hnotes, hhost, hreport⟩ := tickAt_noted hadmin now seen
    exact ⟨passes, hsessions, hnotes, hhost, _, rfl, hreport⟩
  | _ => cases htick

end Host

/-- After any run, a call with a tick is a pass over all sessions in their order. Each admin queue pair is reaped once and
then handed one keep-alive if the session is due, and none else; what becomes of a session depends on it and these answers
alone, in its admin channel and its timer, and nothing else of the host changes. The report counts the keep-alives that were
accepted and, with those that were not, the sessions that were due. -/
theorem keep_alive_pass (config : Config) (world : W) (calls : List (HostCall × (W → W))) :
    let story := (Host.ofConfig config : Host C (Numbered Q)).story ({ world } : Seen W) calls
    let host := story.2.1
    (Host.ofConfig config : Host C Q).run world calls =
        story.map (List.map Episode.entry) (Prod.map (Seen.plain W C Q).host Seen.world) ∧
      (host.registry.sessions.map (·.admin.queue.number)).Nodup ∧
      ∀ (call : HostCall) (now : W) (tick : Tick), call.tick? now = some tick →
        let begun := story.2.2.begin fun _ => now
        let next := host.perform call ({ world := begun } : Noted (Seen W))
        host.perform call begun = next.map id (Prod.map id Noted.world) ∧
          ∃ passes : List (SessionPass C Q tick), passes.map SessionPass.session = host.registry.sessions ∧
            next.2.2.notes = passes.flatMap SessionPass.notes ∧
            next.2.1 = { host with registry := { host.registry with sessions := passes.map SessionPass.after } } ∧
            (∃ report, next.1 = .passed report ∧ report.sent = next.2.2.notes.countP QueueNote.isBeat ∧
              report.sent + report.skipped = host.registry.sessions.countP (·.keepAlive.isDue tick)) ∧
            ∀ pass ∈ passes,
              (pass.handed = none → pass.after.keepAlive = pass.session.keepAlive) ∧
              (∀ id, pass.handed = some (.ok id) → pass.after.keepAlive.skips = 0) ∧
              ∀ error, pass.handed = some (.error error) → pass.session.keepAlive.skips.toNat < UInt32.size - 1 →
                pass.after.keepAlive.skips.toNat = pass.session.keepAlive.skips.toNat + 1 := by
  intro story host
  have h : Spaced config story.1 host story.2.2 := (Spaced.start config world).story calls
  refine ⟨Host.run_plain config world calls, h.distinct, fun call now tick htick => ?_⟩
  have hsame : call.tick? (story.2.2.begin fun _ => now) = some tick := (call.tick?_begin story.2.2 now).trans htick
  obtain ⟨passes, hsessions, hnotes, hhost, hreport⟩ := Host.perform_noted h.accepts_admin hsame
  refine ⟨Noted.perform_plain host call { world := story.2.2.begin fun _ => now }, passes, hsessions, hnotes, hhost,
    hreport, fun pass _ => ?_⟩
  exact ⟨pass.after_notDue, fun _ => pass.after_sent, fun _ => pass.after_skipped⟩

end FabricHost
