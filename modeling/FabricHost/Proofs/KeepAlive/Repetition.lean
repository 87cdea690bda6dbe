import FabricHost.Proofs.KeepAlive.Spacing
import FabricHost.Proofs.Requests.Lifecycle

/-!
# Two passes at one tick

A pass that sends a keep-alive moves the deadline behind its tick, so that a second pass at the same tick leaves the
session alone. There is no tick behind the last one: there the deadline stays, it has come already, and every pass sends
again.
-/

namespace FabricHost

/-- Only behind the last tick there is no other. -/
lemma Tick.after_le_iff {t span : Tick} (h : span ≠ 0) : after t span ≤ t ↔ t = last := by
  have hpos : span.toNat ≠ 0 := fun hzero => h (UInt64.toNat_inj.mp hzero)
  have hlt := t.toNat_lt_size
  have hlast : last.toNat = UInt64.size - 1 := rfl
  rw [UInt64.le_iff_toNat_le, toNat_after, ← UInt64.toNat_inj, hlast]
  omega

lemma Config.keepAliveInterval_ne_zero (config : Config) : config.keepAliveInterval ≠ 0 := by
  have hmax : config.keepAliveInterval =
      if config.keepAliveTimeoutMs / 2 ≤ 1 then 1 else config.keepAliveTimeoutMs / 2 := rfl
  rw [hmax]
  split
  · decide
  · rename_i hlarge
    intro hzero
    rw [hzero] at hlarge
    exact hlarge (by decide)

namespace KeepAliveTimer.Passed

variable {now : Tick} {timer timer' timer'' : KeepAliveTimer} {first second : List Bool}

lemma count_le_one (h : timer.Passed now first timer') : first.count true ≤ 1 := by
  cases h <;> decide

/-- A second pass hands out no keep-alive exactly if there is a tick left to move the deadline to. -/
lemma spares_iff (hspan : timer.interval ≠ 0) (h : timer.Passed now first timer')
    (h' : timer'.Passed now second timer'') (hsent : true ∈ first) : second = [] ↔ now ≠ Tick.last := by
  cases h with
  | early => cases hsent
  | refused => simp at hsent
  | sent =>
    -- The second pass is early exactly if the deadline that the first one left lies behind its tick.
    have hdeadline : (timer.sent now).deadline ≤ now ↔ now = Tick.last := Tick.after_le_iff hspan
    cases h' with
    | early hearly =>
      rw [ne_eq, ← hdeadline, UInt64.not_le]
      exact iff_of_true rfl hearly
    | sent hdue => simp [hdeadline.mp hdue]
    | refused hdue => simp [hdeadline.mp hdue]

lemma count_append_le_one (hspan : timer.interval ≠ 0) (h : timer.Passed now first timer')
    (h' : timer'.Passed now second timer'') (hnow : now ≠ Tick.last) : (first ++ second).count true ≤ 1 := by
  rw [List.count_append]
  by_cases hsent : true ∈ first
  · rw [(h.spares_iff hspan h' hsent).mpr hnow]
    exact h.count_le_one
  · rw [List.count_eq_zero_of_not_mem hsent, Nat.zero_add]
    exact h'.count_le_one

end KeepAliveTimer.Passed

variable {W C Q : Type} [Fabric W C Q] [Clock W]

/-- After any run, of two passes in a row at one tick the second hands nothing to a session to which the first sent a
keep-alive, exactly if the tick is not the last. Then a session gets at most one keep-alive of both passes together. -/
theorem second_pass_spares_iff (config : Config) (world : W) (calls : List (HostCall × (W → W))) :
    let story := (Host.ofConfig config : Host C (Numbered Q)).story ({ world } : Seen W) calls
    let host := story.2.1
    (Host.ofConfig config : Host C Q).run world calls =
        story.map (List.map Episode.entry) (Prod.map (Seen.plain W C Q).host Seen.world) ∧
      (host.registry.sessions.map (·.admin.queue.number)).Nodup ∧
      ∀ (call call' : HostCall) (world' world'' : W) (now : Tick),
        call.tick? world' = some now → call'.tick? world'' = some now →
          let first := host.perform call (story.2.2.begin fun _ => world')
          let second := first.2.1.perform call' (first.2.2.begin fun _ => world'')
          ∀ session ∈ host.registry.sessions,
            let sent := Sight.keepAlives session.admin.queue.number first.2.2.sights
            let again := Sight.keepAlives session.admin.queue.number second.2.2.sights
            (true ∈ sent → (again = [] ↔ now ≠ Tick.last)) ∧ (now ≠ Tick.last → (sent ++ again).count true ≤ 1) := by
  intro story host
  have h : Spaced config story.1 host story.2.2 := (Spaced.start config world).story calls
  refine ⟨Host.run_plain config world calls, h.distinct, fun call call' world' world'' now htick htick' => ?_⟩
  intro first second session hmem
  have hbetween := h.perform call fun _ => world'
  have hfirst := (Host.perform_passed h.accepts_admin h.distinct rfl
    ((call.tick?_begin story.2.2 world').trans htick)).2.2.2
  have hsecond := (Host.perform_passed hbetween.accepts_admin hbetween.distinct rfl
    ((call'.tick?_begin first.2.2 world'').trans htick')).2.2.2
  obtain ⟨session', hmem', hnumber, hpassed⟩ := exists_of_forall₂_of_mem hfirst.flip hmem
  obtain ⟨session'', -, -, hpassed'⟩ := exists_of_forall₂_of_mem hsecond.flip hmem'
  rw [hnumber] at hpassed'
  have hspan : session.keepAlive.interval ≠ 0 := by
    rw [show session.keepAlive.interval = config.keepAliveInterval from (h.timed session hmem).interval]
    exact config.keepAliveInterval_ne_zero
  exact ⟨hpassed.spares_iff hspan hpassed', hpassed.count_append_le_one hspan hpassed'⟩

/-- A host with one session, whose first keep-alive is due at tick 5000. -/
def Simulation.connected : List Episode × Host LoopbackController (Numbered LoopbackQueue) × Seen Simulation :=
  (Host.ofConfig {}).story { world := Simulation.single } [(Simulation.connectSingle, id)]

/-- That host after a pass at a tick. -/
def Simulation.passed (now : Tick) : HostAnswer × Host LoopbackController (Numbered LoopbackQueue) × Seen Simulation :=
  Simulation.connected.2.1.perform (.tickAt now) (Simulation.connected.2.2.begin id)

/-- That host after a second pass at the same tick. -/
def Simulation.passedAgain (now : Tick) :
    HostAnswer × Host LoopbackController (Numbered LoopbackQueue) × Seen Simulation :=
  (Simulation.passed now).2.1.perform (.tickAt now) ((Simulation.passed now).2.2.begin id)

/-- At tick 5000 the first of two passes sends a keep-alive and the second none. -/
theorem second_pass_spares_simulated :
    (5000 : Tick) ≠ Tick.last ∧ Sight.keepAlives 0 (Simulation.passed 5000).2.2.sights = [true] ∧
      Sight.keepAlives 0 (Simulation.passedAgain 5000).2.2.sights = [] := by
  have hnow : (5000 : Tick) ≠ Tick.last := by decide
  obtain ⟨hsession, hsent⟩ : Simulation.connected.2.1.registry.sessions.map (·.admin.queue.number) = [0] ∧
      Sight.keepAlives 0 (Simulation.passed 5000).2.2.sights = [true] := by decide +kernel
  obtain ⟨session, hmem, hnumber⟩ := List.mem_map.mp (hsession ▸ List.mem_singleton_self 0)
  obtain ⟨-, -, hpasses⟩ := second_pass_spares_iff {} Simulation.single [(Simulation.connectSingle, id)]
  have hspares := (hpasses (.tickAt 5000) (.tickAt 5000) Simulation.connected.2.2.world
    (Simulation.passed 5000).2.2.world 5000 rfl rfl session hmem).1
  rw [hnumber] at hspares
  exact ⟨hnow, hsent, (hspares (hsent ▸ List.mem_singleton_self true)).mpr hnow⟩

/-- At the last tick both of two passes send a keep-alive to the one session, whose interval is 5000 ticks. -/
theorem resent_at_last_tick :
    Simulation.connected.2.1.registry.sessions.map (fun session =>
        (session.admin.queue.number, session.keepAlive.interval)) = [(0, 5000)] ∧
      Sight.keepAlives 0 (Simulation.passed Tick.last).2.2.sights = [true] ∧
      Sight.keepAlives 0 (Simulation.passedAgain Tick.last).2.2.sights = [true] ∧
      (Simulation.passedAgain Tick.last).2.2.world.net.stats.keepAlives = 2 := by decide +kernel

end FabricHost
