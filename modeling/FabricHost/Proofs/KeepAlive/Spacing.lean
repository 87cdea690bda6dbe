import FabricHost.Proofs.KeepAlive.Connecting
import FabricHost.Proofs.KeepAlive.Timers

/-!
# Spacing of keep-alives

Over whole runs, whatever the ticks are, keep-alives to one controller come at least an interval after its connect and
after one another. Only ticks send them, deadlines never go back, and a deadline that has come is missed only if the admin
queue pair refuses the keep-alive.
-/

namespace FabricHost

open Episode

/-- Where a keep-alive was accepted, it was one and for a tick that is an interval after all signs of life before. -/
def Episode.WellSpaced (span : Tick) (earlier : List Episode) (episode : Episode) : Prop :=
  ∀ admin, true ∈ Sight.keepAlives admin episode.sights →
    Sight.keepAlives admin episode.sights = [true] ∧ ∃ tick connect, episode.tick = some tick ∧
      connectedAt admin earlier = [connect] ∧
        ∀ sign ∈ connect :: beatsAt admin earlier, min (sign.toNat + span.toNat) (UInt64.size - 1) ≤ tick.toNat

lemma Episode.wellSpaced_of_none {span : Tick} {earlier : List Episode} {episode : Episode}
    (h : ∀ admin, Sight.keepAlives admin episode.sights = []) : episode.WellSpaced span earlier := by
  intro admin hmem
  rw [h admin] at hmem
  exact (List.not_mem_nil hmem).elim

lemma exists_of_forall₂_of_mem {α β : Type} {R : α → β → Prop} {first : List α} {second : List β}
    (h : List.Forall₂ R first second) {b : β} (hb : b ∈ second) : ∃ a ∈ first, R a b := by
  induction h with
  | nil => exact (List.not_mem_nil hb).elim
  | cons hhead _ ih =>
    rcases List.mem_cons.mp hb with rfl | hb
    · exact ⟨_, List.mem_cons_self, hhead⟩
    · obtain ⟨a, ha, hab⟩ := ih hb
      exact ⟨a, List.mem_cons_of_mem _ ha, hab⟩

variable {W C Q : Type} [Fabric W C Q] [Clock W]

/-- What is known of a host after a story. -/
structure Spaced (config : Config) (episodes : List Episode) (host : Host C (Numbered Q)) (seen : Seen W) : Prop where
  sound : Host.Sound config (episodes.map Episode.entry) host
  config_eq : host.config = config
  numbered : ∀ session ∈ host.registry.sessions, session.admin.queue.number < seen.queues
  distinct : (host.registry.sessions.map (·.admin.queue.number)).Nodup
  fresh : ∀ admin, seen.queues ≤ admin → connectedAt admin episodes = [] ∧ beatsAt admin episodes = []
  timed : ∀ session ∈ host.registry.sessions, Timed config.keepAliveInterval episodes session.beat
  spaced : ∀ earlier episode later, episodes = earlier ++ episode :: later →
    episode.WellSpaced config.keepAliveInterval earlier

namespace Spaced

variable {config : Config} {episodes : List Episode} {host : Host C (Numbered Q)} {seen : Seen W} {episode : Episode}
  {after : Host C (Numbered Q) × Seen W}

omit [Fabric W C Q] [Clock W] in
lemma start (config : Config) (world : W) : Spaced config [] (Host.ofConfig config : Host C (Numbered Q)) { world } where
  sound := .start config
  config_eq := rfl
  numbered _ hmem := (List.not_mem_nil hmem).elim
  distinct := List.nodup_nil
  fresh _ _ := ⟨rfl, rfl⟩
  timed _ hmem := (List.not_mem_nil hmem).elim
  spaced earlier _ later h := (List.append_ne_nil_of_right_ne_nil earlier (List.cons_ne_nil _ later) h.symm).elim

variable (h : Spaced config episodes host seen) (sound : Host.Sound config ((episodes ++ [episode]).map Episode.entry) after.1)
include h

omit [Fabric W C Q] [Clock W] in
lemma accepts_admin : ∀ session ∈ host.registry.sessions, session.state.acceptsAdmin = true := by
  intro session hmem
  rcases h.sound.settled session hmem with ⟨hstate, -⟩ | ⟨hstate, -⟩ <;> rw [hstate] <;> rfl

include sound

omit [Fabric W C Q] [Clock W] in
/-- One episode more, with what is to be known of the sessions after it. -/
lemma extend (hconfig : after.1.config = host.config) (hqueues : seen.queues ≤ after.2.queues)
    (hsilent : ∀ admin, after.2.queues ≤ admin →
      .connected admin ∉ episode.sights ∧ true ∉ Sight.keepAlives admin episode.sights)
    (hsessions : ∀ session ∈ after.1.registry.sessions, session.admin.queue.number < after.2.queues ∧
      Timed config.keepAliveInterval (episodes ++ [episode]) session.beat)
    (hdistinct : (after.1.registry.sessions.map (·.admin.queue.number)).Nodup)
    (hspaced : episode.WellSpaced config.keepAliveInterval episodes) :
    Spaced config (episodes ++ [episode]) after.1 after.2 where
  sound := sound
  config_eq := hconfig.trans h.config_eq
  numbered session hmem := (hsessions session hmem).1
  distinct := hdistinct
  fresh admin hadmin := by
    obtain ⟨hconnected, hbeats⟩ := hsilent admin hadmin
    obtain ⟨hnone, hnone'⟩ := h.fresh admin (Nat.le_trans hqueues hadmin)
    exact ⟨(connectedAt_append_of_not_mem hconnected).trans hnone, (beatsAt_append_of_not_mem hbeats).trans hnone'⟩
  timed session hmem := (hsessions session hmem).2
  spaced earlier other later heq := by
    rcases List.eq_nil_or_concat later with rfl | ⟨later, last, rfl⟩
    · obtain ⟨rfl, hlast⟩ := List.append_inj' heq rfl
      cases hlast
      exact hspaced
    · rw [List.concat_eq_append, ← List.cons_append, ← List.append_assoc] at heq
      exact h.spaced earlier other later (List.append_inj' heq rfl).1

omit [Fabric W C Q] [Clock W] in
lemma quiet {change : W → W} (hquiet : Host.Quietly (host, seen.begin change) after)
    (hsights : episode.sights = after.2.sights) : Spaced config (episodes ++ [episode]) after.1 after.2 := by
  obtain ⟨new, hnew, hall⟩ := hquiet.seen.sights
  have hepisode : episode.sights = new := hsights.trans hnew
  have hconnected : ∀ admin, .connected admin ∉ episode.sights := by
    intro admin hmem
    have hquiet : (Sight.connected admin).IsQuiet := hall _ (hepisode ▸ hmem)
    exact hquiet
  have hnone : ∀ admin, Sight.keepAlives admin episode.sights = [] :=
    Sight.keepAlives_eq_nil_of_quiet (hepisode.symm ▸ hall)
  have hsilent : ∀ admin, true ∉ Sight.keepAlives admin episode.sights := fun admin => by
    rw [hnone admin]
    exact List.not_mem_nil
  have hmap : ∀ sessions : List (Session C (Numbered Q)),
      sessions.map (·.admin.queue.number) = (sessions.map Session.beat).map Prod.fst := fun sessions => by
    rw [List.map_map]
    rfl
  refine h.extend sound hquiet.config hquiet.seen.queues (fun admin _ => ⟨hconnected admin, hsilent admin⟩) ?_ ?_
    (wellSpaced_of_none hnone)
  · intro session hmem
    obtain ⟨old, hold, hbeat⟩ := List.mem_map.mp (hquiet.beats.subset (List.mem_map_of_mem hmem))
    rw [← hbeat]
    have hnumber : session.admin.queue.number = old.admin.queue.number := (congrArg Prod.fst hbeat).symm
    rw [hnumber]
    exact ⟨Nat.lt_of_lt_of_le (h.numbered old hold) hquiet.seen.queues,
      (h.timed old hold).unseen (hconnected _) (hsilent _)⟩
  · have hdistinct := h.distinct
    rw [hmap] at hdistinct ⊢
    exact hdistinct.sublist (hquiet.beats.map Prod.fst)

omit [Fabric W C Q] [Clock W] in
lemma connecting {change : W → W} (hconnecting : host.Connecting (seen.begin change) after)
    (hsights : episode.sights = after.2.sights) : Spaced config (episodes ++ [episode]) after.1 after.2 := by
  obtain ⟨hqueues, hnone, hconnected⟩ := hconnecting.sights rfl
  rw [← hsights] at hnone hconnected
  have hbeats : ∀ admin, true ∉ Sight.keepAlives admin episode.sights := fun admin => by
    rw [hnone admin]
    exact List.not_mem_nil
  have hsilent : ∀ admin, after.2.queues ≤ admin →
      .connected admin ∉ episode.sights ∧ true ∉ Sight.keepAlives admin episode.sights := by
    refine fun admin hadmin => ⟨fun hmem => ?_, hbeats admin⟩
    obtain ⟨rfl, hlt⟩ := hconnected admin hmem
    exact Nat.not_lt.mpr hadmin hlt
  have hold : ∀ session ∈ host.registry.sessions, session.admin.queue.number < after.2.queues ∧
      Timed config.keepAliveInterval (episodes ++ [episode]) session.beat := by
    intro session hmem
    have hnumber := h.numbered session hmem
    refine ⟨Nat.lt_of_lt_of_le hnumber hqueues, (h.timed session hmem).unseen (fun hseen => ?_) (hbeats _)⟩
    exact Nat.ne_of_lt hnumber (hconnected _ hseen).1
  cases hconnecting with
  | refused => exact h.extend sound rfl hqueues hsilent hold h.distinct (wellSpaced_of_none hnone)
  | failed => exact h.extend sound rfl hqueues hsilent hold h.distinct (wellSpaced_of_none hnone)
  | @opened _ session now hs hq hnumber htimer =>
    refine h.extend sound rfl hqueues hsilent (fun other hmem => ?_) ?_ (wellSpaced_of_none hnone)
    · rcases List.mem_append.mp hmem with hmem | hmem
      · exact hold other hmem
      · rw [List.mem_singleton.mp hmem]
        obtain ⟨hfresh, hfresh'⟩ := h.fresh seen.queues (Nat.le_refl _)
        have hbeat : session.beat = (seen.queues, KeepAliveTimer.start now config.keepAliveInterval) :=
          Prod.ext hnumber (h.config_eq ▸ htimer)
        rw [hbeat]
        exact ⟨hnumber ▸ hq, .opened hfresh hfresh' (hsights.trans hs)⟩
    · rw [List.map_append, List.nodup_append_comm]
      refine List.nodup_cons.mpr ⟨fun hmem => ?_, h.distinct⟩
      obtain ⟨other, hother, heq⟩ := List.mem_map.mp hmem
      exact Nat.ne_of_lt (h.numbered other hother) (heq.trans hnumber)

omit [Fabric W C Q] [Clock W] in
lemma passed {tick : Tick} (htick : episode.tick = some tick) (hconfig : after.1.config = host.config)
    (hqueues : after.2.queues = seen.queues)
    (hseen : ∀ sight ∈ episode.sights, sight = .time tick ∨
      ∃ session ∈ host.registry.sessions, ∃ accepted, sight = .handed session.admin.queue.number .keepAlive accepted)
    (hpassed : List.Forall₂ (fun before after => after.admin.queue.number = before.admin.queue.number ∧
      before.keepAlive.Passed tick (Sight.keepAlives before.admin.queue.number episode.sights) after.keepAlive)
      host.registry.sessions after.1.registry.sessions) : Spaced config (episodes ++ [episode]) after.1 after.2 := by
  have hconnected : ∀ admin, .connected admin ∉ episode.sights := by
    intro admin hmem
    rcases hseen _ hmem with heq | ⟨_, _, _, heq⟩ <;> cases heq
  -- whoever got a keep-alive is the admin queue pair of a session
  have howner : ∀ admin, (∀ session ∈ host.registry.sessions, session.admin.queue.number ≠ admin) →
      Sight.keepAlives admin episode.sights = [] := by
    refine fun admin hadmin => Sight.keepAlives_eq_nil fun accepted hmem => ?_
    rcases hseen _ hmem with heq | ⟨session, hsession, _, heq⟩
    · cases heq
    · exact hadmin session hsession (Sight.handed.inj heq).1.symm
  have hnumbers : host.registry.sessions.map (·.admin.queue.number) =
      after.1.registry.sessions.map (·.admin.queue.number) := by
    rw [← List.forall₂_eq_eq_eq, List.forall₂_map_left_iff, List.forall₂_map_right_iff]
    exact hpassed.imp fun _ _ hboth => hboth.1.symm
  refine h.extend sound hconfig (Nat.le_of_eq hqueues.symm) (fun admin hadmin => ⟨hconnected admin, ?_⟩) ?_
    (hnumbers ▸ h.distinct) ?_
  · rw [howner admin fun session hmem heq => ?_]
    · exact List.not_mem_nil
    · exact Nat.not_le.mpr (h.numbered session hmem) (heq ▸ hqueues ▸ hadmin)
  · intro session hmem
    obtain ⟨old, hold, hnumber, hmoved⟩ := exists_of_forall₂_of_mem hpassed hmem
    have hbeat : session.beat = (old.admin.queue.number, session.keepAlive) := Prod.ext hnumber rfl
    rw [hbeat, hnumber, hqueues]
    exact ⟨h.numbered old hold, (h.timed old hold).passed htick (hconnected _) hmoved⟩
  · intro admin haccepted
    by_cases howned : ∃ session ∈ host.registry.sessions, session.admin.queue.number = admin
    · obtain ⟨session, hmem, rfl⟩ := howned
      obtain ⟨_, -, -, hmoved⟩ := exists_of_forall₂_of_mem hpassed.flip hmem
      obtain ⟨hone, hdue⟩ := hmoved.due haccepted
      obtain ⟨connect, hconnect, hall⟩ := (h.timed session hmem).spaced hdue
      exact ⟨hone, tick, connect, htick, hconnect, hall⟩
    · rw [howner admin fun session hmem heq => howned ⟨session, hmem, heq⟩] at haccepted
      exact (List.not_mem_nil haccepted).elim

omit sound in
lemma perform (call : HostCall) (change : W → W) :
    let result := host.perform call (seen.begin change)
    let episode : Episode := ⟨call, result.1, call.tick? (seen.begin change), result.2.2.sights⟩
    Spaced config (episodes ++ [episode]) result.2.1 result.2.2 := by
  intro result episode
  have sound : Host.Sound config ((episodes ++ [episode]).map Episode.entry) result.2.1 := by
    rw [List.map_append]
    exact h.sound.perform call (seen.begin change)
  have hpass : ∀ {tick : Tick}, call.tick? (seen.begin change) = some tick →
      Spaced config (episodes ++ [episode]) result.2.1 result.2.2 := by
    intro tick htick
    obtain ⟨hconfig, hqueues, hseen, hpassed⟩ := Host.perform_passed h.accepts_admin h.distinct rfl htick
    exact h.passed sound htick hconfig hqueues hseen hpassed
  cases call with
  | connect | connectAttempt => exact h.connecting sound (Host.perform_connecting rfl) rfl
  | tick | tickAt => exact hpass rfl
  | disconnectAll => exact h.quiet sound (Host.perform_quietly h.sound.enrolled.nodup (.inl rfl)) rfl
  | _ => exact h.quiet sound (Host.perform_quietly h.sound.enrolled.nodup (.inr rfl)) rfl

omit sound in
lemma story (calls : List (HostCall × (W → W))) :
    Spaced config (episodes ++ (host.story seen calls).1) (host.story seen calls).2.1 (host.story seen calls).2.2 :=
  Host.story_induction (Spaced config) (fun _ _ _ call change h => h.perform call change) calls h

omit sound in
/-- Only ticks move timers. -/
lemma timer_kept {call : HostCall} {change : W → W} (htick : call.tick? (seen.begin change) = none)
    {session session' : Session C (Numbered Q)} (hmem : session ∈ host.registry.sessions)
    (hmem' : session' ∈ (host.perform call (seen.begin change)).2.1.registry.sessions)
    (hsame : session'.admin.queue.number = session.admin.queue.number) : session'.keepAlive = session.keepAlive := by
  have hunique := fun {old : Session C (Numbered Q)} (hold : old ∈ host.registry.sessions)
    (hnumber : old.admin.queue.number = session.admin.queue.number) =>
      List.inj_on_of_nodup_map h.distinct hold hmem hnumber
  have hquiet : Host.Quietly (host, seen.begin change) (host.perform call (seen.begin change)).2 →
      session'.keepAlive = session.keepAlive := by
    intro hquiet
    obtain ⟨old, hold, hbeat⟩ := List.mem_map.mp (hquiet.beats.subset (List.mem_map_of_mem hmem'))
    obtain rfl := hunique hold ((congrArg Prod.fst hbeat).trans hsame)
    exact (congrArg Prod.snd hbeat).symm
  have hconnecting : host.Connecting (seen.begin change) (host.perform call (seen.begin change)).2 →
      session'.keepAlive = session.keepAlive := by
    intro hconnecting
    generalize (host.perform call (seen.begin change)).2 = after at hconnecting hmem'
    cases hconnecting with
    | refused => rw [hunique hmem' hsame]
    | failed => rw [hunique hmem' hsame]
    | opened _ _ hnumber =>
      rcases List.mem_append.mp hmem' with hold | hnew
      · rw [hunique hold hsame]
      · rw [List.mem_singleton.mp hnew] at hsame
        exact (Nat.ne_of_lt (h.numbered session hmem) (hsame.symm.trans hnumber)).elim
  cases call with
  | connect | connectAttempt => exact hconnecting (Host.perform_connecting rfl)
  | tick | tickAt => cases htick
  | disconnectAll => exact hquiet (Host.perform_quietly h.sound.enrolled.nodup (.inl rfl))
  | _ => exact hquiet (Host.perform_quietly h.sound.enrolled.nodup (.inr rfl))

omit sound in
lemma deadline_le {call : HostCall} {change : W → W} {session session' : Session C (Numbered Q)}
    (hmem : session ∈ host.registry.sessions)
    (hmem' : session' ∈ (host.perform call (seen.begin change)).2.1.registry.sessions)
    (hsame : session'.admin.queue.number = session.admin.queue.number) :
    session.keepAlive.deadline ≤ session'.keepAlive.deadline := by
  cases htick : call.tick? (seen.begin change) with
  | none =>
    rw [h.timer_kept htick hmem hmem' hsame]
    exact UInt64.le_refl _
  | some tick =>
    obtain ⟨-, -, -, hpassed⟩ := Host.perform_passed h.accepts_admin h.distinct rfl htick
    obtain ⟨old, hold, hnumber, hmoved⟩ := exists_of_forall₂_of_mem hpassed hmem'
    obtain rfl := List.inj_on_of_nodup_map h.distinct hold hmem (hnumber.symm.trans hsame)
    exact hmoved.deadline_le

end Spaced

omit [Fabric W C Q] in
lemma HostCall.tick?_begin (call : HostCall) (seen : Seen W) (now : W) :
    call.tick? (seen.begin fun _ => now) = call.tick? now := by
  cases call <;> rfl

/-- After any run, as it is seen: a keep-alive was accepted only for a tick that is an interval after the connect and all
keep-alives before, and each timer counts from the last of these. Whatever is called next, a pass hands a keep-alive to
exactly the sessions whose deadline has come and moves the deadline if it is accepted; all other calls leave timers alone,
and no deadline goes back. -/
theorem keep_alive_spacing (config : Config) (world : W) (calls : List (HostCall × (W → W))) :
    let story := (Host.ofConfig config : Host C (Numbered Q)).story ({ world } : Seen W) calls
    let host := story.2.1
    let span := config.keepAliveInterval
    (Host.ofConfig config : Host C Q).run world calls =
        story.map (List.map Episode.entry) (Prod.map (Seen.plain W C Q).host Seen.world) ∧
      (∀ earlier episode later, story.1 = earlier ++ episode :: later → ∀ admin,
        true ∈ Sight.keepAlives admin episode.sights → Sight.keepAlives admin episode.sights = [true] ∧
          ∃ tick connect, episode.tick = some tick ∧ connectedAt admin earlier = [connect] ∧
            ∀ sign ∈ connect :: beatsAt admin earlier,
              min (sign.toNat + span.toNat) (UInt64.size - 1) ≤ tick.toNat) ∧
      (host.registry.sessions.map (·.admin.queue.number)).Nodup ∧
      (∀ session ∈ host.registry.sessions, session.keepAlive.interval = span ∧
        ∃ connect, connectedAt session.admin.queue.number story.1 = [connect] ∧
          session.keepAlive.deadline =
            Tick.after ((beatsAt session.admin.queue.number story.1).getLastD connect) span) ∧
      ∀ (call : HostCall) (now : W),
        let next := host.perform call (story.2.2.begin fun _ => now)
        (∀ tick, call.tick? now = some tick →
          List.Forall₂ (fun session session' => session'.admin.queue.number = session.admin.queue.number ∧
            session.keepAlive.Passed tick (Sight.keepAlives session.admin.queue.number next.2.2.sights) session'.keepAlive)
            host.registry.sessions next.2.1.registry.sessions) ∧
        ∀ session ∈ host.registry.sessions, ∀ session' ∈ next.2.1.registry.sessions,
          session'.admin.queue.number = session.admin.queue.number →
            session.keepAlive.deadline ≤ session'.keepAlive.deadline ∧
              (call.tick? now = none → session'.keepAlive = session.keepAlive) := by
  intro story host span
  have h : Spaced config story.1 host story.2.2 := (Spaced.start config world).story calls
  refine ⟨Host.run_plain config world calls, h.spaced, h.distinct, fun session hmem => ?_, fun call now => ?_⟩
  · obtain ⟨hinterval, connect, hconnect, hdeadline, -⟩ := h.timed session hmem
    exact ⟨hinterval, connect, hconnect, hdeadline⟩
  · have hsame := call.tick?_begin story.2.2 now
    refine ⟨fun tick htick => ?_, fun session hmem session' hmem' heq => ⟨h.deadline_le hmem hmem' heq, fun htick => ?_⟩⟩
    · exact (Host.perform_passed h.accepts_admin h.distinct rfl (hsame.trans htick)).2.2.2
    · exact h.timer_kept (hsame.trans htick) hmem hmem' heq

end FabricHost
