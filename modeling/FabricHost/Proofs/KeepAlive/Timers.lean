import FabricHost.Proofs.KeepAlive.Passes

/-!
# Timers and what was seen

The keep-alive timer of a session can be read off what was seen: its deadline counts from the last keep-alive that was
accepted, or from the connect. So whenever the deadline has come, every earlier sign of life is an interval back.
-/

namespace FabricHost

lemma Tick.le_after (t span : Tick) : t ≤ after t span := by
  have hlt := t.toNat_lt_size
  rw [UInt64.le_iff_toNat_le, toNat_after]
  omega

/-- The time that was read. -/
def Sight.time? : Sight → Option Tick
  | time now => some now
  | _ => none

namespace Episode

/-- The times that were first read after a handshake gave an admin queue pair. -/
def connectedAt (admin : Nat) (episodes : List Episode) : List Tick :=
  episodes.flatMap fun episode =>
    if .connected admin ∈ episode.sights then (episode.sights.findSome? Sight.time?).toList else []

/-- The ticks at which a keep-alive was accepted by an admin queue pair. -/
def beatsAt (admin : Nat) (episodes : List Episode) : List Tick :=
  episodes.flatMap fun episode =>
    if true ∈ Sight.keepAlives admin episode.sights then episode.tick.toList else []

variable {admin : Nat} {episodes : List Episode} {episode : Episode}

lemma connectedAt_append_of_not_mem (h : .connected admin ∉ episode.sights) :
    connectedAt admin (episodes ++ [episode]) = connectedAt admin episodes := by
  simp only [connectedAt, List.flatMap_append, List.flatMap_cons, List.flatMap_nil, if_neg h, List.append_nil]

lemma beatsAt_append_of_not_mem (h : true ∉ Sight.keepAlives admin episode.sights) :
    beatsAt admin (episodes ++ [episode]) = beatsAt admin episodes := by
  simp only [beatsAt, List.flatMap_append, List.flatMap_cons, List.flatMap_nil, if_neg h, List.append_nil]

lemma beatsAt_append_of_mem (h : true ∈ Sight.keepAlives admin episode.sights) {tick : Tick} (htick : episode.tick = some tick) :
    beatsAt admin (episodes ++ [episode]) = beatsAt admin episodes ++ [tick] := by
  simp only [beatsAt, List.flatMap_append, List.flatMap_cons, List.flatMap_nil, if_pos h, htick, Option.toList_some,
    List.append_nil]

end Episode

open Episode

/-- The timer of a session, known by the number of its admin queue pair, follows from what was seen. -/
structure Timed (span : Tick) (episodes : List Episode) (beat : Nat × KeepAliveTimer) : Prop where
  interval : beat.2.interval = span
  counts : ∃ connect, connectedAt beat.1 episodes = [connect] ∧
    beat.2.deadline = Tick.after ((beatsAt beat.1 episodes).getLastD connect) span ∧
    ∀ sign ∈ connect :: beatsAt beat.1 episodes, Tick.after sign span ≤ beat.2.deadline

namespace Timed

variable {span : Tick} {episodes : List Episode} {episode : Episode} {admin : Nat} {timer timer' : KeepAliveTimer}

/-- A new timer counts from its connect. -/
lemma opened (hconnected : connectedAt admin episodes = []) (hbeats : beatsAt admin episodes = []) {now : Tick}
    (hsights : episode.sights = [.connected admin, .time now]) :
    Timed span (episodes ++ [episode]) (admin, KeepAliveTimer.start now span) := by
  have hnone : true ∉ Sight.keepAlives admin episode.sights := by
    rw [hsights]
    exact List.not_mem_nil
  have hconnect : connectedAt admin (episodes ++ [episode]) = [now] := by
    have hnew : connectedAt admin [episode] = [now] := by
      rw [connectedAt, List.flatMap_singleton, hsights, if_pos List.mem_cons_self]
      rfl
    rw [connectedAt, List.flatMap_append]
    exact congrArg₂ _ hconnected hnew
  refine ⟨rfl, now, hconnect, ?_⟩
  simp only [beatsAt_append_of_not_mem hnone, hbeats]
  refine ⟨rfl, fun sign hsign => ?_⟩
  rw [List.mem_singleton.mp hsign]
  exact UInt64.le_refl _

lemma unseen (h : Timed span episodes (admin, timer)) (hconnected : .connected admin ∉ episode.sights)
    (hbeats : true ∉ Sight.keepAlives admin episode.sights) : Timed span (episodes ++ [episode]) (admin, timer) := by
  refine ⟨h.interval, ?_⟩
  rw [connectedAt_append_of_not_mem hconnected, beatsAt_append_of_not_mem hbeats]
  exact h.counts

/-- When the deadline has come, every sign of life is an interval back. -/
lemma spaced (h : Timed span episodes (admin, timer)) {tick : Tick} (hdue : timer.deadline ≤ tick) :
    ∃ connect, connectedAt admin episodes = [connect] ∧
      ∀ sign ∈ connect :: beatsAt admin episodes, min (sign.toNat + span.toNat) (UInt64.size - 1) ≤ tick.toNat := by
  obtain ⟨connect, hconnect, -, hall⟩ := h.counts
  refine ⟨connect, hconnect, fun sign hsign => ?_⟩
  rw [← Tick.toNat_after, ← UInt64.le_iff_toNat_le]
  exact UInt64.le_trans (hall sign hsign) hdue

/-- A pass leaves the timer as what was seen of it tells. -/
lemma passed (h : Timed span episodes (admin, timer)) {tick : Tick} (htick : episode.tick = some tick)
    (hconnected : .connected admin ∉ episode.sights)
    (hpassed : timer.Passed tick (Sight.keepAlives admin episode.sights) timer') :
    Timed span (episodes ++ [episode]) (admin, timer') := by
  generalize hanswers : Sight.keepAlives admin episode.sights = answers at hpassed
  cases hpassed with
  | early => exact h.unseen hconnected (by simp [hanswers])
  | sent hdue =>
    obtain ⟨hinterval, connect, hconnect, -, hall⟩ := h
    have haccepted : true ∈ Sight.keepAlives admin episode.sights := hanswers ▸ List.mem_singleton_self true
    have hbeats : beatsAt admin (episodes ++ [episode]) = beatsAt admin episodes ++ [tick] :=
      beatsAt_append_of_mem haccepted htick
    have hdeadline : (timer.sent tick).deadline = Tick.after tick span := congrArg (Tick.after tick) hinterval
    refine ⟨hinterval, connect, (connectedAt_append_of_not_mem hconnected).trans hconnect, ?_, fun sign hsign => ?_⟩
    · simp only [hbeats, List.getLastD_concat]
      exact hdeadline
    · simp only [hbeats] at hsign
      rw [← List.cons_append, List.mem_append] at hsign
      rw [hdeadline]
      rcases hsign with hold | hnew
      · exact UInt64.le_trans (hall sign hold) (UInt64.le_trans hdue (tick.le_after span))
      · rw [List.mem_singleton.mp hnew]
        exact UInt64.le_refl _
  | refused =>
    obtain ⟨hinterval, hcounts⟩ := h.unseen hconnected (by simp [hanswers])
    exact ⟨hinterval, hcounts⟩

end Timed

/-- Only a keep-alive that was due is accepted, and it is the only one. -/
lemma KeepAliveTimer.Passed.due {tick : Tick} {timer timer' : KeepAliveTimer} {answers : List Bool}
    (h : timer.Passed tick answers timer') (haccepted : true ∈ answers) : answers = [true] ∧ timer.deadline ≤ tick := by
  cases h with
  | early => cases haccepted
  | sent hdue => exact ⟨rfl, hdue⟩
  | refused => simp at haccepted

/-- A pass never moves a deadline back. -/
lemma KeepAliveTimer.Passed.deadline_le {tick : Tick} {timer timer' : KeepAliveTimer} {answers : List Bool}
    (h : timer.Passed tick answers timer') : timer.deadline ≤ timer'.deadline := by
  cases h with
  | early => exact UInt64.le_refl _
  | sent hdue => exact UInt64.le_trans hdue (tick.le_after timer.interval)
  | refused => exact UInt64.le_refl _

end FabricHost
