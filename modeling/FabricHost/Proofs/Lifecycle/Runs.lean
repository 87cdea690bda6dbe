import FabricHost.Proofs.Lifecycle.Interruption
import FabricHost.Proofs.Watching.Creation

/-!
# The lives of sessions over whole runs

The state of a session, its I/O queue pair and the resets of its controller stay in step over any run.
-/

namespace FabricHost

open HostCall

/-- A registered session is live with an I/O queue pair, which its controller created after its last reset, or was reset
and has none. Every event that a session processes can happen in the state that it is in, up to the disconnect that ends
it. Reads, writes and polls are told that a session is closed exactly when there is none of that key, or when its last
successful reset was not followed by a re-establishing that succeeded. -/
theorem session_lifecycle {W C Q : Type} [Fabric W C Q] [Clock W] (config : Config) (world : W)
    (calls : List (HostCall × (W → W))) :
    let run := (Host.ofConfig config : Host C Q).run world calls
    let watched := (Host.ofConfig config : Host (Numbered C) (Numbered Q)).run (⟨world, [], []⟩ : Watched W)
      (Host.watchedCalls calls)
    let events := watched.2.2.events
    run = (watched.1, (Watched.unwatched W C Q).host watched.2.1, watched.2.2.world) ∧
      (∀ session ∈ watched.2.1.registry.sessions,
        (session.state = .live ∨ session.state = .queuesNeedReinit) ∧
          (session.state = .live ↔ session.io.isSome) ∧ (session.state.acceptsIo → session.io.isSome) ∧
          ∀ io, session.io = some io → events[io.queue.number]? = some (.created session.controller.number) ∧
            ∀ place : Nat, events[place]? = some (.wasReset session.controller.number) → place < io.queue.number) ∧
      ∀ (call : HostCall) (now : W),
        let result := run.2.1.perform call now
        let entry := (call, result.1)
        (∀ session ∈ run.2.1.registry.sessions,
          session.state.Advances (event? session.key session.state entry) (result.2.1.stateOf? session.key)) ∧
        (∀ key, connected? entry = some key → run.2.1.stateOf? key = none ∧
          Lifecycle.connecting.Advances (some .handshakeComplete) (result.2.1.stateOf? key)) ∧
        ∀ key, call.ioKey? = some key → (result.1.error? = some .sessionClosed ↔
          key ∉ run.2.1.registry.keys ∨ Interrupted key run.1) := by
  intro run watched events
  have hsound : Host.Sound config run.1 run.2.1 := (Host.Sound.start config).run world calls
  have hwatched : Host.Sound config watched.1 watched.2.1 := (Host.Sound.start config).run _ _
  have hdated : watched.2.1.Dated events := Host.dated_run config world calls
  refine ⟨Host.run_watchedCalls config world calls, fun session hsession => ?_, fun call now => ⟨?_, ?_, ?_⟩⟩
  · have hsettled := hwatched.settled session hsession
    have hlive : session.state = .live ↔ session.io.isSome := by
      rcases hsettled with ⟨hstate, hio⟩ | ⟨hstate, hio⟩ <;> simp [hstate, hio]
    refine ⟨hsettled.imp And.left And.left, hlive, fun haccepts => ?_, fun io hio => ?_⟩
    · rcases hsettled with ⟨-, hio⟩ | ⟨hstate, -⟩
      · exact hio
      · rw [hstate] at haccepts
        cases haccepts
    · have hnumber : session.io.map (·.queue.number) = some io.queue.number := by rw [hio, Option.map_some]
      have hsession := hdated.sessions session hsession
      exact ⟨hsession.created _ hnumber, hsession.latest _ hnumber⟩
  · exact fun session hsession => Host.perform_advances hsound.enrolled.nodup hsound.settled
      (Host.stateOf?_of_mem hsound.enrolled.nodup hsession) call now
  · intro key hconnected
    obtain ⟨hnone, hlive⟩ := Host.perform_connected hconnected
    exact ⟨hnone, .live, rfl, hlive⟩
  · exact fun key hkey => (Host.tallied_run config world calls).closed_iff hsound hkey now

end FabricHost
