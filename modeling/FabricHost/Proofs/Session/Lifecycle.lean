import FabricHost.Proofs.Session.Steps

/-!
# The state of a session and its I/O queue

A session in a registry is live and has an I/O queue pair, or lost it to a reset. A reset that fails and re-establishing
that fails leave both as they were; so does traffic.
-/

namespace FabricHost.Session

variable {W C Q : Type}

/-- A session in the registry is live with an I/O queue pair, or was reset and has none. -/
def Settled (session : Session C Q) : Prop :=
  session.state = .live ∧ session.io.isSome ∨ session.state = .queuesNeedReinit ∧ session.io = none

variable [Fabric W C Q] {session : Session C Q}

lemma reset_cases (session : Session C Q) (world : W) :
    (∃ failure controller world', Fabric.resetController session.controller world = (.error failure, controller, world') ∧
        session.reset world = (.error (.ofFailure failure), { session with controller }, world')) ∨
      ∃ controller world', Fabric.resetController session.controller world = (.ok (), controller, world') ∧
        session.reset world = (.ok (), ({ session with controller, io := none }).after .controllerReset,
          match session.io with
          | some io => QueuePairs.release io.queue world'
          | none => world') := by
  unfold reset
  rcases Fabric.resetController session.controller world with ⟨failure | _, controller, world'⟩
  · exact .inl ⟨failure, controller, world', rfl, rfl⟩
  · exact .inr ⟨controller, world', rfl, rfl⟩

lemma reset_key (session : Session C Q) (world : W) : (session.reset world).2.1.key = session.key := by
  rcases session.reset_cases world with ⟨_, _, _, -, heq⟩ | ⟨_, _, -, heq⟩ <;> exact congrArg (·.2.1.key) heq

/-- A live session is left alone. Else a new queue pair is asked for, and comes or does not. -/
lemma Settled.reestablish_cases (h : session.Settled) (depth : UInt16) (world : W) :
    session.state = .live ∧ session.reestablish depth world = (.ok (), session, world) ∨
      session.state = .queuesNeedReinit ∧ session.io = none ∧
        ((∃ failure controller world',
            Fabric.createIoQueue session.controller depth world = (.error failure, controller, world') ∧
              session.reestablish depth world = (.error (.ofFailure failure), { session with controller }, world')) ∨
          ∃ queue controller world', Fabric.createIoQueue session.controller depth world = (.ok queue, controller, world') ∧
            session.reestablish depth world =
              (.ok (), ({ session with controller, io := some { queue } }).after .queuesReestablished, world')) := by
  rcases h with ⟨hstate, -⟩ | ⟨hstate, hio⟩
  · refine .inl ⟨hstate, ?_⟩
    unfold reestablish
    rw [hstate]
  · refine .inr ⟨hstate, hio, ?_⟩
    unfold reestablish
    rw [hstate]
    rcases Fabric.createIoQueue session.controller depth world with ⟨failure | queue, controller, world'⟩
    · exact .inl ⟨failure, controller, world', rfl, rfl⟩
    · exact .inr ⟨queue, controller, world', rfl, rfl⟩

lemma reestablish_key (session : Session C Q) (depth : UInt16) (world : W) :
    (session.reestablish depth world).2.1.key = session.key := by
  unfold reestablish
  split
  · rfl
  · split <;> rfl
  · rfl
  · rfl

lemma Settled.reset (h : session.Settled) (world : W) : (session.reset world).2.1.Settled := by
  rcases session.reset_cases world with ⟨_, _, _, -, heq⟩ | ⟨_, _, -, heq⟩
  · rw [heq]
    exact h
  · rw [heq]
    right
    rcases h with ⟨hstate, -⟩ | ⟨hstate, -⟩
    · exact ⟨congrArg (Lifecycle.after · .controllerReset) hstate, rfl⟩
    · exact ⟨congrArg (Lifecycle.after · .controllerReset) hstate, rfl⟩

lemma Settled.reestablish (h : session.Settled) (depth : UInt16) (world : W) :
    (session.reestablish depth world).2.1.Settled := by
  rcases h.reestablish_cases depth world with ⟨-, heq⟩ | ⟨hstate, -, ⟨_, _, _, -, heq⟩ | ⟨_, _, _, -, heq⟩⟩
  · rw [heq]
    exact h
  · rw [heq]
    exact h
  · rw [heq]
    exact .inl ⟨congrArg (Lifecycle.after · .queuesReestablished) hstate, rfl⟩

lemma Step.settled [Clock W] {own : SessionKey → RequestId → Prop} {sends : Command → Prop}
    {before after : Session C Q × W} (h : Step own sends before after) (hsettled : before.1.Settled) :
    after.1.Settled := by
  cases h with
  | io hio =>
    rcases hsettled with ⟨hstate, -⟩ | ⟨-, hnone⟩
    · exact .inl ⟨hstate, rfl⟩
    · rw [hio] at hnone
      cases hnone
  | _ => exact hsettled

end FabricHost.Session
