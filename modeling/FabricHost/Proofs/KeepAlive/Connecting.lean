import FabricHost.Proofs.KeepAlive.Quiet

/-!
# Connects and the first deadline

A connect that gets a controller may still fail. If it does not, the time is read once, and the first deadline of the new
session counts from there.
-/

namespace FabricHost

variable {W C Q : Type} [Fabric W C Q]

/-- What is seen of a connect, and what it makes of the host. -/
inductive Host.Connecting (host : Host C (Numbered Q)) (seen : Seen W) : Host C (Numbered Q) × Seen W → Prop where
  | refused {after : Seen W} (hsights : after.sights = seen.sights) (hqueues : after.queues = seen.queues) :
      Connecting host seen (host, after)
  | failed {after : Seen W} (hsights : after.sights = seen.sights ++ [.connected seen.queues])
      (hqueues : seen.queues < after.queues) : Connecting host seen (host, after)
  | opened {after : Seen W} {session : Session C (Numbered Q)} {now : Tick}
      (hsights : after.sights = seen.sights ++ [.connected seen.queues, .time now]) (hqueues : seen.queues < after.queues)
      (hnumber : session.admin.queue.number = seen.queues)
      (htimer : session.keepAlive = KeepAliveTimer.start now host.config.keepAliveInterval) :
      Connecting host seen
        ({ host with registry := { host.registry with sessions := host.registry.sessions ++ [session] } }, after)

namespace Seen

/-- A handshake gives a controller whose admin queue pair has the next number, or nothing. -/
lemma connect_seen {params : HandshakeParams} {timeoutMs : Nat} {seen seen' : Seen W}
    {outcome : HandshakeOutcome C (Numbered Q)} (h : Fabric.connect params timeoutMs seen = (outcome, seen')) :
    (∀ association, outcome = .connected association →
        association.admin.number = seen.queues ∧ seen'.sights = seen.sights ++ [.connected seen.queues] ∧
          seen'.queues = seen.queues + 1) ∧
      ((∀ association, outcome ≠ .connected association) → seen'.sights = seen.sights ∧ seen'.queues = seen.queues) := by
  simp only [Fabric.connect] at h
  rcases heq : Fabric.connect params timeoutMs seen.world with ⟨_ | _ | _, world⟩
  all_goals
    rw [heq] at h
    cases h
  · exact ⟨by rintro _ ⟨⟩; exact ⟨rfl, rfl, rfl⟩, fun hnone => (hnone _ rfl).elim⟩
  · exact ⟨fun _ hsome => (by cases hsome), fun _ => ⟨rfl, rfl⟩⟩
  · exact ⟨fun _ hsome => (by cases hsome), fun _ => ⟨rfl, rfl⟩⟩

end Seen

namespace Host

omit [Fabric W C Q] in
lemma Connecting.congr {host : Host C (Numbered Q)} {seen seen' : Seen W} {after : Host C (Numbered Q) × Seen W}
    (h : host.Connecting seen' after) (hsights : seen'.sights = seen.sights) (hqueues : seen'.queues = seen.queues) :
    host.Connecting seen after := by
  cases h with
  | refused hs hq => exact .refused (hs.trans hsights) (hq.trans hqueues)
  | failed hs hq => exact .failed (hsights ▸ hqueues ▸ hs) (hqueues ▸ hq)
  | opened hs hq hnumber htimer => exact .opened (hsights ▸ hqueues ▸ hs) (hqueues ▸ hq) (hnumber.trans hqueues) htimer

omit [Fabric W C Q] in
/-- Of a connect no keep-alive is seen, and no controller but one with the next number. -/
lemma Connecting.sights {host : Host C (Numbered Q)} {seen : Seen W} {after : Host C (Numbered Q) × Seen W}
    (h : host.Connecting seen after) (hbegin : seen.sights = []) :
    seen.queues ≤ after.2.queues ∧ (∀ queue, Sight.keepAlives queue after.2.sights = []) ∧
      ∀ admin, .connected admin ∈ after.2.sights → admin = seen.queues ∧ seen.queues < after.2.queues := by
  cases h with
  | refused hs hq =>
    rw [hs, hbegin]
    exact ⟨Nat.le_of_eq hq.symm, fun _ => rfl, fun _ hmem => (List.not_mem_nil hmem).elim⟩
  | failed hs hq =>
    rw [hs, hbegin]
    exact ⟨Nat.le_of_lt hq, fun _ => rfl, fun admin hmem => ⟨by simpa using hmem, hq⟩⟩
  | opened hs hq =>
    rw [hs, hbegin]
    exact ⟨Nat.le_of_lt hq, fun _ => rfl, fun admin hmem => ⟨by simpa using hmem, hq⟩⟩

lemma handshake_seen (plan : ConnectPlan) (pauseMs retries : Nat) (seen : Seen W) :
    (∀ error seen', handshake (C := C) (Q := Numbered Q) plan pauseMs retries seen = (.error error, seen') →
        seen'.sights = seen.sights ∧ seen'.queues = seen.queues) ∧
      ∀ (association : Association C (Numbered Q)) seen', handshake plan pauseMs retries seen = (.ok association, seen') →
        association.admin.number = seen.queues ∧ seen'.sights = seen.sights ++ [.connected seen.queues] ∧
          seen'.queues = seen.queues + 1 := by
  refine handshake_leaves (fun first second => second.sights = first.sights ∧ second.queues = first.queues)
    (fun association first second => association.admin.number = first.queues ∧
      second.sights = first.sights ++ [.connected first.queues] ∧ second.queues = first.queues + 1)
    plan pauseMs ?_ ?_ ?_ ?_ ?_ retries seen
  · exact fun heq => (Seen.connect_seen heq).1 _ rfl
  · exact fun heq => (Seen.connect_seen heq).2
  · exact fun htried => htried
  · exact fun htried hlater => ⟨hlater.1.trans htried.1, hlater.2.trans htried.2⟩
  · exact fun htried hlater => htried.1 ▸ htried.2 ▸ hlater

variable [Clock W] {host : Host C (Numbered Q)} {seen : Seen W}

lemma register_seen (hroom : host.registry.isFull = false) (plan : ConnectPlan)
    {association : Association C (Numbered Q)} {made : Seen W} (hnumber : association.admin.number = seen.queues)
    (hsights : made.sights = seen.sights ++ [.connected seen.queues]) (hqueues : seen.queues < made.queues) :
    host.Connecting seen (host.register plan association made).2 := by
  have hcreate := made.createIoQueue_seen association.controller host.config.ioQueueDepth (Q := Q)
  rcases register_cases hroom plan association made with
    ⟨_, _, _, heq, hresult⟩ | ⟨io, controller, created, heq, ⟨-, hresult⟩ | ⟨key, timer, -, htimer, hresult⟩⟩
  all_goals
    rw [heq] at hcreate
    obtain ⟨hcreatedSights, hcreatedQueues⟩ := hcreate
    rw [hresult]
  · exact .failed (hcreatedSights.trans hsights) (Nat.lt_of_lt_of_le hqueues hcreatedQueues)
  · exact .failed (hcreatedSights.trans hsights) (Nat.lt_of_lt_of_le hqueues hcreatedQueues)
  · refine .opened ?_ (Nat.lt_of_lt_of_le hqueues hcreatedQueues) hnumber htimer
    change created.sights ++ [_] = _
    rw [hcreatedSights, hsights, List.append_assoc]
    rfl

lemma connect_seen (command : ConnectCommand) (defaults : HostDefaults) :
    host.Connecting seen (host.connect command defaults seen).2 := by
  rcases host.connect_cases command defaults seen with
    ⟨_, -, hresult⟩ | ⟨plan, hroom, ⟨_, seen', heq, hresult⟩ | ⟨association, seen', heq, hresult⟩⟩
  · rw [hresult]
    exact .refused rfl rfl
  · obtain ⟨hsights, hqueues⟩ := (handshake_seen plan _ _ seen).1 _ _ heq
    rw [hresult]
    exact .refused hsights hqueues
  · obtain ⟨hnumber, hsights, hqueues⟩ := (handshake_seen plan _ _ seen).2 _ _ heq
    rw [hresult]
    exact register_seen hroom plan hnumber hsights (Nat.lt_of_lt_of_eq (Nat.lt_succ_self _) hqueues.symm)

lemma perform_connecting {call : HostCall} (hconnects : call.connects) :
    host.Connecting seen (host.perform call seen).2 := by
  cases call with
  | connect command defaults => exact host.connect_seen command defaults
  | connectAttempt attempt defaults =>
    obtain ⟨seen', hseen, hcase⟩ := host.connectAttempt_cases attempt defaults seen
    have hsame : seen'.sights = seen.sights ∧ seen'.queues = seen.queues := by
      rcases hseen with rfl | ⟨_, rfl⟩ <;> exact ⟨rfl, rfl⟩
    rw [perform]
    rcases hcase with ⟨_, -, hresult⟩ | ⟨command, hresult⟩
    · rw [hresult]
      exact .refused hsame.1 hsame.2
    · rw [hresult]
      exact (host.connect_seen command defaults).congr hsame.1 hsame.2
  | _ => cases hconnects

end Host

end FabricHost
