import FabricHost.Proofs.Host.Connecting
import FabricHost.Proofs.Host.Steps

/-!
# Who is registered

The keys in the registry of a host can be read off its answers: they are those of the connects that succeeded and were
not ended since, in the order of the connects.
-/

namespace FabricHost

namespace HostCall

/-- The key of a connect that succeeded. -/
def connected? : HostCall × HostAnswer → Option SessionKey
  | (call, .connected (.ok key)) => if call.connects then some key else none
  | _ => none

/-- Whether the session of a key, if there was one, has ended. -/
def ends (key : SessionKey) : HostCall × HostAnswer → Bool
  | (.disconnect other, .done (.ok ())) => other = key
  | (.disconnectAll, _) => true
  | _ => false

/-- The keys of connects that succeeded and were not ended since. -/
def survivors : List (HostCall × HostAnswer) → List SessionKey
  | [] => []
  | entry :: later =>
    match connected? entry with
    | some key => if later.any (ends key) then survivors later else key :: survivors later
    | none => survivors later

lemma survivors_append (log : List (HostCall × HostAnswer)) (entry : HostCall × HostAnswer) :
    survivors (log ++ [entry]) =
      (survivors log).filter (fun key => !ends key entry) ++ (connected? entry).toList := by
  induction log with
  | nil =>
    simp only [List.nil_append, survivors]
    cases connected? entry <;> rfl
  | cons first later ih =>
    simp only [List.cons_append, survivors]
    cases connected? first with
    | none => exact ih
    | some key =>
      simp only [List.any_append, List.any_cons, List.any_nil, Bool.or_false]
      by_cases hlater : later.any (ends key) = true
      · rw [if_pos hlater, if_pos (by rw [hlater]; rfl), ih]
      · rw [if_neg hlater, eq_false_of_ne_true hlater, Bool.false_or, List.filter_cons]
        by_cases hends : ends key entry = true
        · rw [if_pos hends, if_neg (by simp [hends]), ih]
        · rw [if_neg hends, if_pos (by simpa using hends), ih, List.cons_append]

lemma survivors_append_other (log : List (HostCall × HostAnswer)) {entry : HostCall × HostAnswer}
    (hconnected : connected? entry = none) (hends : ∀ key, ends key entry = false) :
    survivors (log ++ [entry]) = survivors log := by
  rw [survivors_append, hconnected, Option.toList_none, List.append_nil]
  exact List.filter_eq_self.mpr fun key _ => by rw [hends key]; rfl

/-- A key that is not among the survivors comes back only by a connect. -/
lemma mem_survivors_append {key : SessionKey} {log later : List (HostCall × HostAnswer)}
    (h : key ∈ survivors (log ++ later)) :
    key ∈ survivors log ∨ ∃ entry ∈ later, connected? entry = some key := by
  induction later generalizing log with
  | nil =>
    rw [List.append_nil] at h
    exact .inl h
  | cons entry later ih =>
    rw [List.append_cons] at h
    rcases ih h with hfirst | ⟨other, hother, hkey⟩
    · rw [survivors_append, List.mem_append] at hfirst
      rcases hfirst with hold | hnew
      · exact .inl (List.mem_filter.mp hold).1
      · exact .inr ⟨entry, List.mem_cons_self, by simpa using hnew⟩
    · exact .inr ⟨other, List.mem_cons_of_mem _ hother, hkey⟩

lemma connected?_of_not_connects {call : HostCall} (h : ¬ call.connects) (answer : HostAnswer) :
    connected? (call, answer) = none := by
  unfold connected?
  split
  · rename_i heq
    cases heq
    exact if_neg h
  · rfl

lemma ends_eq_false {call : HostCall} (hdisconnect : ∀ key, call ≠ .disconnect key) (hall : call ≠ .disconnectAll)
    (key : SessionKey) (answer : HostAnswer) : ends key (call, answer) = false := by
  unfold ends
  split
  · rename_i other heq
    cases heq
    exact (hdisconnect other rfl).elim
  · rename_i heq
    cases heq
    exact (hall rfl).elim
  · rfl

end HostCall

open HostCall

variable {W C Q : Type} [Fabric W C Q] [Clock W]

/-- What the registry of a host has to do with what was answered so far. -/
structure Enrolled (config : Config) (log : List (HostCall × HostAnswer)) (host : Host C Q) : Prop where
  limit : host.registry.limit = config.maxSessions
  keys : host.registry.keys = survivors log
  nodup : host.registry.keys.Nodup
  bounded : host.registry.keys.length ≤ config.maxSessions

namespace Host

lemma Step.keys {own : SessionKey → RequestId → Prop} {sends : Command → Prop} {before after : Host C Q × W}
    (h : Step own sends before after) : after.1.registry.keys = before.1.registry.keys := by
  cases h with
  | now => rfl
  | number => rfl
  | session hsplit h =>
    unfold Registry.keys
    rw [hsplit, List.map_append, List.map_append, List.map_cons, List.map_cons, h.key]

lemma Steps.keys {own : SessionKey → RequestId → Prop} {sends : Command → Prop} {before after : Host C Q × W}
    (h : Steps own sends before after) : after.1.registry.keys = before.1.registry.keys := by
  induction h with
  | refl => rfl
  | tail _ hstep ih => exact hstep.keys.trans ih

lemma Steps.limit {own : SessionKey → RequestId → Prop} {sends : Command → Prop} {before after : Host C Q × W}
    (h : Steps own sends before after) : after.1.registry.limit = before.1.registry.limit := by
  induction h with
  | refl => rfl
  | tail _ hstep ih => cases hstep <;> exact ih

variable (host : Host C Q)

/-- A connect fails and leaves the host as it was, or adds one session under a new key. -/
lemma connect_membership (command : ConnectCommand) (defaults : HostDefaults) (world : W) :
    (∃ error world', host.connect command defaults world = (.error error, host, world') ∧
        (∀ key, error ≠ .duplicateSession key) ∧
        ∀ target, error = .outOfResources (.keys target) →
          host.registry.isFull = false ∧ SessionKey.variants ≤ host.registry.keys.length) ∨
      ∃ (session : Session C Q) (world' : W), host.registry.isFull = false ∧ session.key ∉ host.registry.keys ∧
        session.Opened ∧
        host.connect command defaults world = (.ok session.key,
          { host with registry := { host.registry with sessions := host.registry.sessions ++ [session] } }, world') := by
  rcases host.connect_cases command defaults world with
    ⟨error, hother, heq⟩ | ⟨plan, hroom, ⟨error, world', hfail, heq⟩ | ⟨association, world', -, heq⟩⟩
  · obtain ⟨hduplicate, hkeys⟩ := hother.notAboutKeys
    exact .inl ⟨error, world, heq, hduplicate, fun target htarget => (hkeys target htarget).elim⟩
  · have hother : error.OfDialling := handshake_error (by rw [hfail])
    obtain ⟨hduplicate, hkeys⟩ := hother.notAboutKeys
    exact .inl ⟨error, world', heq, hduplicate, fun target htarget => (hkeys target htarget).elim⟩
  · rw [heq]
    rcases register_cases hroom plan association world' with
      ⟨failure, controller, world'', -, hreg⟩ | ⟨io, controller, world'', -, ⟨hkeys, hreg⟩ | ⟨key, timer, hnew, -, hreg⟩⟩
    · exact .inl ⟨_, _, hreg, by simp [HostError.ofFailure], by simp [HostError.ofFailure]⟩
    · exact .inl ⟨_, _, hreg, by simp, fun _ _ => ⟨hroom, hkeys⟩⟩
    · exact .inr ⟨newSession plan { association with controller } io key timer, _, hroom, hnew, ⟨_, _, _, _, rfl⟩, hreg⟩

lemma perform_membership {call : HostCall} (hconnects : call.connects) (world : W) :
    (∃ error world', host.perform call world = (.connected (.error error), host, world') ∧
        (∀ key, error ≠ .duplicateSession key) ∧
        ∀ target, error = .outOfResources (.keys target) →
          host.registry.isFull = false ∧ SessionKey.variants ≤ host.registry.keys.length) ∨
      ∃ (session : Session C Q) (world' : W), host.registry.isFull = false ∧ session.key ∉ host.registry.keys ∧
        session.Opened ∧
        host.perform call world = (.connected (.ok session.key),
          { host with registry := { host.registry with sessions := host.registry.sessions ++ [session] } }, world') := by
  cases call with
  | connect command defaults =>
    rcases host.connect_membership command defaults world with ⟨error, world', heq, hrest⟩ | ⟨session, world', hroom, hnew, hopened, heq⟩
    · exact .inl ⟨error, world', by rw [perform, heq]; rfl, hrest⟩
    · exact .inr ⟨session, world', hroom, hnew, hopened, by rw [perform, heq]; rfl⟩
  | connectAttempt attempt defaults =>
    obtain ⟨middle, -, ⟨error, hother, heq⟩ | ⟨command, hsame⟩⟩ :=
      host.connectAttempt_cases attempt defaults world
    · obtain ⟨hduplicate, hkeys⟩ := hother.notAboutKeys
      exact .inl ⟨error, middle, by rw [perform, heq]; rfl, hduplicate, fun target htarget => (hkeys target htarget).elim⟩
    · rcases host.connect_membership command defaults middle with ⟨error, world', heq, hrest⟩ | ⟨session, world', hroom, hnew, hopened, heq⟩
      · exact .inl ⟨error, world', by rw [perform, hsame, heq]; rfl, hrest⟩
      · exact .inr ⟨session, world', hroom, hnew, hopened, by rw [perform, hsame, heq]; rfl⟩
  | _ => cases hconnects

lemma perform_ne_duplicate {call : HostCall} (hconnects : call.connects) (world : W) (key : SessionKey) :
    (host.perform call world).1 ≠ .connected (.error (.duplicateSession key)) := by
  rcases host.perform_membership hconnects world with ⟨error, world', heq, hother, -⟩ | ⟨session, world', -, -, -, heq⟩
  · rw [heq]
    intro hanswer
    cases hanswer
    exact hother key rfl
  · rw [heq]
    intro hanswer
    cases hanswer

omit [Clock W] in
lemma disconnect_eq (key : SessionKey) (world : W) :
    (host.disconnect key world).1 =
      if key ∈ host.registry.keys then .ok () else .error (.notFound (.session key)) := by
  unfold disconnect
  split
  · rename_i hnone
    rw [if_neg (Registry.find?_eq_none_iff.mp hnone)]
  · rename_i session hfind
    have hmem : key ∈ host.registry.keys := by
      rw [← Registry.contains_iff, Registry.contains, hfind]
      rfl
    rw [if_pos hmem]

variable {host}

omit [Clock W] in
lemma keys_disconnect (hnodup : host.registry.keys.Nodup) (key : SessionKey) (world : W) :
    (host.disconnect key world).2.1.registry.keys = host.registry.keys.filter (· ≠ key) := by
  unfold disconnect
  split
  · rename_i hnone
    refine (List.filter_eq_self.mpr fun other hother => ?_).symm
    rw [decide_eq_true_iff]
    exact fun heq => Registry.find?_eq_none_iff.mp hnone (heq ▸ hother)
  · rename_i session hfind
    obtain ⟨before, behind, hsplit, hbefore, hbehind⟩ := Registry.find?_split hnodup hfind
    have hkey := Registry.key_of_find? hfind
    have hothers : ∀ others : List (Session C Q), (∀ other ∈ others, other.key ≠ key) →
        (others.map Session.key).filter (· ≠ key) = others.map Session.key := by
      intro others hothers
      refine List.filter_eq_self.mpr fun other hother => ?_
      obtain ⟨session', hsession', rfl⟩ := List.mem_map.mp hother
      rw [decide_eq_true_iff]
      exact hothers session' hsession'
    simp only [Registry.keys]
    rw [Registry.erase_split hsplit hbefore hkey, hsplit, List.map_append, List.map_append, List.map_cons,
      List.filter_append, hothers before hbefore, List.filter_cons_of_neg (by simpa using hkey),
      hothers behind hbehind]

omit [Fabric W C Q] [Clock W] in
lemma keys_onSession {α : Type} (key : SessionKey) (missing : HostError)
    (action : Session C Q → W → Except HostError α × Session C Q × W) (world : W) :
    (host.onSession key missing action world).2.1.registry.keys = host.registry.keys := by
  unfold onSession
  split
  · rfl
  · exact Registry.keys_replace _ _

omit [Fabric W C Q] [Clock W] in
lemma limit_onSession {α : Type} (key : SessionKey) (missing : HostError)
    (action : Session C Q → W → Except HostError α × Session C Q × W) (world : W) :
    (host.onSession key missing action world).2.1.registry.limit = host.registry.limit := by
  unfold onSession
  split <;> rfl

/-- A call that is no connect, disconnect or shutdown leaves the keys alone. -/
lemma keys_perform (hnodup : host.registry.keys.Nodup) {call : HostCall} (hconnects : ¬ call.connects)
    (hdisconnect : ∀ key, call ≠ .disconnect key) (hall : call ≠ .disconnectAll) (world : W) :
    (host.perform call world).2.1.registry.keys = host.registry.keys := by
  cases call with
  | connect | connectAttempt => exact (hconnects rfl).elim
  | disconnect key => exact (hdisconnect key rfl).elim
  | disconnectAll => exact (hall rfl).elim
  | reset key => exact keys_onSession key _ Session.reset world
  | reestablish key => exact keys_onSession key _ (fun session => session.reestablish host.config.ioQueueDepth) world
  | _ => exact (perform_steps hnodup rfl world).keys

lemma limit_perform (hnodup : host.registry.keys.Nodup) (call : HostCall) (world : W) :
    (host.perform call world).2.1.registry.limit = host.registry.limit := by
  cases call with
  | connect command defaults =>
    rcases host.perform_membership (show (HostCall.connect command defaults).connects from rfl) world with
      ⟨_, _, heq, -⟩ | ⟨_, _, -, -, -, heq⟩ <;> rw [heq]
  | connectAttempt attempt defaults =>
    rcases host.perform_membership (show (HostCall.connectAttempt attempt defaults).connects from rfl) world with
      ⟨_, _, heq, -⟩ | ⟨_, _, -, -, -, heq⟩ <;> rw [heq]
  | disconnect key =>
    simp only [perform, disconnect]
    split <;> rfl
  | disconnectAll => rfl
  | reset key => exact limit_onSession key _ Session.reset world
  | reestablish key => exact limit_onSession key _ (fun session => session.reestablish host.config.ioQueueDepth) world
  | _ => exact (perform_steps hnodup rfl world).limit

end Host

namespace Enrolled

variable {config : Config} {log : List (HostCall × HostAnswer)} {host : Host C Q}

lemma start (config : Config) : Enrolled config [] (Host.ofConfig config : Host C Q) :=
  ⟨rfl, rfl, List.nodup_nil, Nat.zero_le _⟩

variable (h : Enrolled config log host)
include h

lemma connecting {call : HostCall} (hconnects : call.connects) (world : W) :
    Enrolled config (log ++ [(call, (host.perform call world).1)]) (host.perform call world).2.1 := by
  have hends : ∀ key answer, ends key (call, answer) = false := by
    intro key answer
    refine ends_eq_false (fun other heq => ?_) (fun heq => ?_) key answer
    · rw [heq] at hconnects
      cases hconnects
    · rw [heq] at hconnects
      cases hconnects
  rcases host.perform_membership hconnects world with
    ⟨error, world', heq, -⟩ | ⟨session, world', hroom, hnew, -, heq⟩
  · rw [heq]
    exact ⟨h.limit, h.keys.trans (survivors_append_other log rfl fun key => hends key _).symm, h.nodup, h.bounded⟩
  · rw [heq]
    have hconnected : connected? (call, .connected (.ok session.key)) = some session.key := if_pos hconnects
    have hkeys : ({ host.registry with sessions := host.registry.sessions ++ [session] } : Registry C Q).keys =
        host.registry.keys ++ [session.key] := by
      simp [Registry.keys]
    refine ⟨h.limit, ?_, ?_, ?_⟩
    · simp only [hkeys]
      rw [survivors_append, hconnected, h.keys, List.filter_eq_self.mpr fun key _ => by rw [hends]; rfl]
      rfl
    · simp only [hkeys]
      rw [List.nodup_append_comm]
      exact List.nodup_cons.mpr ⟨hnew, h.nodup⟩
    · simp only [hkeys]
      have hsize : host.registry.size < host.registry.limit := by simpa [Registry.isFull] using hroom
      rw [h.limit] at hsize
      rw [List.length_append, List.length_singleton, Registry.keys, List.length_map]
      exact hsize

lemma disconnecting (key : SessionKey) (world : W) :
    Enrolled config (log ++ [(.disconnect key, (host.perform (.disconnect key) world).1)])
      (host.perform (.disconnect key) world).2.1 := by
  have hanswer : (host.perform (.disconnect key) world).1 = .done (host.disconnect key world).1 := rfl
  have hkeys : (host.perform (.disconnect key) world).2.1.registry.keys = host.registry.keys.filter (· ≠ key) :=
    Host.keys_disconnect h.nodup key world
  refine ⟨(Host.limit_perform h.nodup _ world).trans h.limit, ?_, ?_, ?_⟩
  · rw [hkeys, survivors_append, hanswer, connected?_of_not_connects (by simp [connects]), Option.toList_none,
      List.append_nil, ← h.keys, host.disconnect_eq]
    refine List.filter_congr fun other hother => ?_
    by_cases hmem : key ∈ host.registry.keys
    · rw [if_pos hmem]
      simp [ends, eq_comm]
    · rw [if_neg hmem]
      have hne : other ≠ key := fun heq => hmem (heq ▸ hother)
      simp [ends, hne]
  · rw [hkeys]
    exact h.nodup.filter _
  · rw [hkeys]
    exact Nat.le_trans (List.length_filter_le _ _) h.bounded

lemma perform (call : HostCall) (world : W) :
    Enrolled config (log ++ [(call, (host.perform call world).1)]) (host.perform call world).2.1 := by
  by_cases hconnects : call.connects
  · exact h.connecting hconnects world
  · by_cases hdisconnect : ∃ key, call = .disconnect key
    · obtain ⟨key, rfl⟩ := hdisconnect
      exact h.disconnecting key world
    · by_cases hall : call = .disconnectAll
      · subst hall
        refine ⟨h.limit, ?_, List.nodup_nil, Nat.zero_le _⟩
        rw [survivors_append, List.filter_eq_nil_iff.mpr (by simp [ends])]
        rfl
      · have hdisconnect' : ∀ key, call ≠ .disconnect key := fun key heq => hdisconnect ⟨key, heq⟩
        have hkeys := Host.keys_perform h.nodup hconnects hdisconnect' hall world
        have hsame := survivors_append_other log (connected?_of_not_connects hconnects (host.perform call world).1)
          fun key => ends_eq_false hdisconnect' hall key _
        refine ⟨(Host.limit_perform h.nodup call world).trans h.limit, ?_, ?_, ?_⟩
        · rw [hkeys, hsame, h.keys]
        · rw [hkeys]
          exact h.nodup
        · rw [hkeys]
          exact h.bounded

lemma run (world : W) (calls : List (HostCall × (W → W))) :
    Enrolled config (log ++ (host.run world calls).1) (host.run world calls).2.1 :=
  Host.run_induction (fun log host _ => Enrolled config log host)
    (fun _ _ world call h => h.perform call world) calls (fun _ _ _ _ _ h => h) h

/-- With at most as many sessions as a hash has variants, there is a free key whenever there is room. -/
lemma key_left (hlimit : config.maxSessions ≤ SessionKey.variants) {call : HostCall} (hconnects : call.connects)
    (world : W) (target : Endpoint) :
    (host.perform call world).1 ≠ .connected (.error (.outOfResources (.keys target))) := by
  rcases host.perform_membership hconnects world with ⟨error, world', heq, -, hkeys⟩ | ⟨session, world', -, -, -, heq⟩
  · rw [heq]
    intro hanswer
    cases hanswer
    obtain ⟨hroom, hvariants⟩ := hkeys target rfl
    have hsize : host.registry.size < host.registry.limit := by simpa [Registry.isFull] using hroom
    rw [Registry.keys, List.length_map] at hvariants
    rw [h.limit, Registry.size] at hsize
    omega
  · rw [heq]
    intro hanswer
    cases hanswer

/-- A session that was disconnected can be disconnected again only after another connect under its key. -/
lemma disconnect_again (key : SessionKey) (world world' : W) (calls : List (HostCall × (W → W)))
    (hdone : (host.disconnect key world).1 = .ok ())
    (hapart : ∀ entry ∈ ((host.disconnect key world).2.1.run world' calls).1, connected? entry ≠ some key)
    (world'' : W) :
    (((host.disconnect key world).2.1.run world' calls).2.1.disconnect key world'').1 =
      .error (.notFound (.session key)) := by
  have hafter := h.disconnecting key world
  have hlater := hafter.run world' calls
  rw [Host.disconnect_eq, if_neg]
  intro hmem
  have hkeys : key ∈ ((host.perform (.disconnect key) world).2.1.run world' calls).2.1.registry.keys := hmem
  rw [hlater.keys] at hkeys
  rcases mem_survivors_append hkeys with hold | ⟨entry, hentry, hconnected⟩
  · have hends : ends key (.disconnect key, (host.perform (.disconnect key) world).1) = true := by
      have hanswer : (host.perform (.disconnect key) world).1 = .done (host.disconnect key world).1 := rfl
      rw [hanswer, hdone]
      simp [ends]
    rw [survivors_append, connected?_of_not_connects (by simp [connects]), Option.toList_none, List.append_nil,
      List.mem_filter, hends] at hold
    cases hold.2
  · exact hapart entry hentry hconnected

end Enrolled

/-- After any run, the registry has the keys of the connects that succeeded and were not ended since, in their order,
each once and no more than there may be. So connects never meet a duplicate, disconnects find exactly these keys, and
keys do not run out before sessions do. -/
theorem registry_history {W C Q : Type} [Fabric W C Q] [Clock W] (config : Config) (world : W)
    (calls : List (HostCall × (W → W))) :
    let log := ((Host.ofConfig config : Host C Q).run world calls).1
    let host := ((Host.ofConfig config : Host C Q).run world calls).2.1
    host.registry.keys = survivors log ∧ host.registry.keys.Nodup ∧
      host.registry.keys.length ≤ config.maxSessions ∧
      (∀ call (now : W), ¬ call.connects → (∀ key, call ≠ .disconnect key) → call ≠ .disconnectAll →
        (host.perform call now).2.1.registry.keys = host.registry.keys) ∧
      (∀ call (now : W) key, call.connects →
        (host.perform call now).1 ≠ .connected (.error (.duplicateSession key))) ∧
      (∀ key (now : W), (host.disconnect key now).1 =
        if key ∈ survivors log then .ok () else .error (.notFound (.session key))) ∧
      (∀ key (now later : W) (calls : List (HostCall × (W → W))), (host.disconnect key now).1 = .ok () →
        let rest := (host.disconnect key now).2.1.run later calls
        (∀ entry ∈ rest.1, connected? entry ≠ some key) →
          ∀ last : W, (rest.2.1.disconnect key last).1 = .error (.notFound (.session key))) ∧
      (config.maxSessions ≤ 256 → ∀ call (now : W) target, call.connects →
        (host.perform call now).1 ≠ .connected (.error (.outOfResources (.keys target)))) := by
  intro log host
  have h : Enrolled config log host := (Enrolled.start config).run world calls
  refine ⟨h.keys, h.nodup, h.bounded, ?_, ?_, ?_, ?_, ?_⟩
  · exact fun call now hconnects hdisconnect hall => Host.keys_perform h.nodup hconnects hdisconnect hall now
  · exact fun call now key hconnects => host.perform_ne_duplicate hconnects now key
  · intro key now
    rw [Host.disconnect_eq, h.keys]
  · exact fun key now later calls hdone hapart last => h.disconnect_again key now later calls hdone hapart last
  · exact fun hlimit call now target hconnects => h.key_left hlimit hconnects now target

end FabricHost
