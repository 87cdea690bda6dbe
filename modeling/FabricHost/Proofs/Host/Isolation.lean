import FabricHost.Proofs.Host.Invariants

/-!
# Sessions do not disturb each other

A call concerns one session at most: the one that it is addressed to, or the one that a connect makes. All others stay as
they are and in their order, whatever the answer is.
-/

namespace FabricHost

variable {W C Q : Type}

/-- The sessions of other keys. -/
def Registry.others (registry : Registry C Q) (key : SessionKey) : List (Session C Q) :=
  registry.sessions.filter (·.key ≠ key)

/-- Whether a call, by its answer, was about no session but that of a key. -/
def HostCall.Concerns (key : SessionKey) (entry : HostCall × HostAnswer) : Prop :=
  entry.1.addressee? = some key ∨ entry.1.connects ∧ ∀ made, connected? entry = some made → made = key

namespace Registry

variable {key : SessionKey} {before behind : List (Session C Q)}

lemma filter_others (h : ∀ other ∈ before, other.key ≠ key) : before.filter (·.key ≠ key) = before :=
  List.filter_eq_self.mpr fun other hother => decide_eq_true (h other hother)

/-- Around its place in the middle, a session has the others. -/
lemma others_middle {limit : Nat} {session : Session C Q} (hkey : session.key = key)
    (hothers : ∀ other ∈ before ++ behind, other.key ≠ key) :
    others { limit, sessions := before ++ session :: behind } key = before ++ behind := by
  have hbefore := filter_others fun other hother => hothers other (List.mem_append_left behind hother)
  have hbehind := filter_others fun other hother => hothers other (List.mem_append_right before hother)
  rw [others, List.filter_append, List.filter_cons_of_neg (by simpa using hkey), hbefore, hbehind]

lemma others_of_split {registry : Registry C Q} {session : Session C Q}
    (hsplit : registry.sessions = before ++ session :: behind) (hkey : session.key = key)
    (hothers : ∀ other ∈ before ++ behind, other.key ≠ key) : registry.others key = before ++ behind := by
  have hmiddle : others { limit := registry.limit, sessions := before ++ session :: behind } key = before ++ behind :=
    others_middle hkey hothers
  rwa [← hsplit] at hmiddle

end Registry

namespace Host

variable {host : Host C Q} {key : SessionKey}

lemma onSession_others (hnodup : host.registry.keys.Nodup) (missing : HostError) {α : Type}
    {action : Session C Q → W → Except HostError α × Session C Q × W}
    (haction : ∀ session world, (action session world).2.1.key = session.key) (world : W) :
    (host.onSession key missing action world).2.1.registry.others key = host.registry.others key := by
  rcases onSession_cases hnodup key missing action haction world with
    ⟨-, heq⟩ | ⟨before, session, behind, hsplit, hkey, hothers, heq⟩
  · rw [heq]
  · rw [heq, Registry.others_of_split hsplit hkey hothers]
    exact Registry.others_middle ((haction session world).trans hkey) hothers

variable [Fabric W C Q]

lemma disconnect_others (hnodup : host.registry.keys.Nodup) (world : W) :
    (host.disconnect key world).2.1.registry.others key = host.registry.others key := by
  rcases disconnect_cases hnodup key world with ⟨-, heq⟩ | ⟨before, session, behind, hsplit, hkey, hothers, heq⟩
  · rw [heq]
  · rw [heq, Registry.others_of_split hsplit hkey hothers]
    exact Registry.filter_others hothers

variable [Clock W]

lemma Visit.others {own : SessionKey → RequestId → Prop} {sends : Command → Prop} {before after : Host C Q × W}
    (h : Visit own sends key before after) : after.1.registry.others key = before.1.registry.others key := by
  induction h with
  | now _ ih => exact ih
  | number _ _ ih => exact ih
  | missed => rfl
  | made hsplit hkey hothers h =>
    rw [Registry.others_of_split hsplit hkey hothers]
    exact Registry.others_middle (h.key.trans hkey) hothers

/-- A connect adds a session behind the others, or nothing. -/
lemma connecting_others {call : HostCall} (hconnects : call.connects) (world : W)
    (hmade : ∀ made, HostCall.connected? (call, (host.perform call world).1) = some made → made = key) :
    (host.perform call world).2.1.registry.others key = host.registry.others key := by
  rcases host.perform_membership hconnects world with ⟨_, _, heq, -⟩ | ⟨session, _, -, -, -, heq⟩
  · rw [heq]
  · rw [heq] at hmade ⊢
    have hkey : session.key = key := hmade session.key (if_pos hconnects)
    have hnew : [session].filter (·.key ≠ key) = [] := List.filter_cons_of_neg (by simpa using hkey)
    rw [Registry.others, List.filter_append, hnew, List.append_nil, Registry.others]

/-- No call touches a session that it does not concern. -/
lemma perform_others (hnodup : host.registry.keys.Nodup) (call : HostCall) (world : W)
    (h : HostCall.Concerns key (call, (host.perform call world).1)) :
    (host.perform call world).2.1.registry.others key = host.registry.others key := by
  rcases h with haddressee | ⟨hconnects, hmade⟩
  · cases call with
    | connect | connectAttempt | disconnectAll | tick | tickAt => cases haddressee
    | disconnect =>
      cases haddressee
      exact disconnect_others hnodup world
    | reset =>
      cases haddressee
      exact onSession_others hnodup _ Session.reset_key world
    | reestablish =>
      cases haddressee
      exact onSession_others hnodup _ (fun session => session.reestablish_key _) world
    | _ => exact (perform_visit hnodup rfl haddressee world).others
  · exact connecting_others hconnects world hmade

lemma run_others {config : Config} {log : List (HostCall × HostAnswer)} (sound : Sound config log host) (world : W)
    (calls : List (HostCall × (W → W)))
    (h : ∀ entry ∈ (host.run world calls).1, HostCall.Concerns key entry) :
    (host.run world calls).2.1.registry.others key = host.registry.others key := by
  induction calls generalizing host log world with
  | nil => rfl
  | cons call rest ih =>
    have hfirst := perform_others sound.enrolled.nodup call.1 (call.2 world) (h _ List.mem_cons_self)
    have hrest := ih (sound.perform call.1 (call.2 world)) _ fun entry hentry => h entry (List.mem_cons_of_mem _ hentry)
    exact hrest.trans hfirst

end Host

/-- After any run, no two sessions have the same key, and a call leaves all sessions alone but the one it is addressed to
or makes: the list of the others is the same before and after. So it is over any further run of such calls. -/
theorem sessions_isolated [Fabric W C Q] [Clock W] (config : Config) (world : W) (calls : List (HostCall × (W → W))) :
    let host := ((Host.ofConfig config : Host C Q).run world calls).2.1
    host.registry.keys.Nodup ∧
      (∀ (call : HostCall) (now : W) key, HostCall.Concerns key (call, (host.perform call now).1) →
        (host.perform call now).2.1.registry.others key = host.registry.others key) ∧
      ∀ (later : W) (more : List (HostCall × (W → W))) key,
        (∀ entry ∈ (host.run later more).1, HostCall.Concerns key entry) →
          (host.run later more).2.1.registry.others key = host.registry.others key := by
  intro host
  have sound : Host.Sound config _ host := (Host.Sound.start config).run world calls
  have hnodup := sound.enrolled.nodup
  refine ⟨hnodup, fun call now key h => ?_, fun later more key h => ?_⟩
  · exact Host.perform_others hnodup call now h
  · exact Host.run_others sound later more h

end FabricHost
