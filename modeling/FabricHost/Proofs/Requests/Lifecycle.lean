import FabricHost.Loopback.Network
import FabricHost.Proofs.Queue.Delivery
import FabricHost.Proofs.Requests.Handles

/-!
# Handles over whole runs

From its submit on, a request is tracked until a call ends its life, and from then on nobody knows it.
-/

namespace FabricHost

open HostCall

variable {W C Q : Type} [Fabric W C Q] [Clock W]

namespace Host

variable {config : Config} {log earlier : List (HostCall × HostAnswer)} {host : Host C Q} {handle : RequestHandle}

/-- Whether the request of a handle is waited for, or its completion can be taken. -/
def tracks (host : Host C Q) (handle : RequestHandle) : Bool :=
  (host.registry.find? handle.session).any fun session => session.io.any fun io => io.tracker.isTracked handle.request

omit [Fabric W C Q] [Clock W] in
lemma tracks_iff_places : host.tracks handle = true ↔ 0 < host.places handle := by
  unfold tracks places
  cases host.registry.find? handle.session with
  | none => simp
  | some session =>
    simp only [Option.any_some, Session.places]
    cases session.io with
    | none => simp
    | some io => exact Tracker.isTracked_iff_places

/-- What is known of a submitted request by what was answered since. -/
structure Followed (handle : RequestHandle) (log : List (HostCall × HostAnswer)) (host : Host C Q) : Prop where
  numbered : handle.request ≤ host.lastRequest
  places : host.places handle = if log.any (settles handle) then 0 else 1
  completed : log.countP (completes handle) + host.places handle ≤ 1

lemma Followed.perform (h : Followed handle log host) (hsound : Sound config earlier host) (call : HostCall) (world : W) :
    Followed handle (log ++ [(call, (host.perform call world).1)]) (host.perform call world).2.1 := by
  have hnodup := hsound.enrolled.nodup
  have hone : host.places handle ≤ 1 := Nat.le_trans (Nat.le_add_left _ _) h.completed
  have hplaces := perform_places hnodup hsound.settled hone call world (.inl h.numbered)
  refine ⟨Nat.le_trans h.numbered (lastRequest_perform hnodup call world), ?_, ?_⟩
  · rw [hplaces, h.places, List.any_append, List.any_cons, List.any_nil, Bool.or_false]
    cases log.any (settles handle) <;> simp
  · rw [hplaces, List.countP_append, List.countP_singleton]
    by_cases hcompletes : completes handle (call, (host.perform call world).1) = true
    · have htracked := places_of_completes hnodup hsound.settled hone hcompletes
      have hcompleted := h.completed
      rw [if_pos hcompletes, if_pos (settles_of_completes hcompletes)]
      omega
    · rw [if_neg hcompletes]
      split
      · exact Nat.le_trans (Nat.le_add_right _ _) h.completed
      · exact h.completed

lemma Followed.run (h : Followed handle log host) (hsound : Sound config earlier host) (world : W)
    (calls : List (HostCall × (W → W))) :
    Followed handle (log ++ (host.run world calls).1) (host.run world calls).2.1 := by
  refine (run_induction (fun log host _ => (∃ earlier, Sound config earlier host) ∧ Followed handle log host)
    ?_ calls (fun _ _ _ _ _ h => h) ⟨⟨earlier, hsound⟩, h⟩).2
  exact fun _ _ world call ⟨⟨_, hsound⟩, h⟩ => ⟨⟨_, hsound.perform call world⟩, h.perform hsound call world⟩

lemma fresh_run (config : Config) (world : W) (calls : List (HostCall × (W → W))) :
    ((Host.ofConfig config : Host C Q).run world calls).2.1.Fresh := by
  refine (run_induction (fun log host _ => Sound config log host ∧ Fresh host) ?_ calls (fun _ _ _ _ _ h => h)
    ⟨Sound.start config, fun _ _ => rfl⟩).2
  exact fun _ _ world call ⟨hsound, h⟩ =>
    ⟨hsound.perform call world, h.perform hsound.enrolled.nodup hsound.settled call world⟩

/-- A handle is given for a request that is tracked from then on. -/
lemma followed_of_submitted (hsound : Sound config earlier host) (hfresh : host.Fresh) {call : HostCall} {world : W}
    (hsubmitted : (host.perform call world).1 = .submitted (.ok handle)) :
    Followed handle [] (host.perform call world).2.1 := by
  have hstart : ∀ {after : Host C Q}, handle.request ≤ after.lastRequest ∧ after.places handle = 1 →
      Followed handle [] after := fun h => ⟨h.1, h.2, Nat.le_of_eq (by rw [h.2]; rfl)⟩
  cases call with
  | submitRead key range =>
    simp only [Host.perform, submitRead, Prod.map_fst, HostAnswer.submitted.injEq] at hsubmitted
    obtain ⟨request, hdone, rfl⟩ := map_eq_ok_iff.mp hsubmitted
    exact hstart (hfresh.submit_places hsound.enrolled.nodup ⟨key, request, .read⟩ range _ _ world hdone)
  | submitWrite key range data =>
    simp only [Host.perform, submitWrite, Prod.map_fst, HostAnswer.submitted.injEq] at hsubmitted
    obtain ⟨request, hdone, rfl⟩ := map_eq_ok_iff.mp hsubmitted
    exact hstart (hfresh.submit_places hsound.enrolled.nodup ⟨key, request, .write⟩ range _ _ world hdone)
  | _ => cases hsubmitted

end Host

/-- From its submit on a request is tracked, and polls find it in flight, fail to reap, or bring its completion, until
they have brought it, or it is abandoned, or a reset or a disconnect ends it. Its completion comes at most once. Once it
has ended, every poll and every abandon says that there is no such request or no session, also when the session has got a
new queue and when there is a later session of the same key. -/
theorem handle_lifecycle {W C Q : Type} [Fabric W C Q] [Clock W] (config : Config) (world : W)
    (calls : List (HostCall × (W → W))) (submit : HostCall) (now : W) (handle : RequestHandle)
    (hsubmitted : (((Host.ofConfig config : Host C Q).run world calls).2.1.perform submit now).1 =
      .submitted (.ok handle))
    (next : W) (later : List (HostCall × (W → W))) :
    let run := (((Host.ofConfig config : Host C Q).run world calls).2.1.perform submit now).2.1.run next later
    let host := run.2.1
    run.1.countP (completes handle) ≤ 1 ∧
      ((∀ entry ∈ run.1, settles handle entry = false) →
        host.tracks handle = true ∧ ∀ last : W, (host.poll handle last).1 = .ok none ∨
          (∃ failure, (host.poll handle last).1 = .error (.transportError (.fabric failure))) ∨
          (∃ result, (host.poll handle last).1 = .ok (some result)) ∨
          ∃ status, (host.poll handle last).1 = .error (.mediaError status)) ∧
      ((∃ entry ∈ run.1, settles handle entry = true) →
        host.tracks handle = false ∧ (∀ last : W, (host.poll handle last).1 = .error .sessionClosed ∨
            (host.poll handle last).1 = .error (.notFound (.request handle.request))) ∧
          ((host.abandon handle).1 = .error .sessionClosed ∨
            (host.abandon handle).1 = .error (.notFound (.request handle.request)))) := by
  intro run host
  have hsound := (Host.Sound.start config).run world calls (C := C) (Q := Q)
  have hafter := hsound.perform submit now
  have hfollowed : Host.Followed handle run.1 host :=
    (Host.followed_of_submitted hsound (Host.fresh_run config world calls) hsubmitted).run hafter next later
  have hfinal : Host.Sound config _ host := hafter.run next later
  have hone : host.places handle ≤ 1 := Nat.le_trans (Nat.le_add_left _ _) hfollowed.completed
  have hsame : handle.names handle = true := by simp [RequestHandle.names]
  refine ⟨Nat.le_trans (Nat.le_add_right _ _) hfollowed.completed, ?_, ?_⟩
  · intro hopen
    have htracked : host.places handle = 1 := by
      rw [hfollowed.places, if_neg (by simpa using hopen)]
    refine ⟨Host.tracks_iff_places.mpr (htracked ▸ Nat.one_pos), fun last => ?_⟩
    rcases Host.poll_cases hfinal.enrolled.nodup hfinal.settled last hone hsame with
      ⟨-, -, hfailed | hwaiting⟩ | ⟨-, -, hdone⟩ | ⟨hzero, -, -⟩
    · exact .inr (.inl hfailed)
    · exact .inl hwaiting
    · exact .inr (.inr hdone)
    · rw [htracked] at hzero
      cases hzero
  · intro hsettled
    have hgone : host.places handle = 0 := by
      rw [hfollowed.places, if_pos (by simpa using hsettled)]
    refine ⟨?_, fun last => ?_, ?_⟩
    · rw [← Bool.not_eq_true, Host.tracks_iff_places, hgone]
      exact Nat.lt_irrefl 0
    · rcases Host.poll_cases hfinal.enrolled.nodup hfinal.settled last hone hsame with
        ⟨hone, -, -⟩ | ⟨hone, -, -⟩ | ⟨-, -, hanswer⟩
      · rw [hgone] at hone
        cases hone
      · rw [hgone] at hone
        cases hone
      · exact hanswer
    · rcases Host.abandon_cases hfinal.enrolled.nodup hone hsame with ⟨hone, -, -⟩ | ⟨-, -, hanswer⟩
      · rw [hgone] at hone
        cases hone
      · exact hanswer

/-- A simulated network with one subsystem of one namespace. -/
def Simulation.single : Simulation where
  net := ({} : Loopback).addSubsystem Loopback.portal "nqn.2014-08.example:disk" [10]

def Simulation.connectSingle : HostCall :=
  .connect { targetAddress := "192.0.2.1", targetPort := 4420, subsystemNqn := "nqn.2014-08.example:disk" } {}

/-- The key of the first session that is connected to the subsystem. -/
def Simulation.singleKey : SessionKey := ⟨#v[17, 163, 233], 0⟩

deriving instance DecidableEq for HostAnswer

set_option maxRecDepth 10000 in
/-- A read is submitted after the namespace was identified, and its completion comes with the first poll. -/
theorem handle_lifecycle_simulated :
    let host := ((Host.ofConfig {} : Host LoopbackController LoopbackQueue).run Simulation.single
      [(Simulation.connectSingle, id)]).2.1
    let world := ((Host.ofConfig {} : Host LoopbackController LoopbackQueue).run Simulation.single
      [(Simulation.connectSingle, id)]).2.2
    let handle : RequestHandle := ⟨Simulation.singleKey, 2, .read⟩
    let submitted := host.perform (.submitRead Simulation.singleKey ⟨1, 0, 1⟩) world
    let run := submitted.2.1.run submitted.2.2 [(.poll handle, id)]
    submitted.1 = .submitted (.ok handle) ∧ run.1.countP (completes handle) ≤ 1 ∧ run.1.any (settles handle) = true ∧
      run.2.1.tracks handle = false := by
  intro host world handle submitted run
  have hsubmitted : submitted.1 = .submitted (.ok handle) := by decide +kernel
  have hsettles : run.1.any (settles handle) = true := by decide +kernel
  obtain ⟨honce, -, hended⟩ := handle_lifecycle {} Simulation.single [(Simulation.connectSingle, id)]
    (.submitRead Simulation.singleKey ⟨1, 0, 1⟩) world handle hsubmitted submitted.2.2 [(.poll handle, id)]
  exact ⟨hsubmitted, honce, hsettles, (hended (List.any_eq_true.mp hsettles)).1⟩

end FabricHost
