import FabricHost.Proofs.Blocks.Serving

/-!
# Reads and writes that a simulated network serves

A read or a write that is not given up is answered according to whether the session admits its range: a read brings what
the range holds, a write is stored, and what is not admitted is refused and changes nothing.
-/

namespace FabricHost

variable {W : Type} [Fabric W LoopbackController LoopbackQueue] [Clock W] {sim : Simulates W}

namespace Host

variable {host : Host LoopbackController LoopbackQueue} {α : Type}

/-- The write that a call made, if it did. -/
def written? {C Q : Type} (host : Host C Q) : HostCall × HostAnswer → Option BlockWrite
  | (.write key range data, .done (.ok ())) =>
    (host.registry.find? key).map fun session => ⟨session.subsystem, range, data⟩
  | _ => none

section

variable (hnodup : host.registry.keys.Nodup) (hlive : ∀ session ∈ host.registry.sessions, session.state = .live)
  (key : SessionKey) (range : BlockRange) (available : Nat)
  (action : RequestId → Session LoopbackController LoopbackQueue → W →
    Except HostError α × Session LoopbackController LoopbackQueue × W)
  (haction : ∀ request session world,
    Session.Errands (fun _ _ => True) (fun _ => True) (session, world) (action request session world).2)
  (world : W)
include hnodup hlive haction

/-- A call for a range either finds no session, or replaces the one that it finds. -/
lemma onLive_found :
    let result := host.onLive key (fun last session => session.permitted host.config last range available action) world
    (host.registry.find? key = none ∧ result = (.error .sessionClosed, host, world)) ∨
      ∃ before session behind, host.registry.sessions = before ++ session :: behind ∧
        host.registry.find? key = some session ∧
        let inner := session.permitted host.config host.lastRequest range available action world
        inner.2.2.1.controller = session.controller ∧ inner.2.2.1.subsystem = session.subsystem ∧
        result.1 = inner.1 ∧ result.2.1.registry.sessions = before ++ inner.2.2.1 :: behind ∧
        result.2.1.registry.find? key = some inner.2.2.1 ∧ result.2.2 = inner.2.2.2 := by
  have hsteps : ∀ last (session : Session LoopbackController LoopbackQueue) (world : W),
      Session.Steps (fun _ _ => True) (fun _ => True) (session, world)
        (session.permitted host.config last range available action world).2.2 := fun last session world =>
    (session.permitted_errands world host.config last range available action (fun request session world _ =>
      haction request session world) fun _ _ _ => trivial).steps
  intro result
  rcases onLive_cases hnodup key _ (fun last session world => (hsteps last session world).key) world with
    ⟨hnone, heq⟩ | ⟨before, session, behind, hsplit, hkey, hother, ⟨hclosed, -⟩ | ⟨-, heq⟩⟩
  · exact .inl ⟨Registry.find?_eq_none_iff.mpr hnone, heq⟩
  · rw [hlive session (by simp [hsplit])] at hclosed
    cases hclosed
  · have hfound := Registry.find?_of_mem hnodup (by simp [hsplit] : session ∈ host.registry.sessions)
    obtain ⟨hcontroller, htarget, hnqn⟩ := (hsteps host.lastRequest session world).association
    have hkey' := (hsteps host.lastRequest session world).key
    refine .inr ⟨before, session, behind, hsplit, hkey ▸ hfound, hcontroller, ?_, ?_, ?_, ?_, ?_⟩
    · rw [Session.subsystem, htarget, hnqn]
      rfl
    all_goals simp only [result, heq]
    rw [Registry.find?_middle fun other hmem => ?_, if_pos (hkey'.trans hkey)]
    rw [hkey', hkey]
    exact hother other (List.mem_append_left _ hmem)

end

section

variable {writes : List BlockWrite} {world : W} (hnodup : host.registry.keys.Nodup)
  (hmapped : ∀ session ∈ host.registry.sessions, session.Mapped)
  (h : Serves sim writes host.registry.sessions world) (key : SessionKey) (range : BlockRange)
include hnodup hmapped h

lemma read_serves (buffer : Bytes) :
    let result := host.read key range buffer world
    (∃ error, error.isTimeout = true ∧ result.1 = .error error) ∨
      (Serves sim writes result.2.1.registry.sessions result.2.2 ∧ Loopback.Calm (sim.net world) (sim.net result.2.2)) ∧
        (∀ session, result.2.1.registry.find? key = some session → session.Admits range buffer.length →
          result.1 = .ok (BlockWrite.contents writes session.subsystem range ++ buffer.drop range.length)) ∧
        ((∀ session, result.2.1.registry.find? key = some session → ¬ session.Admits range buffer.length) →
          ∃ error, result.1 = .error error ∧ error.isRefusal = true) := by
  have hnow : sim.net (Clock.now world).2 = sim.net world := sim.now_net world
  have hserves : Serves sim writes host.registry.sessions (Clock.now world).2 :=
    h.upheld (hnow ▸ (Loopback.Calm.refl _).upholds)
  intro result
  simp only [result]
  rw [read_eq_permitted]
  rcases onLive_found hnodup (fun session hsession => (h.attached session hsession).live) key range buffer.length
    (Session.readPermitted host.config (Tick.after (Clock.now world).1 host.config.ioTimeoutMs) range buffer)
    (fun _ session world => session.readPermitted_errands world _ _ _ _ trivial trivial) (Clock.now world).2 with
    ⟨hnone, heq⟩ | ⟨before, session, behind, hsplit, hfound, hcontroller, hsubsystem, hanswer, hsessions, hafter, hworld⟩
  · rw [heq]
    refine .inr ⟨⟨hserves, hnow ▸ .refl _⟩, fun session hsome => ?_, fun _ => ⟨_, rfl, rfl⟩⟩
    rw [hnone] at hsome
    cases hsome
  · have hmem : session ∈ host.registry.sessions := List.mem_of_find?_eq_some hfound
    rcases (hserves.attached session hmem).read sim (hmapped session hmem) hserves.ioStatus hserves.stores host.config
      (Tick.after (Clock.now world).1 host.config.ioTimeoutMs) host.lastRequest h.enough buffer with
      ⟨error, htimeout, hgiven⟩ | ⟨hrests, hadmitted, hrefused⟩
    · exact .inl ⟨error, htimeout, hanswer.trans hgiven⟩
    · rw [hanswer, hsessions, hafter, hworld]
      rw [hsplit] at hserves
      refine .inr ⟨⟨?_, hnow ▸ hrests.calm⟩, fun other hsome hin => ?_, fun hout => hrefused (hout _ rfl)⟩
      · exact hserves.replaced hrests.calm.toAlike hrests.attached hcontroller
          (hserves.stores.congr hrests.calm.volumes) hserves.enough
      · cases hsome
        rw [hsubsystem]
        exact hadmitted hin

lemma write_serves (data : Bytes) :
    let result := host.write key range data world
    (∃ error, error.isTimeout = true ∧ result.1 = .error error) ∨
      (Serves sim (writes ++ (host.written? (.write key range data, .done result.1)).toList) result.2.1.registry.sessions
          result.2.2 ∧ Loopback.Alike (sim.net world) (sim.net result.2.2)) ∧
        (∀ session, result.2.1.registry.find? key = some session → session.Admits range data.length →
          result.1 = .ok () ∧ (sim.net result.2.2).Stores (writes ++ [⟨session.subsystem, range, data⟩])) ∧
        ((∀ session, result.2.1.registry.find? key = some session → ¬ session.Admits range data.length) →
          (∃ error, result.1 = .error error ∧ error.isRefusal = true) ∧
            Loopback.Calm (sim.net world) (sim.net result.2.2)) := by
  have hnow : sim.net (Clock.now world).2 = sim.net world := sim.now_net world
  have hserves : Serves sim writes host.registry.sessions (Clock.now world).2 :=
    h.upheld (hnow ▸ (Loopback.Calm.refl _).upholds)
  intro result
  simp only [result]
  rw [write_eq_permitted]
  rcases onLive_found hnodup (fun session hsession => (h.attached session hsession).live) key range data.length
    (Session.writePermitted host.config (Tick.after (Clock.now world).1 host.config.ioTimeoutMs) range data)
    (fun _ session world => session.writePermitted_errands world _ _ _ _ trivial trivial) (Clock.now world).2 with
    ⟨hnone, heq⟩ | ⟨before, session, behind, hsplit, hfound, hcontroller, hsubsystem, hanswer, hsessions, hafter, hworld⟩
  · rw [heq]
    refine .inr ⟨⟨?_, hnow ▸ .refl _⟩, fun session hsome => ?_, fun _ => ⟨⟨_, rfl, rfl⟩, hnow ▸ .refl _⟩⟩
    · rw [written?, Option.toList_none, List.append_nil]
      · exact hserves
      · rintro _ _ _ ⟨⟩
    · rw [hnone] at hsome
      cases hsome
  · have hmem : session ∈ host.registry.sessions := List.mem_of_find?_eq_some hfound
    rcases (hserves.attached session hmem).write sim (hmapped session hmem) hserves.ioStatus hserves.stores host.config
      (Tick.after (Clock.now world).1 host.config.ioTimeoutMs) host.lastRequest data with
      ⟨error, htimeout, hgiven⟩ | ⟨⟨halike, hattached⟩, hadmitted, hrefused⟩
    · exact .inl ⟨error, htimeout, hanswer.trans hgiven⟩
    · rw [hanswer, hsessions, hafter, hworld]
      rw [hsplit] at hserves
      generalize session.permitted host.config host.lastRequest range data.length (Session.writePermitted host.config
        (Tick.after (Clock.now world).1 host.config.ioTimeoutMs) range data) (Clock.now world).2 = inner at *
      refine .inr ⟨⟨?_, hnow ▸ halike⟩, fun other hsome hin => ?_, fun hout => ?_⟩
      · by_cases hin : inner.2.2.1.Admits range data.length
        · obtain ⟨hdone, hstored⟩ := hadmitted hin
          have hwritten : host.written? (.write key range data, .done inner.1) = some ⟨session.subsystem, range, data⟩ := by
            rw [hdone, written?, hfound, Option.map_some]
          rw [hwritten]
          refine hserves.replaced halike hattached hcontroller hstored fun write hwrite => ?_
          rcases List.mem_append.mp hwrite with hmem | hmem
          · exact hserves.enough write hmem
          · cases List.mem_singleton.mp hmem
            exact hin.available
        · obtain ⟨⟨error, herror, -⟩, hcalm⟩ := hrefused hin
          have hwritten : host.written? (.write key range data, .done inner.1) = none := by
            rw [herror]
            rfl
          rw [hwritten, Option.toList_none, List.append_nil]
          exact hserves.replaced halike hattached hcontroller (hserves.stores.congr hcalm.volumes) hserves.enough
      · cases hsome
        rw [hsubsystem]
        exact hadmitted hin
      · rw [← hnow]
        exact hrefused (hout _ rfl)

end

end Host

end FabricHost
