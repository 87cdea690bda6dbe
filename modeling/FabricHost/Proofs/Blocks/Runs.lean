import FabricHost.Proofs.Blocks.Access
import FabricHost.Proofs.Requests.Lifecycle

/-!
# A block device

Over any run, through any number of sessions, the volumes of a simulated network behave as an array of blocks.
-/

namespace FabricHost

/-- Whether the call connects, disconnects, reads or writes, and waits until that is done. -/
def HostCall.isBlocking : HostCall → Bool
  | connect .. => true
  | connectAttempt .. => true
  | disconnect _ => true
  | disconnectAll => true
  | read .. => true
  | write .. => true
  | _ => false

/-- Whether the answer says that a read or a write was given up. -/
def HostAnswer.gaveUp : HostAnswer → Bool
  | data (.error error) => error.isTimeout
  | done (.error error) => error.isTimeout
  | _ => false

namespace Loopback

/-- A network that executes commands, and where all blocks are zeros. -/
structure Fresh (net : Loopback) : Prop where
  zeros : ∀ subsystem ∈ net.subsystems, ∀ volume ∈ subsystem.volumes, ∀ number,
    volume.block number = Bytes.zeros Limits.blockSize
  counted : net.lastController.toNat ≤ net.stats.handshakes
  ioStatus : net.behavior.ioStatus = none

lemma Fresh.stores {net : Loopback} (h : net.Fresh) : net.Stores [] := by
  intro name volumes nsid volume hname hvolume number
  obtain ⟨subsystem, hsubsystem, rfl⟩ := Option.map_eq_some_iff.mp hname
  have hmem : volume ∈ subsystem.volumes := by
    unfold volumeOf? at hvolume
    split at hvolume
    · cases hvolume
    · exact List.mem_of_getElem? hvolume
  exact h.zeros subsystem (List.mem_of_find?_eq_some hsubsystem) volume hmem number

lemma fresh_empty {behavior : LoopbackBehavior} (h : behavior.ioStatus = none) : Fresh { behavior } where
  zeros _ hsubsystem := by cases hsubsystem
  counted := Nat.zero_le _
  ioStatus := h

lemma Fresh.addSubsystem {net : Loopback} (h : net.Fresh) (target : Endpoint) (nqn : String) (blocks : List UInt64) :
    (net.addSubsystem target nqn blocks).Fresh where
  zeros subsystem hsubsystem volume hvolume number := by
    rcases List.mem_append.mp hsubsystem with hold | hnew
    · exact h.zeros subsystem (List.mem_filter.mp hold).1 volume hvolume number
    · rw [List.mem_singleton.mp hnew] at hvolume
      obtain ⟨size, -, rfl⟩ := List.mem_map.mp hvolume
      simp [Volume.block]
  counted := h.counted
  ioStatus := h.ioStatus

end Loopback

variable {W : Type} [Fabric W LoopbackController LoopbackQueue] [Clock W] {sim : Simulates W}

namespace Host

/-- The writes that a run makes, each to the subsystem of the session that it goes through. -/
def writes {W C Q : Type} [Fabric W C Q] [Clock W] (host : Host C Q) (world : W) :
    List (HostCall × (W → W)) → List BlockWrite
  | [] => []
  | (call, drift) :: rest =>
    let result := host.perform call (drift world)
    (host.written? (call, result.1)).toList ++ result.2.1.writes result.2.2 rest

variable {host : Host LoopbackController LoopbackQueue} {world : W} {writes : List BlockWrite}

/-- Every call that waits until it is done is served. -/
lemma perform_serves (hnodup : host.registry.keys.Nodup) (hmapped : ∀ session ∈ host.registry.sessions, session.Mapped)
    {call : HostCall} (hblocking : call.isBlocking = true) (world : W) :
    (sim.net world).stats.handshakes ≤ (sim.net (host.perform call world).2.2).stats.handshakes ∧
      ((host.perform call world).1.gaveUp = false → Serves sim writes host.registry.sessions world →
        (sim.net (host.perform call world).2.2).stats.handshakes < 65536 →
        Serves sim (writes ++ (host.written? (call, (host.perform call world).1)).toList)
          (host.perform call world).2.1.registry.sessions (host.perform call world).2.2) := by
  have htraffic : call.isTraffic → (sim.net (host.perform call world).2.2).stats.handshakes =
      (sim.net world).stats.handshakes := fun htraffic => (sim.labelling.perform_unmoved hnodup htraffic world).record
  cases call with
  | connect command defaults =>
    have hconnect := connect_serves sim writes host world command defaults
    refine ⟨hconnect.1, fun _ h hfew => ?_⟩
    simp only [perform, written?, Option.toList_none, List.append_nil]
    exact hconnect.2 h hfew
  | connectAttempt attempt defaults =>
    have hconnect := connectAttempt_serves sim writes host world attempt defaults
    refine ⟨hconnect.1, fun _ h hfew => ?_⟩
    simp only [perform, written?, Option.toList_none, List.append_nil]
    exact hconnect.2 h hfew
  | disconnect key =>
    have hdisconnect := disconnect_serves sim writes host world hnodup key
    refine ⟨Nat.le_of_eq hdisconnect.1.symm, fun _ h _ => ?_⟩
    simp only [perform, written?, Option.toList_none, List.append_nil]
    exact hdisconnect.2 h
  | disconnectAll =>
    have hdisconnect := disconnectAll_serves sim writes host world
    refine ⟨Nat.le_of_eq hdisconnect.1.symm, fun _ h _ => ?_⟩
    simp only [perform, written?, Option.toList_none, List.append_nil]
    exact hdisconnect.2 h
  | read key range buffer =>
    refine ⟨Nat.le_of_eq (htraffic rfl).symm, fun hanswer h _ => ?_⟩
    rcases read_serves hnodup hmapped h key range buffer with ⟨error, htimeout, hgiven⟩ | ⟨⟨hserves, -⟩, -⟩
    · simp [perform, hgiven, HostAnswer.gaveUp, htimeout] at hanswer
    · simp only [perform, written?, Option.toList_none, List.append_nil]
      exact hserves
  | write key range data =>
    refine ⟨Nat.le_of_eq (htraffic rfl).symm, fun hanswer h _ => ?_⟩
    rcases write_serves hnodup hmapped h key range data with ⟨error, htimeout, hgiven⟩ | ⟨⟨hserves, -⟩, -⟩
    · simp [perform, hgiven, HostAnswer.gaveUp, htimeout] at hanswer
    · exact hserves
  | _ => cases hblocking

/-- What is known of a host whose calls are served, as long as the ids of controllers have not started over. -/
structure Serving (sim : Simulates W) (config : Config) (log : List (HostCall × HostAnswer)) (writes : List BlockWrite)
    (host : Host LoopbackController LoopbackQueue) (world : W) : Prop where
  sound : Sound config log host
  mapped : ∀ session ∈ host.registry.sessions, session.Mapped
  serves : (sim.net world).stats.handshakes < 65536 → Serves sim writes host.registry.sessions world

namespace Serving

variable {config : Config} {log : List (HostCall × HostAnswer)}

lemma start (config : Config) (h : (sim.net world).Fresh) : Serving sim config [] [] (Host.ofConfig config) world where
  sound := .start config
  mapped _ hsession := by cases hsession
  serves _ := ⟨fun _ hsession => (by cases hsession), List.nodup_nil, fun _ hid => (by cases hid), h.counted, h.ioStatus,
    h.stores, fun _ hwrite => (by cases hwrite)⟩

lemma drift (h : Serving sim config log writes host world) {world' : W}
    (hcalm : Loopback.Calm (sim.net world) (sim.net world')) : Serving sim config log writes host world' where
  sound := h.sound
  mapped := h.mapped
  serves hfew := (h.serves (hcalm.handshakes ▸ hfew)).upheld hcalm.upholds

lemma perform (h : Serving sim config log writes host world) {call : HostCall} (hblocking : call.isBlocking = true)
    (hanswer : (host.perform call world).1.gaveUp = false) :
    Serving sim config (log ++ [(call, (host.perform call world).1)])
      (writes ++ (host.written? (call, (host.perform call world).1)).toList) (host.perform call world).2.1
      (host.perform call world).2.2 where
  sound := h.sound.perform call world
  mapped := perform_kept Session.mapped_kept h.sound.enrolled.nodup h.mapped call world
  serves hfew := by
    obtain ⟨hle, hserves⟩ := perform_serves h.sound.enrolled.nodup h.mapped hblocking world
    exact hserves hanswer (h.serves (Nat.lt_of_le_of_lt hle hfew)) hfew

lemma run (h : Serving sim config log writes host world) (calls : List (HostCall × (W → W)))
    (hblocking : ∀ call ∈ calls, call.1.isBlocking = true)
    (hcalm : ∀ call ∈ calls, ∀ world, Loopback.Calm (sim.net world) (sim.net (call.2 world)))
    (hanswers : ∀ entry ∈ (host.run world calls).1, entry.2.gaveUp = false) :
    Serving sim config (log ++ (host.run world calls).1) (writes ++ host.writes world calls) (host.run world calls).2.1
      (host.run world calls).2.2 := by
  induction calls generalizing log writes host world with
  | nil =>
    simp only [Host.run, Host.writes, List.append_nil]
    exact h
  | cons call rest ih =>
    have hfirst := (h.drift (hcalm call List.mem_cons_self world)).perform (hblocking call List.mem_cons_self)
      (hanswers _ List.mem_cons_self)
    have hrest := ih hfirst (fun other hother => hblocking other (List.mem_cons_of_mem _ hother))
      (fun other hother => hcalm other (List.mem_cons_of_mem _ hother))
      fun entry hentry => hanswers entry (List.mem_cons_of_mem _ hentry)
    simp only [List.append_assoc] at hrest
    exact hrest

end Serving

end Host

/-- Over any run of calls that connect, disconnect, read or write, none of them given up, through any number of sessions and
with fewer than 65536 handshakes: the volumes hold what was written last, and zeros where nothing was written. The next read
or write that is not given up is answered according to whether the session admits its range. A read fills the front of the
buffer with what the range holds, and a write is stored; what is not admitted is refused, and changes neither the buffer nor
any volume. Between calls nothing touches the network but its delays and the order of its answers. -/
theorem block_device {W : Type} [Fabric W LoopbackController LoopbackQueue] [Clock W] (sim : Simulates W) (config : Config)
    {world : W} (hfresh : (sim.net world).Fresh) {calls : List (HostCall × (W → W))}
    (hblocking : ∀ call ∈ calls, call.1.isBlocking = true)
    (hcalm : ∀ call ∈ calls, ∀ world, Loopback.Calm (sim.net world) (sim.net (call.2 world))) :
    let start : Host LoopbackController LoopbackQueue := Host.ofConfig config
    let run := start.run world calls
    let writes := start.writes world calls
    (∀ entry ∈ run.1, entry.2.gaveUp = false) → (sim.net run.2.2).stats.handshakes < 65536 →
      (sim.net run.2.2).Stores writes ∧ ∀ now, Loopback.Calm (sim.net run.2.2) (sim.net now) →
        (∀ key range buffer,
          let result := run.2.1.read key range buffer now
          (∀ error, result.1 = .error error → error.isTimeout = false) →
            (∀ session, result.2.1.registry.find? key = some session → session.Admits range buffer.length →
              result.1 = .ok (BlockWrite.contents writes session.subsystem range ++ buffer.drop range.length)) ∧
            ((∀ session, result.2.1.registry.find? key = some session → ¬ session.Admits range buffer.length) →
              (∃ error, result.1 = .error error ∧ error.isRefusal = true) ∧ result.1.toOption.getD buffer = buffer) ∧
            Loopback.Calm (sim.net now) (sim.net result.2.2)) ∧
        ∀ key range data,
          let result := run.2.1.write key range data now
          (∀ error, result.1 = .error error → error.isTimeout = false) →
            (∀ session, result.2.1.registry.find? key = some session → session.Admits range data.length →
              result.1 = .ok () ∧ (sim.net result.2.2).Stores (writes ++ [⟨session.subsystem, range, data⟩])) ∧
            ((∀ session, result.2.1.registry.find? key = some session → ¬ session.Admits range data.length) →
              (∃ error, result.1 = .error error ∧ error.isRefusal = true) ∧
                Loopback.Calm (sim.net now) (sim.net result.2.2)) ∧
            Loopback.Alike (sim.net now) (sim.net result.2.2) := by
  intro start run writes hanswers hfew
  have hserving : Host.Serving sim config run.1 writes run.2.1 run.2.2 :=
    (Host.Serving.start config hfresh).run calls hblocking hcalm hanswers
  refine ⟨(hserving.serves hfew).stores, fun now hnow => ?_⟩
  have hnext := hserving.drift hnow
  have hserves := hnext.serves (hnow.handshakes ▸ hfew)
  constructor
  · intro key range buffer result hgiven
    rcases Host.read_serves hnext.sound.enrolled.nodup hnext.mapped hserves key range buffer with
      ⟨error, htimeout, herror⟩ | ⟨⟨-, hafter⟩, hadmitted, hrefused⟩
    · rw [hgiven error herror] at htimeout
      cases htimeout
    · refine ⟨hadmitted, fun hout => ?_, hafter⟩
      obtain ⟨error, herror, hrefusal⟩ := hrefused hout
      refine ⟨⟨error, herror, hrefusal⟩, ?_⟩
      rw [herror]
      rfl
  · intro key range data result hgiven
    rcases Host.write_serves hnext.sound.enrolled.nodup hnext.mapped hserves key range data with
      ⟨error, htimeout, herror⟩ | ⟨⟨-, halike⟩, hadmitted, hrefused⟩
    · rw [hgiven error herror] at htimeout
      cases htimeout
    · exact ⟨hadmitted, hrefused, halike⟩

/-- A simulated network with one subsystem, where completions take a poll more and are turned around. -/
def Simulation.delayed : Simulation where
  net := ({ behavior := { completionDelayPolls := 1, reverseCompletions := true } } : Loopback).addSubsystem
    Loopback.portal "nqn.2014-08.example:disk" [10]

def Simulation.secondKey : SessionKey := { Simulation.singleKey with suffix := 1 }

/-- Two sessions are connected, and a block is written through the first. -/
def Simulation.written : List (HostCall × (Simulation → Simulation)) :=
  [(Simulation.connectSingle, id), (Simulation.connectSingle, id),
    (.write Simulation.singleKey ⟨1, 2, 1⟩ (List.replicate 512 7), id)]

set_option maxRecDepth 10000 in
/-- The second session reads the block that was written through the first, and zeros behind it. -/
theorem block_device_simulated :
    let run := (Host.ofConfig {} : Host LoopbackController LoopbackQueue).run Simulation.delayed Simulation.written
    let writes := (Host.ofConfig {} : Host LoopbackController LoopbackQueue).writes Simulation.delayed Simulation.written
    let result := run.2.1.read Simulation.secondKey ⟨1, 2, 2⟩ (List.replicate 1025 9) run.2.2
    run.2.2.net.Stores writes ∧
      result.1.toOption = some (List.replicate 512 7 ++ List.replicate 512 0 ++ [9]) ∧
      ∃ session, result.2.1.registry.find? Simulation.secondKey = some session ∧
        BlockWrite.contents writes session.subsystem ⟨1, 2, 2⟩ = List.replicate 512 7 ++ List.replicate 512 0 := by
  intro run writes result
  have hfresh : (Simulation.simulates.net Simulation.delayed).Fresh := (Loopback.fresh_empty rfl).addSubsystem _ _ _
  have hblocking : ∀ call ∈ Simulation.written, call.1.isBlocking = true := by decide +kernel
  have hcalm : ∀ call ∈ Simulation.written, ∀ world : Simulation, Loopback.Calm world.net (call.2 world).net := by
    intro call hcall world
    simp only [Simulation.written, List.mem_cons, List.not_mem_nil, or_false] at hcall
    rcases hcall with rfl | rfl | rfl <;> exact .refl _
  obtain ⟨hanswers, hfew, hread⟩ : (∀ entry ∈ run.1, entry.2.gaveUp = false) ∧ run.2.2.net.stats.handshakes < 65536 ∧
      result.1.toOption = some (List.replicate 512 7 ++ List.replicate 512 0 ++ [9]) := by decide +kernel
  obtain ⟨hstores, hnext⟩ := block_device Simulation.simulates {} hfresh hblocking hcalm hanswers hfew
  have hgiven : ∀ error, result.1 = .error error → error.isTimeout = false := by
    intro error herror
    rw [herror] at hread
    cases hread
  obtain ⟨hadmitted, hrefused, -⟩ := (hnext run.2.2 (.refl _)).1 Simulation.secondKey ⟨1, 2, 2⟩ (List.replicate 1025 9) hgiven
  have hcontents : ∀ session, result.2.1.registry.find? Simulation.secondKey = some session →
      session.Admits ⟨1, 2, 2⟩ 1025 →
        BlockWrite.contents writes session.subsystem ⟨1, 2, 2⟩ = List.replicate 512 7 ++ List.replicate 512 0 := by
    intro session hsession hin
    have hfilled : result.1 = .ok _ := hadmitted session hsession hin
    rw [hfilled] at hread
    exact List.append_cancel_right (Option.some.inj hread)
  refine ⟨hstores, hread, ?_⟩
  by_contra hnone
  obtain ⟨⟨error, herror, -⟩, -⟩ := hrefused fun session hsession hin =>
    hnone ⟨session, hsession, hcontents session hsession hin⟩
  rw [show result.1 = .error error from herror] at hread
  cases hread

end FabricHost
