import FabricHost.Proofs.Loopback.Identity

/-!
# How long controller ids last

Controllers get the ids from 1 to 65535 in turn. While no controller is kept that 65534 others came behind, a new id is
always free. Once one is kept longer, its id is given out again: the network knows the newcomer by it, and the first
controller's commands go to the newcomer's subsystem.
-/

namespace FabricHost.Roster

/-- The id whose turn it is at a place. -/
def turn (place : Nat) : UInt16 := UInt16.ofNat (place % 65535 + 1)

lemma toNat_turn (place : Nat) : (turn place).toNat = place % 65535 + 1 := by
  rw [turn, UInt16.toNat_ofNat']
  omega

lemma turn_succ (place : Nat) : (if turn place + 1 = 0 then 1 else turn place + 1) = turn (place + 1) := by
  have hplace := toNat_turn place
  have hsucc := toNat_turn (place + 1)
  have hsum : (turn place + 1).toNat = ((turn place).toNat + 1) % 65536 := UInt16.toNat_add _ _
  apply UInt16.toNat_inj.mp
  split
  · rename_i hzero
    rw [hzero] at hsum
    simp only [UInt16.toNat_zero] at hsum
    rw [hsucc]
    simp only [UInt16.toNat_one]
    omega
  · rename_i hne
    have hpos : (turn place + 1).toNat ≠ 0 := fun h => hne (UInt16.toNat_inj.mp h)
    omega

lemma turn_ne {place later : Nat} (hlater : place < later) (hnear : later < place + 65535) :
    turn place ≠ turn later := by
  intro heq
  have hnat := congrArg UInt16.toNat heq
  rw [toNat_turn, toNat_turn] at hnat
  omega

/-- No controller is kept that 65534 others came behind, when another one is to come. -/
def Recent (roster : Roster) (call : NetworkCall) : Prop :=
  match call with
  | .connect _ _ => ∀ place own, roster.held? place = some own → roster.controllers.length < place + 65535
  | _ => True

/-- Every controller has the id whose turn it was. -/
structure InTurn (roster : Roster) : Prop where
  next : roster.net.nextController = turn roster.controllers.length
  ids : roster.controllers.map Enlisted.id = (List.range roster.controllers.length).map turn

variable {roster : Roster}

lemma InTurn.id_eq (inTurn : roster.InTurn) {place : Nat} {own : Enlisted}
    (h : roster.controllers[place]? = some own) : own.id = turn place := by
  have hlt := (List.getElem?_eq_some_iff.mp h).1
  have hid : (roster.controllers.map Enlisted.id)[place]? = some own.id := by
    rw [List.getElem?_map, h]
    rfl
  rw [inTurn.ids, List.getElem?_map, List.getElem?_range hlt] at hid
  exact (Option.some.inj hid).symm

lemma InTurn.kept (inTurn : roster.InTurn) {next : Roster} (hlast : next.net.lastController = roster.net.lastController)
    (hids : next.controllers.map Enlisted.id = roster.controllers.map Enlisted.id) : next.InTurn := by
  have hlength := congrArg List.length hids
  rw [List.length_map, List.length_map] at hlength
  constructor
  · rw [hlength, ← inTurn.next, Loopback.nextController, Loopback.nextController, hlast]
  · rw [hlength, hids, inTurn.ids]

lemma InTurn.enlist (inTurn : roster.InTurn) {subsystem : SubsystemName}
    {association : Association LoopbackController LoopbackQueue} {net : Loopback}
    (introduces : Loopback.Introduces association subsystem roster.net net) :
    (roster.enlist subsystem association net).InTurn := by
  have hlength : (roster.enlist subsystem association net).controllers.length = roster.controllers.length + 1 := by
    simp [Roster.enlist]
  constructor
  · rw [hlength, ← turn_succ, ← inTurn.next, ← introduces.last]
    rfl
  · rw [hlength, List.range_succ, List.map_append, ← inTurn.ids, List.map_singleton, ← inTurn.next,
      ← introduces.controller]
    simp [Roster.enlist, Enlisted.id]

lemma ids_set {place : Nat} {own own' : Enlisted} (h : roster.held? place = some own) (hid : own'.id = own.id) :
    (roster.controllers.set place own').map Enlisted.id = roster.controllers.map Enlisted.id := by
  obtain ⟨hlt, hget⟩ := List.getElem?_eq_some_iff.mp (held?_eq_some_iff.mp h).1
  rw [List.map_set, hid, ← hget, ← List.getElem_map Enlisted.id (h := by simpa using hlt), List.set_getElem_self]

lemma InTurn.after (inTurn : roster.InTurn) {call : NetworkCall} {next : Roster} (change : Change roster call next) :
    next.InTurn := by
  cases change with
  | introduced _ introduces => exact inTurn.enlist introduces
  | kept same _ => exact inTurn.kept same.last rfl
  | reset hheld _ hlast _ => exact inTurn.kept hlast (ids_set hheld rfl)
  | released hheld => exact inTurn.kept (Loopback.releaseController_last _ _) (ids_set hheld rfl)

lemma apart_of_recent (inTurn : roster.InTurn) {call : NetworkCall} (recent : roster.Recent call) :
    roster.Apart call := by
  cases call with
  | connect params timeoutMs =>
    intro association hconnected
    apply free_iff.mpr
    intro place own h
    have hget := (held?_eq_some_iff.mp h).1
    rcases roster.net.connect_outcomes params timeoutMs with
      ⟨association', net, heq, introduces⟩ | ⟨outcome, net, heq, hother, -⟩
    · rw [heq] at hconnected
      cases hconnected
      rw [← introduces.same_id, introduces.controller, inTurn.next, inTurn.id_eq hget]
      exact turn_ne (List.getElem?_eq_some_iff.mp hget).1 (recent place own h)
    · rw [heq] at hconnected
      exact absurd hconnected (hother association)
  | _ => trivial

lemma run_recent_apart (run : Run Recent roster) : Run Apart roster ∧ roster.InTurn := by
  induction run with
  | start => exact ⟨.start, rfl, rfl⟩
  | call roster call _ recent ih =>
    obtain ⟨run, inTurn⟩ := ih
    exact ⟨.call roster call run (apart_of_recent inTurn recent), inTurn.after (roster.change_after call)⟩

/-- While no controller is kept for as many handshakes as there are ids, controllers are told apart. -/
theorem identified_of_recent (run : Run Recent roster) : roster.Identified :=
  (run_apart_attended (run_recent_apart run).1).identified

/-- The subsystems of the example. -/
def firstSubsystem : SubsystemName := ⟨sharedEndpoint, "nqn.a"⟩

def secondSubsystem : SubsystemName := ⟨sharedEndpoint, "nqn.b"⟩

/-- A network after `rounds` controllers have come and gone behind one that is kept. -/
def worn (rounds : Nat) : Loopback where
  subsystems := [⟨firstSubsystem, [{ blocks := 8 }]⟩, ⟨secondSubsystem, [{ blocks := 8 }, { blocks := 8 }]⟩]
  attachments := (∅ : Std.ExtTreeMap UInt16 Attachment).insert 1 { subsystem := firstSubsystem }
  stats := { handshakes := rounds + 1, liveControllers := 1 }
  lastController := UInt16.ofNat (rounds + 1)

/-- What a handshake gives for an id. -/
def associated (id : UInt16) (namespaceCount : UInt32) : Association LoopbackController LoopbackQueue where
  controller := { controllerId := id }
  admin := { controllerId := id, generation := none, depth := Loopback.adminDepth }
  controllerId := id
  namespaceCount

/-- The network after one more handshake with a subsystem. -/
def worn.joined (rounds : Nat) (id : UInt16) (subsystem : SubsystemName) : Loopback :=
  { worn rounds with
    attachments := (worn rounds).attachments.insert id { subsystem }
    stats := { handshakes := rounds + 2, liveControllers := 2 }
    lastController := id }

lemma connect_worn_first (rounds : Nat) : Loopback.connect (handshakeWith "nqn.a") 0 (worn rounds) =
    (.connected (associated (worn rounds).nextController 1),
      worn.joined rounds (worn rounds).nextController firstSubsystem) := by
  rfl

lemma connect_worn_second (rounds : Nat) : Loopback.connect (handshakeWith "nqn.b") 0 (worn rounds) =
    (.connected (associated (worn rounds).nextController 2),
      worn.joined rounds (worn rounds).nextController secondSubsystem) := by
  rfl

lemma nextController_worn {rounds : Nat} (h : rounds < 65534) :
    (worn rounds).nextController = UInt16.ofNat (rounds + 2) := by
  have hsum : UInt16.ofNat (rounds + 1) + 1 = UInt16.ofNat (rounds + 2) := (UInt16.ofNat_add (rounds + 1) 1).symm
  have hne : UInt16.ofNat (rounds + 2) ≠ 0 := by
    intro hzero
    have hnat := congrArg UInt16.toNat hzero
    rw [UInt16.toNat_ofNat', UInt16.toNat_zero] at hnat
    omega
  simp only [Loopback.nextController, worn, hsum]
  exact if_neg hne

/-- A controller that comes and goes uses one id up. -/
lemma release_joined {rounds : Nat} (h : rounds < 65534) :
    Loopback.releaseController { controllerId := UInt16.ofNat (rounds + 2) }
      (worn.joined rounds (UInt16.ofNat (rounds + 2)) firstSubsystem) = worn (rounds + 1) := by
  have hne : UInt16.ofNat (rounds + 2) ≠ 1 := by
    intro hone
    have hnat := congrArg UInt16.toNat hone
    rw [UInt16.toNat_ofNat', UInt16.toNat_one] at hnat
    omega
  have hmem : UInt16.ofNat (rounds + 2) ∈ (worn.joined rounds (UInt16.ofNat (rounds + 2)) firstSubsystem).attachments :=
    Std.ExtTreeMap.mem_insert_self
  have hattachments : ((worn rounds).attachments.insert (UInt16.ofNat (rounds + 2))
      { subsystem := firstSubsystem }).erase (UInt16.ofNat (rounds + 2)) = (worn (rounds + 1)).attachments := by
    apply Std.ExtTreeMap.ext_getElem?
    intro id
    simp only [worn, Std.ExtTreeMap.getElem?_erase, Std.ExtTreeMap.getElem?_insert, Std.compare_eq_iff_eq]
    by_cases heq : UInt16.ofNat (rounds + 2) = id
    · rw [if_pos heq, if_neg (fun hone => hne (heq.trans hone.symm))]
      rfl
    · rw [if_neg heq, if_neg heq]
  rw [Loopback.releaseController, if_pos hmem]
  simp only [worn.joined, hattachments]
  rfl

/-- The controller that is kept. -/
def keeper : Enlisted := { controller := { controllerId := 1 }, subsystem := firstSubsystem }

/-- A run in which the first controller is kept and `rounds` others have come and gone behind it. -/
lemma run_worn (rounds : Nat) (h : rounds ≤ 65534) : ∃ roster : Roster, Run (fun _ _ => True) roster ∧
    roster.net = worn rounds ∧ roster.held? 0 = some keeper ∧ roster.size = 1 ∧
      roster.queues[0]? = some (0, (associated 1 1).admin) := by
  induction rounds with
  | zero =>
    let listening := (({} : Roster).after (.addSubsystem sharedEndpoint "nqn.a" [8])).after
      (.addSubsystem sharedEndpoint "nqn.b" [8, 8])
    have run : Run (fun _ _ => True) (listening.after (.connect (handshakeWith "nqn.a") 0)) :=
      .call _ _ (.call _ _ (.call _ _ .start trivial) trivial) trivial
    exact ⟨_, run, rfl, rfl, rfl, rfl⟩
  | succ rounds ih =>
    obtain ⟨roster, run, hnet, hheld, hsize, hqueue⟩ := ih (Nat.le_of_succ_le h)
    let place := roster.controllers.length
    let own : Enlisted := { controller := { controllerId := UInt16.ofNat (rounds + 2) }, subsystem := firstSubsystem }
    let connected := roster.after (.connect (handshakeWith "nqn.a") 0)
    have run' : Run (fun _ _ => True) (connected.after (.release place)) :=
      .call _ _ (.call _ _ run trivial) trivial
    have hconnected : connected = roster.enlist firstSubsystem (associated (UInt16.ofNat (rounds + 2)) 1)
        (worn.joined rounds (UInt16.ofNat (rounds + 2)) firstSubsystem) := by
      simp only [connected, after, hnet, connect_worn_first, nextController_worn (Nat.lt_of_succ_le h)]
      rfl
    have hown : connected.held? place = some own := by
      rw [hconnected, held?_enlist, if_pos rfl]
      rfl
    have hreleased : connected.after (.release place) = { connected with
        net := worn (rounds + 1)
        controllers := connected.controllers.set place { own with released := true } } := by
      have hnet' : Loopback.releaseController own.controller connected.net = worn (rounds + 1) := by
        rw [hconnected]
        exact release_joined (Nat.lt_of_succ_le h)
      rw [after_release hown, hnet']
    have hadmin : connected.queues[0]? = some (0, (associated 1 1).admin) := by
      rw [hconnected]
      exact queues_enlist hqueue _ _ _
    have hplace : 0 ≠ place := Nat.ne_of_lt (List.getElem?_eq_some_iff.mp (held?_eq_some_iff.mp hheld).1).1
    refine ⟨connected.after (.release place), run', ?_, ?_, ?_, ?_⟩
    · rw [hreleased]
    · rw [hreleased, held?_set hown, if_neg hplace, hconnected, held?_enlist, if_neg hplace, hheld]
    · rw [hreleased, size_set hown, hconnected, size_enlist, hsize]
      rfl
    · rw [hreleased]
      exact hadmin

/-- The controller that comes when every id had its turn. -/
def newcomer : Enlisted := { controller := { controllerId := 1 }, subsystem := secondSubsystem }

/-- The network when every id had its turn and the next controller has come, with a command submitted to the first
one. -/
def crossed : Loopback := (worn.joined 65534 1 secondSubsystem).count (LoopbackQueue.countCommand (.identifyNamespace 2))

/-- The admin queue pair of the first controller, with that command. -/
def asking : LoopbackQueue :=
  { (associated 1 1).admin with nextId := 1, pending := [⟨0, .identifyNamespace 2, 0⟩] }

/-- Only the second subsystem has that many namespaces. -/
lemma asking_misdirected : (asking.process 0 crossed).1 ≠ (asking.serve firstSubsystem 0 crossed).1 := by
  have hprocess : ((asking.process 0 crossed).1.toOption.map (List.map Completion.status)) = some [.success] := by
    decide +kernel
  have hserve : ((asking.serve firstSubsystem 0 crossed).1.toOption.map (List.map Completion.status)) =
      some [.invalidNamespace] := by
    decide +kernel
  intro heq
  rw [heq, hserve] at hprocess
  exact absurd hprocess (by decide)

/-- The second of two releases finds nothing under the id. -/
lemma crossed_released : (Loopback.releaseController newcomer.controller
    (Loopback.releaseController keeper.controller crossed)).stats.liveControllers = 1 := by
  decide +kernel

/-- A run at the end of which the newcomer has the id of the controller that was kept. -/
lemma run_crossed : ∃ (roster : Roster) (last : Nat), Run (fun _ _ => True) roster ∧ roster.net = crossed ∧
    roster.size = 2 ∧ roster.held? 0 = some keeper ∧ roster.held? last = some newcomer ∧ last ≠ 0 ∧
      (0, asking) ∈ roster.queues := by
  obtain ⟨roster, run, hnet, hheld, hsize, hqueue⟩ := run_worn 65534 (Nat.le_refl _)
  let last := roster.controllers.length
  let joined := roster.after (.connect (handshakeWith "nqn.b") 0)
  have hlast : last ≠ 0 := Nat.ne_of_gt (List.getElem?_eq_some_iff.mp (held?_eq_some_iff.mp hheld).1).1
  have hjoined : joined = roster.enlist secondSubsystem (associated 1 2) (worn.joined 65534 1 secondSubsystem) := by
    simp only [joined, after, hnet, connect_worn_second]
    rfl
  have hadmin : joined.queues[0]? = some (0, (associated 1 1).admin) := by
    rw [hjoined]
    exact queues_enlist hqueue _ _ _
  have hsubmit : (associated 1 1).admin.submit (.identifyNamespace 2) joined.net = (.ok 0, asking, crossed) := by
    rw [hjoined]
    rfl
  have hasked : joined.after (.submit 0 (.identifyNamespace 2)) =
      { joined with net := crossed, queues := joined.queues.set 0 (0, asking) } := by
    simp only [after, hadmin, hsubmit]
  have hfirst : joined.held? 0 = some keeper := by
    rw [hjoined, held?_enlist, if_neg (Ne.symm hlast), hheld]
  have hnewcomer : joined.held? last = some newcomer := by
    rw [hjoined, held?_enlist, if_pos rfl]
    rfl
  have hcount : joined.size = 2 := by
    rw [hjoined, size_enlist, hsize]
  have run' : Run (fun _ _ => True) (joined.after (.submit 0 (.identifyNamespace 2))) :=
    .call _ _ (.call _ _ run trivial) trivial
  refine ⟨_, last, run', ?_⟩
  rw [hasked]
  exact ⟨rfl, hcount, hfirst, hnewcomer, hlast, List.mem_set (List.getElem?_eq_some_iff.mp hadmin).1 _⟩

/-- The controller that comes when every id had its turn gets the id that the first one still has. What the first one's
queue pair has to execute goes to the newcomer's subsystem, and when both are released, one is still counted. -/
theorem shared_after_wraparound : ∃ roster : Roster, Run (fun _ _ => True) roster ∧ ∃ last own other queue,
    last ≠ 0 ∧ roster.held? 0 = some own ∧ roster.held? last = some other ∧ own.id = other.id ∧
      (0, queue) ∈ roster.queues ∧
      (queue.process 0 roster.net).1 ≠ (queue.serve own.subsystem 0 roster.net).1 ∧ ¬ roster.Identified ∧
      let ended := (roster.after (.release 0)).after (.release last)
      ended.size = 0 ∧ ended.net.stats.liveControllers = 1 ∧ ¬ ended.Identified := by
  obtain ⟨roster, last, run, hnet, hsize, hfirst, hnewcomer, hlast, hqueue⟩ := run_crossed
  obtain ⟨hended, hnone⟩ := after_releases hfirst hnewcomer hlast
  rw [hsize] at hnone
  have hlive : ((roster.after (.release 0)).after (.release last)).net.stats.liveControllers = 1 := by
    rw [hended, hnet]
    exact crossed_released
  refine ⟨roster, run, last, keeper, newcomer, asking, hlast, hfirst, hnewcomer, rfl, hqueue, ?_, ?_, hnone, hlive, ?_⟩
  · rw [hnet]
    exact asking_misdirected
  · intro identified
    exact hlast (identified.ids _ _ _ _ hnewcomer hfirst rfl)
  · intro identified
    have hcount := identified.live
    rw [hlive, hnone] at hcount
    cases hcount

end FabricHost.Roster
