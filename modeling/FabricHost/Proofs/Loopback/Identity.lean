import FabricHost.Proofs.Loopback.Pending
import FabricHost.Proofs.Loopback.Roster

/-!
# Which controller an id is

A network tells its controllers apart by their ids, so it serves each from its own subsystem as long as no handshake
gives out an id that a controller still has. The counter that the ids come from does not look whether one is free.
-/

namespace FabricHost

namespace LoopbackQueue

/-- What a poll does on a live queue pair of a controller that is associated with a subsystem. -/
def serve (queue : LoopbackQueue) (subsystem : SubsystemName) (limit : Nat) (net : Loopback) :
    Except TransportFailure (List Completion) × LoopbackQueue × Loopback :=
  if queue.stalled net.behavior then (.ok [], queue, net)
  else
    let (done, staying) := due (if limit = 0 then none else some limit) queue.pending
    let (completions, served) := executeAll subsystem queue.controllerId done net
    let turned := net.behavior.reverseCompletions && !queue.isAdmin
    (.ok (if turned then completions.reverse else completions), { queue with pending := staying }, served)

/-- A poll goes to the subsystem that the network knows for the controller's id. -/
lemma process_eq (queue : LoopbackQueue) (limit : Nat) (net : Loopback) :
    queue.process limit net = match queue.attachment net with
      | .error failure => (.error failure, queue, net)
      | .ok attachment => queue.serve attachment.subsystem limit net := by
  rfl

end LoopbackQueue

namespace Loopback

/-- Nothing has happened to the controllers. -/
structure SameControllers (before after : Loopback) : Prop where
  attachments : after.attachments = before.attachments
  last : after.lastController = before.lastController
  live : after.stats.liveControllers = before.stats.liveControllers

variable {net : Loopback}

lemma SameControllers.refl (net : Loopback) : SameControllers net net := ⟨rfl, rfl, rfl⟩

lemma SameControllers.trans {first second third : Loopback} (h : SameControllers first second)
    (h' : SameControllers second third) : SameControllers first third :=
  ⟨h'.attachments.trans h.attachments, h'.last.trans h.last, h'.live.trans h.live⟩

lemma execute_same (subsystem : SubsystemName) (controllerId : UInt16) (id : CommandId) (command : Command) :
    SameControllers net (net.execute subsystem controllerId id command).2 := by
  unfold execute
  split
  · exact .refl net
  · exact ⟨rfl, rfl, rfl⟩

lemma executeAll_same (subsystem : SubsystemName) (controllerId : UInt16) (entries : List PendingCommand)
    (net : Loopback) : SameControllers net (LoopbackQueue.executeAll subsystem controllerId entries net).2 := by
  induction entries generalizing net with
  | nil => exact .refl net
  | cons entry rest ih => exact (execute_same subsystem controllerId entry.id entry.command).trans (ih _)

lemma submit_same (queue : LoopbackQueue) (command : Command) (net : Loopback) :
    (queue.submit command net).2.1.controllerId = queue.controllerId ∧
      SameControllers net (queue.submit command net).2.2 := by
  unfold LoopbackQueue.submit
  split
  · exact ⟨rfl, .refl net⟩
  · split
    · exact ⟨rfl, .refl net⟩
    · split
      · exact ⟨rfl, .refl net⟩
      · refine ⟨rfl, rfl, rfl, ?_⟩
        cases command <;> rfl

lemma process_same (queue : LoopbackQueue) (limit : Nat) (net : Loopback) :
    (queue.process limit net).2.1.controllerId = queue.controllerId ∧
      SameControllers net (queue.process limit net).2.2 := by
  rw [LoopbackQueue.process_eq]
  split
  · exact ⟨rfl, .refl net⟩
  · unfold LoopbackQueue.serve
    split
    · exact ⟨rfl, .refl net⟩
    · exact ⟨rfl, executeAll_same _ _ _ net⟩

lemma releaseQueue_same (queue : LoopbackQueue) (net : Loopback) : SameControllers net (queue.release net) := by
  unfold LoopbackQueue.release
  split
  · exact .refl net
  · exact ⟨rfl, rfl, rfl⟩

/-- What a handshake brings: the next id, for the admin queue pair too, and the network knows the subsystem by it. -/
structure Introduces (association : Association LoopbackController LoopbackQueue) (subsystem : SubsystemName)
    (before after : Loopback) : Prop where
  controller : association.controller.controllerId = before.nextController
  same_id : association.controller.controllerId = association.controllerId
  admin : association.admin.controllerId = before.nextController
  attachments : after.attachments = before.attachments.insert before.nextController { subsystem }
  last : after.lastController = before.nextController
  live : after.stats.liveControllers = before.stats.liveControllers + 1

lemma handshake_outcomes (params : HandshakeParams) (net : Loopback) :
    (∃ association after, net.handshake params = (.ok association, after) ∧
      Introduces association ⟨params.target, params.subsystemNqn⟩ net after) ∨
      ∃ failure after, net.handshake params = (.error failure, after) ∧ SameControllers net after := by
  rcases net.handshake_result params with ⟨failure, heq⟩ | ⟨volumes, -, heq⟩
  · exact .inr ⟨failure, _, heq, rfl, rfl, rfl⟩
  · exact .inl ⟨_, _, heq, rfl, rfl, rfl, rfl, rfl, rfl⟩

lemma connect_outcomes (params : HandshakeParams) (timeoutMs : Nat) (net : Loopback) :
    (∃ association after, connect params timeoutMs net = (.connected association, after) ∧
      Introduces association ⟨params.target, params.subsystemNqn⟩ net after) ∨
      ∃ outcome after, connect params timeoutMs net = (outcome, after) ∧
        (∀ association, outcome ≠ .connected association) ∧ SameControllers net after := by
  unfold connect
  split
  · exact .inr ⟨_, _, rfl, by simp, rfl, rfl, rfl⟩
  · rcases (net.wait net.behavior.handshakeDelayMs).handshake_outcomes params with
      ⟨association, after, heq, introduces⟩ | ⟨failure, after, heq, same⟩
    · exact .inl ⟨association, after, by rw [heq], introduces.1, introduces.2, introduces.3, introduces.4, introduces.5,
        introduces.6⟩
    · exact .inr ⟨.failed failure, after, by rw [heq], by simp, same.1, same.2, same.3⟩

lemma createIoQueue_cases (controller : LoopbackController) (depth : UInt16) (net : Loopback) :
    (∃ failure, createIoQueue controller depth net = (.error failure, controller, net)) ∨
      ∃ queue after, createIoQueue controller depth net = (.ok queue, controller, after) ∧
        queue.controllerId = controller.controllerId ∧ SameControllers net after := by
  rcases createIoQueue_result controller depth net with ⟨failure, heq⟩ | ⟨attachment, -, heq⟩
  · exact .inl ⟨failure, heq⟩
  · exact .inr ⟨_, _, heq, rfl, rfl, rfl, rfl⟩

lemma resetController_cases (controller : LoopbackController) (net : Loopback) :
    (∃ failure, resetController controller net = (.error failure, controller, net)) ∨
      ∃ after, resetController controller net = (.ok (), controller, after) ∧
        after.attachments = net.attachments.modify controller.controllerId (fun attachment =>
          { attachment with generation := attachment.generation + 1 }) ∧
        after.lastController = net.lastController ∧ after.stats.liveControllers = net.stats.liveControllers := by
  unfold resetController
  split
  · exact .inl ⟨_, rfl⟩
  · exact .inr ⟨_, rfl, rfl, rfl, rfl⟩

lemma releaseController_last (controller : LoopbackController) (net : Loopback) :
    (releaseController controller net).lastController = net.lastController := by
  unfold releaseController
  split <;> rfl

end Loopback

namespace Roster

/-- What a call can make of a roster: one more controller, the same controllers with queue pairs that have owners, or one
controller that was reset or released. -/
inductive Change (roster : Roster) : NetworkCall → Roster → Prop
  | introduced {params : HandshakeParams} {timeoutMs : Nat} {association : Association LoopbackController LoopbackQueue}
    {net : Loopback} : Loopback.connect params timeoutMs roster.net = (.connected association, net) →
      Loopback.Introduces association ⟨params.target, params.subsystemNqn⟩ roster.net net →
        Change roster (.connect params timeoutMs) (roster.enlist ⟨params.target, params.subsystemNqn⟩ association net)
  | kept {call : NetworkCall} {net : Loopback} {queues : List (Nat × LoopbackQueue)} :
    Loopback.SameControllers roster.net net →
      (∀ place queue, (place, queue) ∈ queues →
        (∃ earlier, (place, earlier) ∈ roster.queues ∧ queue.controllerId = earlier.controllerId) ∨
          ∃ own, roster.held? place = some own ∧ queue.controllerId = own.id) →
        Change roster call { roster with net, queues }
  | reset {place : Nat} {own : Enlisted} {net : Loopback} : roster.held? place = some own →
      net.attachments = roster.net.attachments.modify own.id (fun attachment =>
        { attachment with generation := attachment.generation + 1 }) →
      net.lastController = roster.net.lastController →
      net.stats.liveControllers = roster.net.stats.liveControllers → Change roster (.reset place)
        { roster with net, controllers := roster.controllers.set place { own with resets := own.resets + 1 } }
  | released {place : Nat} {own : Enlisted} : roster.held? place = some own →
      Change roster (.release place) { roster with
        net := Loopback.releaseController own.controller roster.net
        controllers := roster.controllers.set place { own with released := true } }

lemma Change.of_same {roster : Roster} {net : Loopback} (same : Loopback.SameControllers roster.net net)
    (call : NetworkCall) : Change roster call { roster with net } :=
  .kept same fun _ queue hmem => .inl ⟨queue, hmem, rfl⟩

/-- A queue pair that is used changes hands no more than the others. -/
lemma Change.of_queue {roster : Roster} {net : Loopback} (same : Loopback.SameControllers roster.net net)
    {number place : Nat} {queue queue' : LoopbackQueue} (h : roster.queues[number]? = some (place, queue))
    (hid : queue'.controllerId = queue.controllerId) (call : NetworkCall) :
    Change roster call { roster with net, queues := roster.queues.set number (place, queue') } := by
  refine .kept same fun other queue'' hmem => .inl ?_
  rcases List.mem_or_eq_of_mem_set hmem with hmem | heq
  · exact ⟨queue'', hmem, rfl⟩
  · cases heq
    exact ⟨queue, List.mem_of_getElem? h, hid⟩

lemma change_after (roster : Roster) (call : NetworkCall) : Change roster call (roster.after call) := by
  cases call with
  | connect params timeoutMs =>
    rcases roster.net.connect_outcomes params timeoutMs with
      ⟨association, net, heq, introduces⟩ | ⟨outcome, net, heq, hother, same⟩
    · simp only [after, heq]
      exact .introduced heq introduces
    · simp only [after, heq]
      cases outcome with
      | connected association => exact absurd rfl (hother association)
      | failed failure => exact .of_same same _
      | timedOut => exact .of_same same _
  | createIoQueue place depth =>
    simp only [after]
    cases hheld : roster.held? place with
    | none => exact .of_same (.refl _) _
    | some own =>
      rcases Loopback.createIoQueue_cases own.controller depth roster.net with
        ⟨failure, heq⟩ | ⟨queue, net, heq, hid, same⟩
      · simp only [heq]
        exact .of_same (.refl _) _
      · simp only [heq]
        refine .kept same fun other queue' hmem => ?_
        rcases List.mem_append.mp hmem with hmem | hmem
        · exact .inl ⟨queue', hmem, rfl⟩
        · cases List.mem_singleton.mp hmem
          exact .inr ⟨own, hheld, hid⟩
  | reset place =>
    simp only [after]
    cases hheld : roster.held? place with
    | none => exact .of_same (.refl _) _
    | some own =>
      rcases Loopback.resetController_cases own.controller roster.net with
        ⟨failure, heq⟩ | ⟨net, heq, hmodified, hlast, hlive⟩
      · simp only [heq]
        exact .of_same (.refl _) _
      · simp only [heq]
        exact .reset hheld hmodified hlast hlive
  | release place =>
    simp only [after]
    cases hheld : roster.held? place with
    | none => exact .of_same (.refl _) _
    | some own => exact .released hheld
  | submit number command =>
    simp only [after]
    cases hqueue : roster.queues[number]? with
    | none => exact .of_same (.refl _) _
    | some entry =>
      obtain ⟨hid, same⟩ := Loopback.submit_same entry.2 command roster.net
      exact .of_queue same hqueue hid _
  | process number limit =>
    simp only [after]
    cases hqueue : roster.queues[number]? with
    | none => exact .of_same (.refl _) _
    | some entry =>
      obtain ⟨hid, same⟩ := Loopback.process_same entry.2 limit roster.net
      exact .of_queue same hqueue hid _
  | releaseQueue number =>
    simp only [after]
    cases hqueue : roster.queues[number]? with
    | none => exact .of_same (.refl _) _
    | some entry =>
      simp only
      split
      · exact .of_same (.refl _) _
      · have same := Loopback.releaseQueue_same entry.2 roster.net
        exact .kept same fun _ queue hmem => .inl ⟨queue, List.mem_of_mem_eraseIdx hmem, rfl⟩
  | configure change =>
    have same : Loopback.SameControllers roster.net (roster.net.configure change) := ⟨rfl, rfl, rfl⟩
    exact .of_same same _
  | addSubsystem target nqn blocks =>
    have same : Loopback.SameControllers roster.net (roster.net.addSubsystem target nqn blocks) := ⟨rfl, rfl, rfl⟩
    exact .of_same same _
  | wait ms =>
    have same : Loopback.SameControllers roster.net (roster.net.wait ms) := ⟨rfl, rfl, rfl⟩
    exact .of_same same _

/-- What is expected of ids: no two controllers share one, controllers are counted right, and the queue pairs of each
serve its own subsystem, but for those that a reset has deleted. -/
structure Identified (roster : Roster) : Prop where
  ids : ∀ place other own own', roster.held? place = some own → roster.held? other = some own' → own.id = own'.id →
    place = other
  live : roster.net.stats.liveControllers = roster.size
  serves : ∀ place queue own, (place, queue) ∈ roster.queues → roster.held? place = some own → ∀ limit,
    queue.process limit roster.net =
      if queue.generation = none ∨ queue.generation = some own.resets then queue.serve own.subsystem limit roster.net
      else (.error (.queueFailed "I/O queue deleted by controller reset"), queue, roster.net)

/-- A network that knows every controller on the roster by an id of its own. -/
structure Attended (roster : Roster) : Prop where
  ids : ∀ place other own own', roster.held? place = some own → roster.held? other = some own' → own.id = own'.id →
    place = other
  live : roster.net.stats.liveControllers = roster.size
  attached : ∀ place own, roster.held? place = some own → roster.net.attachments[own.id]? = some own.attachment
  owned : ∀ place queue, (place, queue) ∈ roster.queues →
    ∃ own, roster.controllers[place]? = some own ∧ queue.controllerId = own.id

variable {roster : Roster}

lemma Attended.identified (attended : roster.Attended) : roster.Identified where
  ids := attended.ids
  live := attended.live
  serves := by
    intro place queue own hmem hheld limit
    obtain ⟨owner, howner, hid⟩ := attended.owned place queue hmem
    have hsame := howner.symm.trans (held?_eq_some_iff.mp hheld).1
    cases hsame
    rw [LoopbackQueue.process_eq, LoopbackQueue.attachment, hid, attended.attached place own hheld]
    cases hgeneration : queue.generation with
    | none => rfl
    | some generation =>
      by_cases heq : generation = own.resets
      · simp [Enlisted.attachment, heq]
      · simp [Enlisted.attachment, heq]

lemma attended_empty : Attended {} where
  ids _ _ _ _ h := by cases h
  live := rfl
  attached _ _ h := by cases h
  owned _ _ h := by cases h

/-- What leaves controllers alone keeps them attended, as long as queue pairs have an owner. -/
lemma Attended.of_same (attended : roster.Attended) {net : Loopback} (same : Loopback.SameControllers roster.net net)
    {queues : List (Nat × LoopbackQueue)} (howned : ∀ place queue, (place, queue) ∈ queues →
      ∃ own, roster.controllers[place]? = some own ∧ queue.controllerId = own.id) :
    Attended { roster with net, queues } where
  ids := attended.ids
  live := same.live.trans attended.live
  attached place own h := by
    rw [same.attachments]
    exact attended.attached place own h
  owned := howned

/-- A controller that comes under a free id is told apart from the others. -/
lemma Attended.enlist (attended : roster.Attended) {subsystem : SubsystemName}
    {association : Association LoopbackController LoopbackQueue} {net : Loopback}
    (introduces : Loopback.Introduces association subsystem roster.net net)
    (free : roster.Free association.controller.controllerId) : Attended (roster.enlist subsystem association net) where
  ids place other own own' h h' hid := by
    rw [held?_enlist] at h h'
    split at h
    · cases h
      split at h'
      · omega
      · exact absurd hid.symm (free_iff.mp free other own' h')
    · split at h'
      · cases h'
        exact absurd hid (free_iff.mp free place own h)
      · exact attended.ids place other own own' h h' hid
  live := by
    rw [size_enlist, ← attended.live]
    exact introduces.live
  attached place own h := by
    change net.attachments[own.id]? = _
    rw [introduces.attachments, ← introduces.controller]
    simp only [Std.ExtTreeMap.getElem?_insert, Std.compare_eq_iff_eq]
    rw [held?_enlist] at h
    split at h
    · cases h
      exact if_pos rfl
    · rw [if_neg (Ne.symm (free_iff.mp free place own h))]
      exact attended.attached place own h
  owned place queue hmem := by
    rcases List.mem_append.mp hmem with hmem | hmem
    · obtain ⟨own, hown, hid⟩ := attended.owned place queue hmem
      refine ⟨own, ?_, hid⟩
      simp only [Roster.enlist]
      rw [List.getElem?_append_left (List.getElem?_eq_some_iff.mp hown).1, hown]
    · cases List.mem_singleton.mp hmem
      exact ⟨_, List.getElem?_concat_length, introduces.admin.trans introduces.controller.symm⟩

/-- What becomes of a single controller matters to no other one. -/
lemma Attended.set (attended : roster.Attended) {place : Nat} {own own' : Enlisted}
    (h : roster.held? place = some own) (hid : own'.id = own.id) {net : Loopback}
    (hlive : net.stats.liveControllers = roster.size - 1 + if own'.released then 0 else 1)
    (hothers : ∀ id, id ≠ own.id → net.attachments[id]? = roster.net.attachments[id]?)
    (hself : own'.released = false → net.attachments[own.id]? = some own'.attachment) :
    Attended { roster with net, controllers := roster.controllers.set place own' } where
  ids first last one other hone hother heq := by
    rw [held?_set h] at hone hother
    split at hone
    · rename_i hfirst
      split at hother
      · rename_i hlast
        rw [hfirst, hlast]
      · have hsome : one = own' := by
          split at hone <;> cases hone
          rfl
        rw [hfirst]
        exact attended.ids place last own other h hother (by rw [← heq, hsome, hid])
    · split at hother
      · rename_i hlast
        have hsome : other = own' := by
          split at hother <;> cases hother
          rfl
        rw [hlast]
        exact attended.ids first place one own hone h (by rw [heq, hsome, hid])
      · exact attended.ids first last one other hone hother heq
  live := by
    rw [size_set h]
    exact hlive
  attached other one hone := by
    rw [held?_set h] at hone
    split at hone
    · split at hone <;> cases hone
      rename_i hreleased
      rw [hid]
      exact hself (Bool.eq_false_iff.mpr hreleased)
    · rename_i hne
      have hdiffer : one.id ≠ own.id := fun heq => hne (attended.ids other place one own hone h heq)
      change net.attachments[one.id]? = _
      rw [hothers _ hdiffer]
      exact attended.attached other one hone
  owned other queue hmem := by
    obtain ⟨owner, howner, howned⟩ := attended.owned other queue hmem
    by_cases heq : other = place
    · subst heq
      have hget := (held?_eq_some_iff.mp h).1
      cases howner.symm.trans hget
      refine ⟨own', ?_, howned.trans hid.symm⟩
      exact List.getElem?_set_self (List.getElem?_eq_some_iff.mp hget).1
    · refine ⟨owner, ?_, howned⟩
      simp only
      rw [List.getElem?_set_ne (Ne.symm heq), howner]

lemma Attended.reset (attended : roster.Attended) {place : Nat} {own : Enlisted} (h : roster.held? place = some own)
    {net : Loopback} (hmodified : net.attachments = roster.net.attachments.modify own.id fun attachment =>
      { attachment with generation := attachment.generation + 1 })
    (hlive : net.stats.liveControllers = roster.net.stats.liveControllers) :
    Attended { roster with net, controllers := roster.controllers.set place { own with resets := own.resets + 1 } } := by
  have hpos := size_pos h
  have hreleased := (held?_eq_some_iff.mp h).2
  refine attended.set h (rfl : Enlisted.id { own with resets := own.resets + 1 } = own.id) ?_ ?_ ?_
  · rw [hlive, attended.live, hreleased, if_neg Bool.false_ne_true]
    omega
  · intro id hne
    rw [hmodified]
    simp only [Std.ExtTreeMap.getElem?_modify, Std.compare_eq_iff_eq]
    exact if_neg (Ne.symm hne)
  · intro _
    rw [hmodified, Std.ExtTreeMap.getElem?_modify_self, attended.attached place own h]
    rfl

lemma Attended.release (attended : roster.Attended) {place : Nat} {own : Enlisted} (h : roster.held? place = some own) :
    Attended { roster with
      net := Loopback.releaseController own.controller roster.net
      controllers := roster.controllers.set place { own with released := true } } := by
  have hmem : own.controller.controllerId ∈ roster.net.attachments := by
    rw [Std.ExtTreeMap.mem_iff_isSome_getElem?]
    exact Option.isSome_iff_exists.mpr ⟨_, attended.attached place own h⟩
  simp only [Loopback.releaseController, if_pos hmem]
  refine attended.set h (rfl : Enlisted.id { own with released := true } = own.id) ?_ ?_ ?_
  · exact congrArg (· - 1) attended.live
  · intro id hne
    simp only [Loopback.count, Std.ExtTreeMap.getElem?_erase, Std.compare_eq_iff_eq]
    exact if_neg (Ne.symm hne)
  · intro hheld
    cases hheld

/-- A handshake gives out no id that a controller still has. -/
def Apart (roster : Roster) (call : NetworkCall) : Prop :=
  match call with
  | .connect params timeoutMs => ∀ association,
    (Loopback.connect params timeoutMs roster.net).1 = .connected association → roster.Free association.controllerId
  | _ => True

instance (roster : Roster) (call : NetworkCall) : Decidable (roster.Apart call) :=
  match call with
  | .connect params timeoutMs =>
    match h : (Loopback.connect params timeoutMs roster.net).1 with
    | .connected association => decidable_of_iff (roster.Free association.controllerId) (by simp [Apart, h])
    | .failed _ => .isTrue (by simp [Apart, h])
    | .timedOut => .isTrue (by simp [Apart, h])
  | .createIoQueue .. | .reset _ | .release _ | .submit .. | .process .. | .releaseQueue _ | .configure _
  | .addSubsystem .. | .wait _ => .isTrue trivial

/-- As long as ids stay apart, the network keeps knowing its controllers. -/
lemma Attended.after (attended : roster.Attended) {call : NetworkCall} {next : Roster}
    (change : Change roster call next) (apart : roster.Apart call) : next.Attended := by
  cases change with
  | introduced heq introduces =>
    have free := apart _ (congrArg Prod.fst heq)
    rw [← introduces.same_id] at free
    exact attended.enlist introduces free
  | kept same howned =>
    refine attended.of_same same fun place queue hmem => ?_
    rcases howned place queue hmem with ⟨earlier, hearlier, hid⟩ | ⟨own, hheld, hid⟩
    · obtain ⟨own, hown, hearlierId⟩ := attended.owned place earlier hearlier
      exact ⟨own, hown, hid.trans hearlierId⟩
    · exact ⟨own, (held?_eq_some_iff.mp hheld).1, hid⟩
  | reset hheld hmodified _ hlive => exact attended.reset hheld hmodified hlive
  | released hheld => exact attended.release hheld

lemma run_apart_attended (run : Run Apart roster) : roster.Attended := by
  induction run with
  | start => exact attended_empty
  | call roster call _ apart ih => exact ih.after (roster.change_after call) apart

/-- A controller that comes under an id that another one still has is not told apart from it. -/
lemma not_identified_of_shared {subsystem : SubsystemName}
    {association : Association LoopbackController LoopbackQueue} {net : Loopback} {place : Nat} {own : Enlisted}
    (h : roster.held? place = some own) (hid : own.id = association.controller.controllerId) :
    ¬ (roster.enlist subsystem association net).Identified := by
  intro identified
  have hlt := (List.getElem?_eq_some_iff.mp (held?_eq_some_iff.mp h).1).1
  have hearlier : (roster.enlist subsystem association net).held? place = some own := by
    rw [held?_enlist, if_neg (by omega), h]
  have hnewest : (roster.enlist subsystem association net).held? roster.controllers.length =
      some { controller := association.controller, subsystem } := by
    rw [held?_enlist, if_pos rfl]
  exact absurd (identified.ids _ _ _ _ hearlier hnewest hid) (by omega)

/-- Controllers are told apart, counted right and served from their own subsystems as long as no handshake gives out an
id that one of them still has, and no longer than that. -/
theorem identified_iff_apart (run : Run Apart roster) :
    roster.Identified ∧ ∀ params timeoutMs association,
      (Loopback.connect params timeoutMs roster.net).1 = .connected association →
        ((roster.after (.connect params timeoutMs)).Identified ↔ roster.Free association.controllerId) := by
  have attended := run_apart_attended run
  refine ⟨attended.identified, fun params timeoutMs association hconnected => ?_⟩
  constructor
  · intro identified
    apply free_iff.mpr
    intro place own h hid
    rcases roster.net.connect_outcomes params timeoutMs with
      ⟨association', net, heq, introduces⟩ | ⟨outcome, net, heq, hother, -⟩
    · rw [heq] at hconnected
      cases hconnected
      simp only [Roster.after, heq] at identified
      exact not_identified_of_shared h (hid.trans introduces.same_id.symm) identified
    · rw [heq] at hconnected
      exact hother association hconnected
  · intro free
    have apart : roster.Apart (.connect params timeoutMs) := by
      intro other h
      cases hconnected.symm.trans h
      exact free
    exact (attended.after (roster.change_after _) apart).identified

end Roster

/-- Where the subsystems of the examples listen. -/
def sharedEndpoint : Endpoint := { address := .v4 ⟨#v[10, 0, 0, 1]⟩, port := 4420 }

/-- A handshake with a subsystem at that endpoint. -/
def handshakeWith (nqn : String) : HandshakeParams where
  kind := .tcp
  target := sharedEndpoint
  subsystemNqn := nqn
  hostNqn := "nqn.host"
  hostId := .nil
  keepAliveTimeoutMs := 0

namespace Roster

theorem three_handshakes_identified : ∃ roster, Run Apart roster ∧ roster.controllers.map Enlisted.id = [1, 2, 3] ∧
    roster.size = 2 ∧ roster.Identified := by
  let listening := (({} : Roster).after (.addSubsystem sharedEndpoint "nqn.a" [8])).after
    (.addSubsystem sharedEndpoint "nqn.b" [8, 8])
  let first := listening.after (.connect (handshakeWith "nqn.a") 0)
  let second := first.after (.connect (handshakeWith "nqn.b") 0)
  let released := second.after (.release 0)
  have run : Run Apart (released.after (.connect (handshakeWith "nqn.a") 0)) := by
    apply Run.call _ _ _ (by decide +kernel)
    apply Run.call _ _ _ trivial
    apply Run.call _ _ _ (by decide +kernel)
    apply Run.call _ _ _ (by decide +kernel)
    exact .call _ _ (.call _ _ .start trivial) trivial
  exact ⟨_, run, by decide +kernel, by decide +kernel, (identified_iff_apart run).1⟩

end Roster

end FabricHost
