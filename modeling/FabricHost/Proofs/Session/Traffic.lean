import FabricHost.Proofs.Session.Steps

/-!
# Traffic on a session

Commands come and go on the queue pairs of a session without changing what it owns. A `Labelling` makes this precise: it
puts numbers on queue pairs and a record into the world, and neither a command nor a clock reading changes them. So no
step does.
-/

namespace FabricHost

/-- Numbers on queue pairs and a record in the world that traffic leaves alone. -/
structure Labelling (W Q L : Type) [QueuePairs W Q] [Clock W] where
  queue : Q → Nat
  record : W → L
  submit_queue (q : Q) (command : Command) (world : W) : queue (QueuePairs.submit q command world).2.1 = queue q
  submit_record (q : Q) (command : Command) (world : W) :
    record (QueuePairs.submit q command world).2.2 = record world
  process_queue (q : Q) (limit : Nat) (world : W) : queue (QueuePairs.process q limit world).2.1 = queue q
  process_record (q : Q) (limit : Nat) (world : W) :
    record (QueuePairs.process q limit world).2.2 = record world
  now_record (world : W) : record (Clock.now world).2 = record world

namespace Labelling

variable {W Q L : Type} [QueuePairs W Q] [Clock W] (labels : Labelling W Q L)

/-- The queue pair keeps its number, and the record stays. -/
structure Quiet (before after : Channel Q × W) : Prop where
  queue : labels.queue after.1.queue = labels.queue before.1.queue
  record : labels.record after.2 = labels.record before.2

variable {labels}

lemma Quiet.refl (before : Channel Q × W) : labels.Quiet before before := ⟨rfl, rfl⟩

lemma Quiet.trans {first second third : Channel Q × W} (h : labels.Quiet first second)
    (h' : labels.Quiet second third) : labels.Quiet first third :=
  ⟨h'.queue.trans h.queue, h'.record.trans h.record⟩

end Labelling

section

variable {W Q L : Type} [QueuePairs W Q] [Clock W] {labels : Labelling W Q L}

lemma Channel.Step.quiet {own : RequestId → Prop} {sends : Command → Prop} {before after : Channel Q × W}
    (h : Channel.Step own sends before after) : labels.Quiet before after := by
  cases h with
  | now channel world => exact ⟨rfl, labels.now_record world⟩
  | @submit channel world request command =>
    have hqueue := labels.submit_queue channel.queue command world
    have hrecord := labels.submit_record channel.queue command world
    unfold Channel.submit
    split
    all_goals
      rename_i heq
      rw [heq] at hqueue hrecord
      exact ⟨hqueue, hrecord⟩
  | @submitDetached channel world command =>
    have hqueue := labels.submit_queue channel.queue command world
    have hrecord := labels.submit_record channel.queue command world
    unfold Channel.submitDetached
    split
    all_goals
      rename_i heq
      rw [heq] at hqueue hrecord
      exact ⟨hqueue, hrecord⟩
  | reap channel world =>
    have hqueue := labels.process_queue channel.queue 0 world
    have hrecord := labels.process_record channel.queue 0 world
    unfold Channel.reap
    split
    all_goals
      rename_i heq
      rw [heq] at hqueue hrecord
      exact ⟨hqueue, hrecord⟩
  | take => exact ⟨rfl, rfl⟩
  | abandon => exact ⟨rfl, rfl⟩

lemma Channel.Steps.quiet {own : RequestId → Prop} {sends : Command → Prop} {before after : Channel Q × W}
    (h : Channel.Steps own sends before after) : labels.Quiet before after := by
  induction h with
  | refl => exact .refl _
  | tail _ hstep ih => exact ih.trans hstep.quiet

lemma Labelling.drain_quiet (labels : Labelling W Q L) (limit : Nat) (channel : Channel Q) (world : W) :
    labels.Quiet (channel, world) (channel.drain limit world) := (channel.drain_reaps world limit).quiet

end

/-- What a session owns has not changed. -/
structure Labelling.Like {W Q L C : Type} [QueuePairs W Q] [Clock W] (labels : Labelling W Q L)
    (before after : Session C Q) : Prop where
  key : after.key = before.key
  controller : after.controller = before.controller
  state : after.state = before.state
  io : after.io.map (labels.queue ·.queue) = before.io.map (labels.queue ·.queue)

/-- What a session owns has not changed, and neither has the record. -/
structure Labelling.Alike {W Q L C : Type} [QueuePairs W Q] [Clock W] (labels : Labelling W Q L)
    (before after : Session C Q × W) : Prop where
  like : labels.Like before.1 after.1
  record : labels.record after.2 = labels.record before.2

namespace Labelling

variable {W C Q L : Type} [Fabric W C Q] [Clock W] {labels : Labelling W Q L}

lemma Like.refl (session : Session C Q) : labels.Like session session := ⟨rfl, rfl, rfl, rfl⟩

lemma Like.trans {first second third : Session C Q} (h : labels.Like first second) (h' : labels.Like second third) :
    labels.Like first third :=
  ⟨h'.key.trans h.key, h'.controller.trans h.controller, h'.state.trans h.state, h'.io.trans h.io⟩

end Labelling

variable {W C Q L : Type} [Fabric W C Q] [Clock W] {labels : Labelling W Q L}
  {own : SessionKey → RequestId → Prop} {sends : Command → Prop} {before after : Session C Q × W}

lemma Session.Step.alike (h : Session.Step own sends before after) : labels.Alike before after := by
  cases h with
  | now session world => exact ⟨.refl _, labels.now_record world⟩
  | admin h =>
    have hquiet : labels.Quiet _ _ := h.quiet
    exact ⟨⟨rfl, rfl, rfl, rfl⟩, hquiet.record⟩
  | io hio h =>
    have hquiet : labels.Quiet _ _ := h.quiet
    refine ⟨⟨rfl, rfl, rfl, ?_⟩, hquiet.record⟩
    rw [hio]
    exact congrArg some hquiet.queue
  | learn => exact ⟨⟨rfl, rfl, rfl, rfl⟩, rfl⟩
  | timer => exact ⟨⟨rfl, rfl, rfl, rfl⟩, rfl⟩

end FabricHost
