import FabricHost.Loopback.Queue
import FabricHost.Proofs.Queue.Operations

/-!
# Delivery

What a channel owes its callers as long as its queue pair keeps its word: completions can be taken in the order of
submission, each by the request whose command it is of, and by no other and not twice.
-/

namespace FabricHost

namespace Recorded

variable {W Q : Type} [QueuePairs W Q]

/-- If the queue pair accepts the command, then under an id of this kind. -/
def AcceptsUnder (state : Recorded Q) (Suits : CommandId → Prop) (command : Command) (world : W) : Prop :=
  match (QueuePairs.submit state.channel.queue command world).1 with
  | .ok id => Suits id
  | .error _ => True

/-- If the queue pair reports, then about each command at most once. -/
def ReportsOnce (state : Recorded Q) (world : W) : Prop :=
  match (QueuePairs.process state.channel.queue 0 world).1 with
  | .ok completions => state.history.Reports completions
  | .error _ => True

/-- What is promised of a call: requests are not used again, and the queue pair keeps its word. -/
def Promised (state : Recorded Q) (call : ChannelCall) (world : W) : Prop :=
  match call with
  | .submit request command =>
    request ∉ state.history.requests ∧ state.AcceptsUnder (¬ state.channel.tracker.Holds ·) command world
  | .submitDetached command => state.AcceptsUnder (¬ state.channel.tracker.Holds ·) command world
  | .reap => state.ReportsOnce world
  | .take _ => True
  | .abandon _ => True

/-- What the tracker needs of a call, which is a little less: a command that nobody waits for may have the id of one
whose completion is held back. -/
def Admissible (state : Recorded Q) (call : ChannelCall) (world : W) : Prop :=
  match call with
  | .submit request command =>
    request ∉ state.history.requests ∧ state.AcceptsUnder (¬ state.channel.tracker.Holds ·) command world
  | .submitDetached command => state.AcceptsUnder (¬ state.channel.tracker.Expects ·) command world
  | .reap => state.ReportsOnce world
  | .take _ => True
  | .abandon _ => True

instance (state : Recorded Q) (Suits : CommandId → Prop) [DecidablePred Suits] (command : Command) (world : W) :
    Decidable (state.AcceptsUnder Suits command world) := by
  unfold AcceptsUnder
  split <;> infer_instance

instance (state : Recorded Q) (world : W) : Decidable (state.ReportsOnce world) := by
  unfold ReportsOnce
  split <;> infer_instance

instance (state : Recorded Q) (call : ChannelCall) (world : W) : Decidable (Promised state call world) := by
  unfold Promised
  split <;> infer_instance

lemma AcceptsUnder.mono {state : Recorded Q} {Suits Suits' : CommandId → Prop} {command : Command} {world : W}
    (h : ∀ id, Suits id → Suits' id) (accepts : state.AcceptsUnder Suits command world) :
    state.AcceptsUnder Suits' command world := by
  unfold AcceptsUnder at accepts ⊢
  split
  · rename_i id hid
    rw [hid] at accepts
    exact h id accepts
  · trivial

lemma AcceptsUnder.and {state : Recorded Q} {Suits Suits' : CommandId → Prop} {command : Command} {world : W}
    (accepts : state.AcceptsUnder Suits command world) (accepts' : state.AcceptsUnder Suits' command world) :
    state.AcceptsUnder (fun id => Suits id ∧ Suits' id) command world := by
  unfold AcceptsUnder at accepts accepts' ⊢
  split
  · rename_i id hid
    rw [hid] at accepts accepts'
    exact ⟨accepts, accepts'⟩
  · trivial

lemma Promised.admissible {state : Recorded Q} {call : ChannelCall} {world : W}
    (promised : Promised state call world) : Admissible state call world := by
  cases call with
  | submit request command => exact promised
  | submitDetached command =>
    exact AcceptsUnder.mono (fun id hid hexpects => hid hexpects.holds) promised
  | reap => exact promised
  | take request => trivial
  | abandon request => trivial

lemma agrees_after {state : Recorded Q} (h : Agrees state.channel.tracker state.history) {call : ChannelCall}
    {world : W} (admissible : Admissible state call world) :
    Agrees (state.after call world).channel.tracker (state.after call world).history := by
  cases call with
  | submit request command =>
    obtain ⟨hfresh, hapart⟩ := admissible
    unfold AcceptsUnder at hapart
    rcases hsubmit : QueuePairs.submit state.channel.queue command world with ⟨_ | id, queue, world'⟩
    · simp only [after, Channel.submit, hsubmit]
      exact h
    · rw [hsubmit] at hapart
      simp only [after, Channel.submit, hsubmit]
      exact h.submitted hfresh hapart
  | submitDetached command =>
    have hapart : state.AcceptsUnder (¬ state.channel.tracker.Expects ·) command world := admissible
    unfold AcceptsUnder at hapart
    rcases hsubmit : QueuePairs.submit state.channel.queue command world with ⟨_ | id, queue, world'⟩
    · simp only [after, Channel.submitDetached, hsubmit]
      exact h
    · rw [hsubmit] at hapart
      simp only [after, Channel.submitDetached, hsubmit]
      exact h.detached hapart
  | reap =>
    have honce : state.ReportsOnce world := admissible
    unfold ReportsOnce at honce
    rcases hprocess : QueuePairs.process state.channel.queue 0 world with ⟨_ | completions, queue, world'⟩
    · simp only [after, Channel.reap, hprocess]
      exact h
    · rw [hprocess] at honce
      simp only [after, Channel.reap, hprocess]
      exact h.absorb honce
  | take request => exact h.take request
  | abandon request => exact h.abandon request

lemma run_agrees {queue : Q} {state : Recorded Q} (run : Run (W := W) Admissible queue state) :
    Agrees state.channel.tracker state.history := by
  induction run with
  | start => exact .empty
  | call state call world _ admissible ih => exact agrees_after ih admissible

end Recorded

/-- The command at this place was accepted for the request, and the completion is what the queue pair reported of it. -/
def History.Completes (history : History) (place : Nat) (request : RequestId) (completion : Completion) : Prop :=
  ∃ command, history.sent[place]? = some command ∧ command.request = some request ∧
    command.completion = some completion

/-- The order and the ownership of completions on a channel. -/
structure Orderly (tracker : Tracker) (history : History) : Prop where
  requests_once : history.requests.Nodup
  /-- A report is about one command only. -/
  reports_apart : (history.inFlight.map Sent.id).Nodup
  /-- What has become takeable, and then what is waited for, is what was submitted, in this order, without what was
  given up while it was waited for. -/
  in_order : history.released ++ tracker.inflight.map Inflight.request =
    history.requests.filter fun request => request ∈ history.released ∨ request ∉ history.abandoned
  takeable : ∀ request, request ∈ tracker.ready ↔
    request ∈ history.released ∧ request ∉ history.abandoned ∧ request ∉ history.taken
  ready_own : ∀ request completion, tracker.ready[request]? = some completion →
    ∃! place, history.Completes place request completion
  delivered_own : ∀ request completion, (request, completion) ∈ history.delivered →
    ∃! place, history.Completes place request completion
  delivered_once : history.taken.Nodup
  tracked : ∀ request, tracker.isTracked request ↔
    request ∈ history.requests ∧ request ∉ history.taken ∧ request ∉ history.abandoned
  /-- Nobody gets the completion of a command that nobody waits for. -/
  dropped : ∀ place command, history.sent[place]? = some command →
    (∀ request, command.request = some request → request ∈ history.abandoned) →
    ∀ request completion, (request, completion) ∈ history.delivered →
      ¬ history.Completes place request completion

namespace Agrees

variable {tracker : Tracker} {history : History} (h : Agrees tracker history)
include h

lemma released_sent {request : RequestId} (hreleased : request ∈ history.released) :
    request ∈ history.requests := by
  have hmem := List.mem_append_left (tracker.inflight.map Inflight.request) hreleased
  rw [h.order] at hmem
  exact (List.mem_filter.mp hmem).1

lemma isTracked_iff (request : RequestId) : tracker.isTracked request ↔
    request ∈ history.requests ∧ request ∉ history.taken ∧ request ∉ history.abandoned := by
  have heither : tracker.isTracked request ↔
      request ∈ tracker.ready ∨ ∃ entry ∈ tracker.inflight, entry.request = request := by
    simp [Tracker.isTracked]
  rw [heither]
  constructor
  · rintro (hready | ⟨entry, hentry, rfl⟩)
    · obtain ⟨hreleased, habandoned, htaken⟩ := (h.ready_iff request).mp hready
      exact ⟨h.released_sent hreleased, htaken, habandoned⟩
    · obtain ⟨-, habandoned, htaken⟩ := h.waiting hentry
      obtain ⟨command, hcommand, hof, -⟩ := h.inflight_sent entry hentry
      exact ⟨History.mem_requests.mpr ⟨command, hcommand, hof⟩, htaken, habandoned⟩
  · rintro ⟨hsent, htaken, habandoned⟩
    exact h.tracked hsent htaken habandoned

lemma completes_once {request : RequestId} {completion : Completion}
    (hown : ∃ command ∈ history.sent, command.request = some request ∧ command.completion = some completion) :
    ∃! place, history.Completes place request completion := by
  obtain ⟨command, hcommand, hof, hdone⟩ := hown
  obtain ⟨place, hplace⟩ := List.mem_iff_getElem?.mp hcommand
  refine ⟨place, ⟨command, hplace, hof, hdone⟩, ?_⟩
  rintro other ⟨own, hother, hofOwn, -⟩
  exact History.eq_of_request h.requests_nodup hother hplace hofOwn hof

lemma orderly : Orderly tracker history where
  requests_once := h.requests_nodup
  reports_apart := h.inFlight_ids
  in_order := h.order
  takeable := h.ready_iff
  ready_own := fun request completion hready => h.completes_once (h.ready_sent request completion hready)
  delivered_own := fun request completion hdelivered =>
    h.completes_once (h.delivered_sent request completion hdelivered)
  delivered_once := h.taken_nodup
  tracked := h.isTracked_iff
  dropped := by
    intro place command hplace hnobody request completion hdelivered hcompletes
    obtain ⟨own, hown, hof, -⟩ := hcompletes
    rw [hplace, Option.some.injEq] at hown
    subst hown
    have htaken : request ∈ history.taken := List.mem_map.mpr ⟨_, hdelivered, rfl⟩
    exact (h.taken_released request htaken).2 (hnobody request hof)

end Agrees

/-- Whatever a queue pair that keeps its word does, and in whatever order a channel is called, completions are delivered
in order and each to its own request. -/
theorem orderly_of_run {W Q : Type} [QueuePairs W Q] {queue : Q} {state : Recorded Q}
    (run : Recorded.Run (W := W) Recorded.Promised queue state) :
    Orderly state.channel.tracker state.history :=
  (Recorded.run_agrees (run.mono fun _ _ _ _ promised => promised.admissible)).orderly

/-- Where the simulated networks below are reached, at an address set aside for documentation. -/
def Loopback.portal : Endpoint := { address := .v4 ⟨#v[192, 0, 2, 1]⟩, port := 4420 }

/-- A simulated network with controller 1 attached, where commands that are submitted now stay in flight for `polls`
polls. -/
def Loopback.attached (polls : Nat) : Loopback where
  subsystems := [⟨⟨portal, "nqn.subsystem"⟩, []⟩]
  attachments := (∅ : Std.ExtTreeMap UInt16 Attachment).insert 1 { subsystem := ⟨portal, "nqn.subsystem"⟩ }
  behavior := { completionDelayPolls := polls }

def LoopbackQueue.idle (controllerId : UInt16) (generation : Option Nat) (depth : UInt16) : LoopbackQueue where
  controllerId
  generation
  depth := depth.toNat

/-- The second command completes before the first one, and a third is given up. -/
def overtaking : List (ChannelCall × Loopback) :=
  [(.submit 10 .keepAlive, .attached 1), (.submit 11 .keepAlive, .attached 0), (.reap, .attached 0),
    (.submitDetached .keepAlive, .attached 0), (.submit 12 .keepAlive, .attached 0), (.abandon 12, .attached 0),
    (.reap, .attached 0), (.take 11, .attached 0), (.take 10, .attached 0)]

theorem overtaking_orderly : ∃ state : Recorded LoopbackQueue,
    Recorded.Run (W := Loopback) Recorded.Promised (.idle 1 none 4) state ∧
      state.history.released = [10, 11] ∧
      state.history.delivered = [(11, { id := 1, status := .success }), (10, { id := 0, status := .success })] ∧
      Orderly state.channel.tracker state.history := by
  have run : Recorded.Run (W := Loopback) Recorded.Promised (LoopbackQueue.idle 1 none 4)
      (Recorded.afterAll { channel := { queue := .idle 1 none 4 } } overtaking) :=
    Recorded.Run.start.calls (by decide +kernel)
  exact ⟨_, run, by decide +kernel, by decide +kernel, orderly_of_run run⟩

end FabricHost
