import FabricHost.Queue.Channel
import Mathlib.Tactic.Lemma

/-!
# Histories of channels

A channel forgets what has gone through it. A `Recorded` channel keeps a history besides: which commands the queue pair
accepted and for whom, what it reported about each of them, and which requests became takeable, were given up, or had
their completion delivered. The id of a completion says which command it is about: the one in flight that has this id.
-/

namespace FabricHost

/-- What is asked of a channel. -/
inductive ChannelCall where
  | submit (request : RequestId) (command : Command)
  | submitDetached (command : Command)
  | reap
  | take (request : RequestId)
  | abandon (request : RequestId)

/-- A command that a queue pair accepted. -/
structure Sent where
  id : CommandId
  /-- None for a command that nobody waits for. -/
  request : Option RequestId
  /-- What the queue pair reported about the command, once it has. -/
  completion : Option Completion := none
deriving DecidableEq

namespace Sent

/-- The command after a report, which is about it if it is in flight under that id. -/
def report (completion : Completion) (command : Sent) : Sent :=
  if command.id = completion.id ∧ command.completion = none then { command with completion := some completion }
  else command

end Sent

/-- What has happened on a channel. -/
structure History where
  /-- The commands that were accepted, in this order. -/
  sent : List Sent := []
  /-- The requests in the order in which they became takeable; those of one reap in the order of submission. -/
  released : List RequestId := []
  abandoned : List RequestId := []
  /-- What was taken, the oldest first. -/
  delivered : List (RequestId × Completion) := []

namespace History

/-- The requests that commands were accepted for, in this order. -/
def requests (history : History) : List RequestId := history.sent.filterMap Sent.request

/-- The commands that the queue pair has not reported about. -/
def inFlight (history : History) : List Sent := history.sent.filter fun command => command.completion = none

def taken (history : History) : List RequestId := history.delivered.map Prod.fst

def accept (history : History) (id : CommandId) (request : Option RequestId) : History :=
  { history with sent := history.sent ++ [{ id, request }] }

def report (history : History) (completion : Completion) : History :=
  { history with sent := history.sent.map (Sent.report completion) }

def release (history : History) (requests : List RequestId) : History :=
  { history with released := history.released ++ requests }

def abandon (history : History) (request : RequestId) : History :=
  { history with abandoned := history.abandoned ++ [request] }

def deliver (history : History) (request : RequestId) (completion : Completion) : History :=
  { history with delivered := history.delivered ++ [(request, completion)] }

/-- Each of the completions is about a command that is in flight when its turn comes, or has an id that no command was
accepted under. -/
def Reports (history : History) : List Completion → Prop
  | [] => True
  | completion :: rest =>
    ((∃ command ∈ history.inFlight, command.id = completion.id) ∨
      ∀ command ∈ history.sent, command.id ≠ completion.id) ∧ (history.report completion).Reports rest

instance instDecidableReports (history : History) (completions : List Completion) :
    Decidable (history.Reports completions) :=
  match completions with
  | [] => .isTrue trivial
  | completion :: rest =>
    have := instDecidableReports (history.report completion) rest
    inferInstanceAs (Decidable (_ ∧ _))

end History

structure Recorded (Q : Type) where
  channel : Channel Q
  history : History := {}

/-- The requests that can be taken after a reap and could not be taken before it. -/
def Tracker.newlyTakeable (before after : Tracker) : List RequestId :=
  (before.inflight.map Inflight.request).filter fun request => request ∈ after.ready ∧ request ∉ before.ready

namespace Recorded

variable {W Q : Type} [QueuePairs W Q]

def after (state : Recorded Q) (call : ChannelCall) (world : W) : Recorded Q :=
  let { channel, history } := state
  match call with
  | .submit request command =>
    { channel := (channel.submit request command world).2.1
      history := match (QueuePairs.submit channel.queue command world).1 with
        | .ok id => history.accept id (some request)
        | .error _ => history }
  | .submitDetached command =>
    { channel := (channel.submitDetached command world).2.1
      history := match (QueuePairs.submit channel.queue command world).1 with
        | .ok id => history.accept id none
        | .error _ => history }
  | .reap =>
    let reaped := (channel.reap world).2.1
    { channel := reaped
      history := match (QueuePairs.process channel.queue 0 world).1 with
        | .ok completions =>
          (completions.foldl History.report history).release (channel.tracker.newlyTakeable reaped.tracker)
        | .error _ => history }
  | .take request =>
    { channel := (channel.take request).2
      history := match (channel.take request).1 with
        | some completion => history.deliver request completion
        | none => history }
  | .abandon request =>
    { channel := (channel.abandon request).2
      history := if (channel.abandon request).1 then history.abandon request else history }

def afterAll (state : Recorded Q) (calls : List (ChannelCall × W)) : Recorded Q :=
  calls.foldl (fun state call => state.after call.1 call.2) state

/-- Runs from a queue pair with nothing in flight. The world may change in any way between two calls. -/
inductive Run (Allowed : Recorded Q → ChannelCall → W → Prop) (queue : Q) : Recorded Q → Prop
  | start : Run Allowed queue { channel := { queue } }
  | call (state : Recorded Q) (call : ChannelCall) (world : W) :
    Run Allowed queue state → Allowed state call world → Run Allowed queue (state.after call world)

theorem Run.mono {Allowed Allowed' : Recorded Q → ChannelCall → W → Prop} {queue : Q} {state : Recorded Q}
    (h : ∀ state call world, Run Allowed queue state → Allowed state call world → Allowed' state call world)
    (run : Run Allowed queue state) : Run Allowed' queue state := by
  induction run with
  | start => exact .start
  | call state call world run allowed ih => exact .call state call world ih (h state call world run allowed)

/-- Whether each of several calls is allowed when its turn comes. -/
def AllAllowed (Allowed : Recorded Q → ChannelCall → W → Prop) : Recorded Q → List (ChannelCall × W) → Prop
  | _, [] => True
  | state, (call, world) :: rest => Allowed state call world ∧ AllAllowed Allowed (state.after call world) rest

instance instDecidableAllAllowed (Allowed : Recorded Q → ChannelCall → W → Prop)
    [∀ state call world, Decidable (Allowed state call world)] (state : Recorded Q) (calls : List (ChannelCall × W)) :
    Decidable (AllAllowed Allowed state calls) :=
  match calls with
  | [] => .isTrue trivial
  | (call, world) :: rest =>
    have := instDecidableAllAllowed Allowed (state.after call world) rest
    inferInstanceAs (Decidable (_ ∧ _))

lemma Run.calls {Allowed : Recorded Q → ChannelCall → W → Prop} {queue : Q} {state : Recorded Q}
    (run : Run Allowed queue state) {calls : List (ChannelCall × W)} (allowed : AllAllowed Allowed state calls) :
    Run Allowed queue (state.afterAll calls) := by
  induction calls generalizing state with
  | nil => exact run
  | cons call rest ih => exact ih (.call state call.1 call.2 run allowed.1) allowed.2

end Recorded

end FabricHost
