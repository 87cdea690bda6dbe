import FabricHost.Clock
import FabricHost.Host.Error
import FabricHost.Queue.Channel

/-!
# Waiting for a command

A synchronous call submits its command as soon as there is a slot and polls until the completion can be taken. It looks
at the clock after each poll that did not help, and gives up at its deadline. Nothing but the deadline bounds a wait: the
budget of polls is there for the recursion to end where the clock never comes to the deadline, and `pollsExhausted` says
that it did. `Host.perform_ne_exhausted` tells for which clocks a budget is enough. A request that was given up is tracked
no more, however the wait ends.
-/

namespace FabricHost.Channel

variable {W Q : Type} [QueuePairs W Q] [Clock W]

/-- Submits a command, reaping for a free slot until the deadline. The budget is enough where the clock comes to the
deadline on as many readings. -/
def submitBy (deadline : Tick) (request : RequestId) (command : Command) :
    (budget : Nat) → (channel : Channel Q) → (world : W) → Except HostError Unit × Channel Q × W
  | 0, channel, world => (.error .pollsExhausted, channel, world)
  | budget + 1, channel, world =>
    match channel.submit request command world with
    | (.ok (), channel, world) => (.ok (), channel, world)
    | (.error (.transport failure), channel, world) => (.error (.ofFailure failure), channel, world)
    | (.error .queueFull, channel, world) =>
      let (now, world) := Clock.now world
      if deadline ≤ now then (.error .timeout, channel, world)
      else match channel.reap world with
        | (.error failure, channel, world) => (.error (.ofFailure failure), channel, world)
        | (.ok _, channel, world) => submitBy deadline request command budget channel world

def giveUp (channel : Channel Q) (request : RequestId) (world : W) (error : HostError) :
    Except HostError Completion × Channel Q × W :=
  (.error error, (channel.abandon request).2, world)

/-- Polls for the completion of a request until the deadline, with a budget as for submitting. -/
def awaitBy (deadline : Tick) (request : RequestId) :
    (budget : Nat) → (channel : Channel Q) → (world : W) → Except HostError Completion × Channel Q × W
  | 0, channel, world => channel.giveUp request world .pollsExhausted
  | budget + 1, channel, world =>
    match channel.reap world with
    | (.error failure, channel, world) => channel.giveUp request world (.ofFailure failure)
    | (.ok _, channel, world) =>
      match channel.take request with
      | (some completion, channel) => (.ok completion, channel, world)
      | (none, channel) =>
        let (now, world) := Clock.now world
        if deadline ≤ now then channel.giveUp request world .timeout
        else awaitBy deadline request budget channel world

def execute (channel : Channel Q) (budget : Nat) (deadline : Tick) (request : RequestId) (command : Command)
    (world : W) : Except HostError Completion × Channel Q × W :=
  match submitBy deadline request command budget channel world with
  | (.error error, channel, world) => (.error error, channel, world)
  | (.ok (), channel, world) => awaitBy deadline request budget channel world

/-- A completion that reports success. -/
def successful (completion : Completion) : Except HostError Completion :=
  if completion.status.isSuccess then .ok completion else .error (.mediaError completion.status)

end FabricHost.Channel
