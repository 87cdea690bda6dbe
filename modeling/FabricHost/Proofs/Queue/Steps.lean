import FabricHost.Queue.Await
import Mathlib.Logic.Relation
import Mathlib.Tactic.Lemma

/-!
# Steps of a channel

Whatever a session does with a channel, it does by six kinds of steps: it looks at the clock, submits a command for a
request or for nobody, reaps, takes a completion, or abandons a request. What each of these keeps up, every call keeps up.
A step is about requests and commands that its caller may use.
-/

namespace FabricHost.Channel

variable {W Q : Type} [QueuePairs W Q] [Clock W]

/-- One thing done with a channel in its world, for the caller's own requests and by the commands it sends. -/
inductive Step (own : RequestId → Prop) (sends : Command → Prop) : Channel Q × W → Channel Q × W → Prop where
  | now (channel : Channel Q) (world : W) : Step own sends (channel, world) (channel, (Clock.now world).2)
  | submit (channel : Channel Q) (world : W) {request : RequestId} {command : Command} (hown : own request)
      (hsends : sends command) : Step own sends (channel, world) (channel.submit request command world).2
  | submitDetached (channel : Channel Q) (world : W) {command : Command} (hsends : sends command) :
      Step own sends (channel, world) (channel.submitDetached command world).2
  | reap (channel : Channel Q) (world : W) : Step own sends (channel, world) (channel.reap world).2
  | take (channel : Channel Q) (world : W) {request : RequestId} (hown : own request) :
      Step own sends (channel, world) ((channel.take request).2, world)
  | abandon (channel : Channel Q) (world : W) {request : RequestId} (hown : own request) :
      Step own sends (channel, world) ((channel.abandon request).2, world)

/-- Any number of steps. -/
abbrev Steps (own : RequestId → Prop) (sends : Command → Prop) : Channel Q × W → Channel Q × W → Prop :=
  Relation.ReflTransGen (Step own sends)

lemma Step.mono {own : RequestId → Prop} {sends sends' : Command → Prop} {before after : Channel Q × W}
    (h : Step own sends before after) (hsends : ∀ command, sends command → sends' command) :
    Step own sends' before after := by
  cases h with
  | now => exact .now _ _
  | submit _ _ hown h => exact .submit _ _ hown (hsends _ h)
  | submitDetached _ _ h => exact .submitDetached _ _ (hsends _ h)
  | reap => exact .reap _ _
  | take _ _ hown => exact .take _ _ hown
  | abandon _ _ hown => exact .abandon _ _ hown

variable {own : RequestId → Prop} {sends : Command → Prop} (channel : Channel Q) (world : W)

/-- Draining only reaps. -/
lemma drain_reaps (limit : Nat) :
    Steps (fun _ => False) (fun _ => False) (channel, world) (channel.drain limit world) := by
  induction limit generalizing channel world with
  | zero => exact .refl
  | succ limit ih =>
    have hreap : Step (fun _ => False) (fun _ => False) (channel, world) (channel.reap world).2 := .reap channel world
    unfold drain
    split
    · exact .refl
    · split
      · rename_i heq
        rw [heq] at hreap
        exact .single hreap
      · rename_i heq
        rw [heq] at hreap
        exact .head hreap (ih _ _)

variable {request : RequestId} {command : Command}

lemma submitBy_steps (hown : own request) (hsends : sends command) (deadline : Tick) (budget : Nat) :
    Steps own sends (channel, world) (submitBy deadline request command budget channel world).2 := by
  induction budget generalizing channel world with
  | zero => exact .refl
  | succ budget ih =>
    have hsubmit : Steps own sends (channel, world) (channel.submit request command world).2 :=
      .single (.submit channel world hown hsends)
    unfold submitBy
    split
    · rename_i heq
      rwa [heq] at hsubmit
    · rename_i heq
      rwa [heq] at hsubmit
    · rename_i channel' world' heq
      rw [heq] at hsubmit
      have hnow := hsubmit.tail (.now channel' world')
      have hreap := hnow.tail (.reap channel' (Clock.now world').2)
      simp only
      split
      · exact hnow
      · split
        · rename_i heq'
          rwa [heq'] at hreap
        · rename_i heq'
          rw [heq'] at hreap
          exact hreap.trans (ih _ _)

lemma giveUp_step (hown : own request) (error : HostError) :
    Step own sends (channel, world) (channel.giveUp request world error).2 := .abandon channel world hown

lemma awaitBy_steps (hown : own request) (deadline : Tick) (budget : Nat) :
    Steps own sends (channel, world) (awaitBy deadline request budget channel world).2 := by
  induction budget generalizing channel world with
  | zero => exact .single (channel.giveUp_step world hown _)
  | succ budget ih =>
    have hreap : Steps own sends (channel, world) (channel.reap world).2 := .single (.reap channel world)
    unfold awaitBy
    split
    · rename_i channel' world' heq
      rw [heq] at hreap
      exact hreap.tail (channel'.giveUp_step world' hown _)
    · rename_i channel' world' heq
      rw [heq] at hreap
      have htake := hreap.tail (.take channel' world' hown)
      split
      · rename_i heq'
        rwa [heq'] at htake
      · rename_i channel'' heq'
        rw [heq'] at htake
        have hnow := htake.tail (.now channel'' world')
        simp only
        split
        · exact hnow.tail (channel''.giveUp_step _ hown _)
        · exact hnow.trans (ih _ _)

lemma execute_steps (hown : own request) (hsends : sends command) (budget : Nat) (deadline : Tick) :
    Steps own sends (channel, world) (channel.execute budget deadline request command world).2 := by
  have hsubmit := channel.submitBy_steps world hown hsends deadline budget
  unfold execute
  split
  · rename_i heq
    rwa [heq] at hsubmit
  · rename_i heq
    rw [heq] at hsubmit
    exact hsubmit.trans (awaitBy_steps _ _ hown deadline budget)

end FabricHost.Channel
