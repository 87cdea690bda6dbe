import FabricHost.Host.Connect
import FabricHost.Host.Io
import Mathlib.Tactic.Lemma

/-!
# Calls of a host

Everything that a host can be asked, in one place, and runs of it. Between two calls the world may change in any way.
Traffic is what is asked of connected sessions once they are connected; it moves commands and leaves to every session
what it owns.
-/

namespace FabricHost

/-- What is asked of a host. -/
inductive HostCall where
  | connect (command : ConnectCommand) (defaults : HostDefaults)
  | connectAttempt (attempt : Attempt) (defaults : HostDefaults)
  | disconnect (key : SessionKey)
  | disconnectAll
  | reset (key : SessionKey)
  | reestablish (key : SessionKey)
  | read (key : SessionKey) (range : BlockRange) (buffer : Bytes)
  | write (key : SessionKey) (range : BlockRange) (data : Bytes)
  | submitRead (key : SessionKey) (range : BlockRange)
  | submitWrite (key : SessionKey) (range : BlockRange) (data : Bytes)
  | poll (handle : RequestHandle)
  | abandon (handle : RequestHandle)
  | identify (key : SessionKey) (nsid : UInt32)
  | tick
  | tickAt (now : Tick)

namespace HostCall

/-- Whether the call makes a session. -/
def connects : HostCall → Bool
  | connect .. => true
  | connectAttempt .. => true
  | _ => false

/-- Whether the call only moves commands. -/
def isTraffic : HostCall → Bool
  | connect .. => false
  | connectAttempt .. => false
  | disconnect _ => false
  | disconnectAll => false
  | reset _ => false
  | reestablish _ => false
  | _ => true

end HostCall

/-- What a host answers. -/
inductive HostAnswer where
  | connected (result : Except HostError SessionKey)
  | done (result : Except HostError Unit)
  | ended (count : Nat)
  | data (result : Except HostError Bytes)
  | submitted (result : Except HostError RequestHandle)
  | polled (result : Except HostError (Option IoResult))
  | identified (result : Except HostError IdentifyResult)
  | passed (report : KeepAliveReport)

/-- The error of a call that failed. -/
def HostAnswer.error? : HostAnswer → Option HostError
  | connected (.error error) => some error
  | done (.error error) => some error
  | data (.error error) => some error
  | submitted (.error error) => some error
  | polled (.error error) => some error
  | identified (.error error) => some error
  | _ => none

/-- An answer tells the error that its result has. -/
lemma HostAnswer.error?_eq_some_iff {α : Type} (answer : Except HostError α → HostAnswer)
    (hfailed : ∀ error, (answer (.error error)).error? = some error) (hdone : ∀ value, (answer (.ok value)).error? = none)
    {result : Except HostError α} {error : HostError} : (answer result).error? = some error ↔ result = .error error := by
  cases result with
  | error other => rw [hfailed, Option.some.injEq, Except.error.injEq]
  | ok value => simp [hdone]

namespace Host

variable {W C Q : Type} [Fabric W C Q] [Clock W]

def perform (host : Host C Q) (call : HostCall) (world : W) : HostAnswer × Host C Q × W :=
  match call with
  | .connect command defaults => (host.connect command defaults world).map .connected id
  | .connectAttempt attempt defaults => (host.connectAttempt attempt defaults world).map .connected id
  | .disconnect key => (host.disconnect key world).map .done id
  | .disconnectAll => (host.disconnectAll world).map .ended id
  | .reset key => (host.reset key world).map .done id
  | .reestablish key => (host.reestablish key world).map .done id
  | .read key range buffer => (host.read key range buffer world).map .data id
  | .write key range data => (host.write key range data world).map .done id
  | .submitRead key range => (host.submitRead key range world).map .submitted id
  | .submitWrite key range data => (host.submitWrite key range data world).map .submitted id
  | .poll handle => (host.poll handle world).map .polled id
  | .abandon handle => (.done (host.abandon handle).1, (host.abandon handle).2, world)
  | .identify key nsid => (host.identify key nsid world).map .identified id
  | .tick => (host.tick world).map .passed id
  | .tickAt now => (host.tickAt now world).map .passed id

/-- Makes calls one after the other. Each comes with what happens to the world before it. -/
def run (host : Host C Q) (world : W) : List (HostCall × (W → W)) → List (HostCall × HostAnswer) × Host C Q × W
  | [] => ([], host, world)
  | (call, drift) :: rest =>
    let (answer, host, world) := host.perform call (drift world)
    let (answers, host, world) := host.run world rest
    ((call, answer) :: answers, host, world)

/-- What every call keeps up, a run keeps up. -/
lemma run_induction (Holds : List (HostCall × HostAnswer) → Host C Q → W → Prop)
    (hcall : ∀ log host world call, Holds log host world →
      Holds (log ++ [(call, (host.perform call world).1)]) (host.perform call world).2.1
        (host.perform call world).2.2)
    (calls : List (HostCall × (W → W)))
    (hdrift : ∀ call ∈ calls, ∀ log host world, Holds log host world → Holds log host (call.2 world))
    {log : List (HostCall × HostAnswer)} {host : Host C Q} {world : W} (h : Holds log host world) :
    Holds (log ++ (host.run world calls).1) (host.run world calls).2.1 (host.run world calls).2.2 := by
  induction calls generalizing log host world with
  | nil =>
    rw [run, List.append_nil]
    exact h
  | cons call rest ih =>
    have hfirst := hcall log host _ call.1 (hdrift call List.mem_cons_self log host world h)
    have hrest := ih (fun other hother => hdrift other (List.mem_cons_of_mem _ hother)) hfirst
    rwa [List.append_assoc] at hrest

end Host

end FabricHost
