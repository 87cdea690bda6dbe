/-!
# The life of a session

A session is connected, lives, may lose its I/O queue to a controller reset and get a new one, and ends for good.
-/

namespace FabricHost

/-- Where a session is in its life. -/
inductive Lifecycle where
  /-- The handshake is under way. -/
  | connecting
  /-- Both queues can be used. -/
  | live
  /-- The controller was reset, and the I/O queue is gone. -/
  | queuesNeedReinit
  /-- The session has ended. -/
  | closed
deriving DecidableEq, Repr

inductive LifecycleEvent where
  | handshakeComplete
  | controllerReset
  | queuesReestablished
  | disconnect
deriving DecidableEq, Repr

namespace Lifecycle

/-- Whether reads and writes may be submitted. -/
def acceptsIo : Lifecycle → Bool
  | live => true
  | _ => false

/-- Whether identify and keep-alive may be submitted. -/
def acceptsAdmin : Lifecycle → Bool
  | live => true
  | queuesNeedReinit => true
  | _ => false

/-- The next state, if the event can happen in this one. A second reset before the queue is back changes nothing. -/
def next? : Lifecycle → LifecycleEvent → Option Lifecycle
  | connecting, .handshakeComplete => some live
  | live, .controllerReset => some queuesNeedReinit
  | queuesNeedReinit, .controllerReset => some queuesNeedReinit
  | queuesNeedReinit, .queuesReestablished => some live
  | closed, .disconnect => none
  | _, .disconnect => some closed
  | _, _ => none

/-- The state after an event. An event that cannot happen is ignored. -/
def after (state : Lifecycle) (event : LifecycleEvent) : Lifecycle := (state.next? event).getD state

end Lifecycle

end FabricHost
