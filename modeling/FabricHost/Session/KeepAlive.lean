import FabricHost.Clock

/-!
# Keep-alive timers

A session sends a keep-alive when its deadline has passed. The next deadline counts from the keep-alive that was sent;
one that could not be sent leaves the deadline where it is.
-/

namespace FabricHost

/-- When a session's next keep-alive is due. -/
structure KeepAliveTimer where
  interval : Tick
  deadline : Tick
  /-- How often in a row a keep-alive was due and could not be sent. -/
  skips : UInt32 := 0
deriving DecidableEq, Repr

namespace KeepAliveTimer

def start (now interval : Tick) : KeepAliveTimer := { interval, deadline := Tick.after now interval }

def isDue (timer : KeepAliveTimer) (now : Tick) : Bool := timer.deadline ≤ now

/-- The timer after a keep-alive was sent. -/
def sent (timer : KeepAliveTimer) (now : Tick) : KeepAliveTimer :=
  { timer with deadline := Tick.after now timer.interval, skips := 0 }

/-- The timer after a keep-alive could not be sent. -/
def skipped (timer : KeepAliveTimer) : KeepAliveTimer := { timer with skips := timer.skips + 1 }

end KeepAliveTimer

end FabricHost
