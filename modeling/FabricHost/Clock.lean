/-!
# Ticks

Deadlines are measured in ticks of one millisecond, read from a clock. Sums of ticks stop at the largest tick.
-/

namespace FabricHost

/-- A point in time or a span of it, in milliseconds. -/
abbrev Tick := UInt64

namespace Tick

def last : Tick := UInt64.ofNat (UInt64.size - 1)

/-- The tick that comes `span` after `t`, or the largest one where there is none. -/
def after (t span : Tick) : Tick := UInt64.ofNat (min (t.toNat + span.toNat) (UInt64.size - 1))

theorem toNat_after (t span : Tick) : (after t span).toNat = min (t.toNat + span.toNat) (UInt64.size - 1) := by
  have hsize : UInt64.size = 18446744073709551616 := rfl
  simp only [after, UInt64.toNat_ofNat']
  omega

end Tick

/-- A world in which the time can be read. Reading it may move it on. -/
class Clock (W : Type) where
  now : W → Tick × W

/-- Ticks that are moved by hand, and by `step` on every reading. They wrap around. -/
structure ManualClock where
  current : Tick := 0
  step : Tick := 0
deriving DecidableEq, Repr

namespace ManualClock

def read (clock : ManualClock) : Tick × ManualClock :=
  (clock.current, { clock with current := clock.current + clock.step })

def set (clock : ManualClock) (tick : Tick) : ManualClock := { clock with current := tick }

def advance (clock : ManualClock) (span : Tick) : ManualClock := { clock with current := clock.current + span }

instance : Clock ManualClock := ⟨read⟩

end ManualClock

end FabricHost
