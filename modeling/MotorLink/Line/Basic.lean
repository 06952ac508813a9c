import MotorLink.Line.Timing

/-! The line between a link and its controller, as an engine is told to drive it. -/

namespace MotorLink

/-- The level of a line that nobody drives. -/
inductive IdleLevel where
  | low
  | high
deriving DecidableEq, Repr

/-- Everything that an engine needs to know of a line. -/
structure Line where
  clockHz : Nat
  idleLevel : IdleLevel
  openDrain : Bool
  receiveFilterTicks : Nat
  receiveIdleTicks : Nat
  timing : BitTiming
deriving DecidableEq, Repr

namespace Line

/-- The line of a clock; one that carries replies is driven open drain. -/
def forClock (clockHz : Nat) (bidirectional : Bool) : Line :=
  -- Shorter runs than the filter are glitches, a run of the idle threshold ends a capture.
  ⟨clockHz, .low, bidirectional, 10, 200, .forClock clockHz⟩

/-- The microseconds that a frame takes on the line. -/
def frameDuration (line : Line) : Nat := line.timing.frameDuration line.clockHz

end Line

end MotorLink
