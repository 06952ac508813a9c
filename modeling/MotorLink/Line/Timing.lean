import MotorLink.Frame.Basic
import MotorLink.Line.Bits

/-! Bit timing: how long each part of a bit lasts in clock ticks, and frames as timed pulses. -/

namespace MotorLink

/-- One bit on the line: ticks high, then ticks low. -/
structure Pulse where
  high : Nat
  low : Nat
deriving DecidableEq, Repr

/-- Durations in ticks of the line's clock. -/
structure BitTiming where
  bitTicks : Nat
  oneHigh : Nat
  zeroHigh : Nat
  replyBitTicks : Nat
deriving DecidableEq, Repr

namespace BitTiming

/-- The bits that a line carries in a second. -/
def bitRate : Nat := 600000

/-- The timing for a clock: a bit is the nearest whole number of ticks, between 2 and 65535. -/
def forClock (clockHz : Nat) : BitTiming :=
  -- A one is high for three quarters of a bit, a zero for three eighths, a reply is a fifth faster.
  let bit := max 2 (min ((clockHz + bitRate / 2) / bitRate) 65535)
  ⟨bit, bit * 3 / 4, bit * 3 / 8, bit * 4 / 5⟩

/-- The low part of a one. -/
def oneLow (timing : BitTiming) : Nat := timing.bitTicks - timing.oneHigh

/-- The low part of a zero. -/
def zeroLow (timing : BitTiming) : Nat := timing.bitTicks - timing.zeroHigh

/-- The pulse that sends one bit. -/
def pulse (timing : BitTiming) (bit : Bool) : Pulse :=
  if bit then ⟨timing.oneHigh, timing.oneLow⟩ else ⟨timing.zeroHigh, timing.zeroLow⟩

/-- The pulses that send a frame. -/
def pulses (timing : BitTiming) (frame : Frame) : List Pulse :=
  (Bits.ofWord frame).map timing.pulse

/-- The microseconds that a frame takes, rounded up and kept in 32 bits. -/
def frameDuration (timing : BitTiming) (clockHz : Nat) : Nat :=
  -- A stopped clock is taken for one tick per second.
  let clock := max clockHz 1
  (timing.bitTicks * Frame.bitCount * 1000000 + clock - 1) / clock % UInt32.size

end BitTiming

/-- A pulse is a one when it is high for more than half of its length. -/
def Pulse.bit (pulse : Pulse) : Bool := decide (pulse.high + pulse.low < pulse.high * 2)

/-- The frame that pulses send, if there are as many as a frame has bits. -/
def Frame.ofPulses? (pulses : List Pulse) : Option Frame :=
  if pulses.length = Frame.bitCount then some (Bits.toWord 16 (pulses.map Pulse.bit)) else none

end MotorLink
