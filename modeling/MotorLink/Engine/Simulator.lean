import MotorLink.Engine.Basic
import MotorLink.Reply.LineCode
import MotorLink.Reply.Payload
import MotorLink.Reply.Reading
import MotorLink.Throttle

/-! A simulated controller: it reads frames off the line and answers requests with made-up readings. -/

namespace MotorLink

/-- How a channel of the simulator was set up. -/
structure ChannelSetup where
  receiver : Bool
  line : Line
deriving DecidableEq, Repr

/-- The state of a simulated controller and of the channels that reach it; its counters never wrap. -/
structure Simulator where
  channels : List (Channel × ChannelSetup)
  throttleCode : Nat
  framesReceived : Nat
  checksumErrors : Nat
  replyIndex : Nat
  pendingReply : Option Capture
  windowOpen : Bool
deriving DecidableEq, Repr

namespace Simulator

/-- A controller that was just switched on. -/
def initial : Simulator := ⟨[], 0, 0, 0, 0, none, false⟩

/-- The electrical speed at full throttle. -/
def maxErpm : Nat := 140000

/-- The quantities of successive replies, where none stands for the motor period. -/
def replyCycle : List (Option ExtendedType) :=
  [none, some .temperature, none, some .voltage, none, some .current]

/-- The throttle as a fraction of the whole range. -/
def throttleFraction (sim : Simulator) : Single :=
  if sim.throttleCode < ThrottleScale.leastCode then .zero
  else (Binary.ofNat (sim.throttleCode - ThrottleScale.leastCode)).div
    (.ofNat (ThrottleScale.maxCode - ThrottleScale.leastCode))

/-- A part of a quantity in proportion to the throttle, cut to a whole number. -/
def share (sim : Simulator) (full limit : Nat) : Nat :=
  (sim.throttleFraction.mul (.ofNat full)).floorClipped limit

/-- The payload of the motor period; a motor at rest reports the longest one. -/
def periodPayload (sim : Simulator) : BitVec 12 :=
  let erpm := sim.share maxErpm (UInt32.size - 1)
  if erpm = 0 then 0xFFF else (Payload.ofPeriod? (Reading.erpmNumerator / erpm)).getD 0xFFF

/-- The payload of a quantity: warmth and current rise with the throttle, the voltage sags. -/
def payload (sim : Simulator) : Option ExtendedType → BitVec 12
  | none => sim.periodPayload
  | some .temperature => Payload.ofExtended ExtendedType.temperature.code (30 + sim.share 45 255)
  | some .voltage => Payload.ofExtended ExtendedType.voltage.code (67 - sim.share 8 255)
  | some .current => Payload.ofExtended ExtendedType.current.code (sim.share 40 255)

/-- The payload of the next reply. -/
def nextPayload (sim : Simulator) : BitVec 12 :=
  sim.payload (replyCycle.getD (sim.replyIndex % replyCycle.length) none)

/-- How a channel is set up. -/
def setup? (sim : Simulator) (channel : Channel) : Option ChannelSetup :=
  sim.channels.lookup channel

/-- Forgets the set-up of a channel. -/
def deconfigure (sim : Simulator) (channel : Channel) : Simulator :=
  { sim with channels := sim.channels.filter fun entry => entry.1 != channel }

/-- Sets a channel up in place of what it was before. -/
def configure (sim : Simulator) (channel : Channel) (setup : ChannelSetup) : Simulator :=
  { sim with channels := (channel, setup) :: (sim.deconfigure channel).channels }

/-- Sets a channel up to transmit, which needs a running clock. -/
def configureTransmit (sim : Simulator) (channel : Channel) (line : Line) : Outcome × Simulator :=
  if line.clockHz = 0 then (.error (.rejected "zero peripheral clock"), sim)
  else (.ok (), sim.configure channel ⟨false, line⟩)

/-- Sets a channel up to receive, which needs an open-drain line. -/
def configureReceive (sim : Simulator) (channel : Channel) (line : Line) : Outcome × Simulator :=
  if line.openDrain then (.ok (), sim.configure channel ⟨true, line⟩)
  else (.error (.rejected "receive needs an open-drain line"), sim)

/-- Takes a checked frame in: a throttle is kept, a request for telemetry gets a reply ready. -/
def accept (sim : Simulator) (line : Line) (frame : Frame) : Simulator :=
  let value := frame.value.toNat
  let heard :=
    { sim with
      framesReceived := sim.framesReceived + 1
      throttleCode :=
        if ThrottleScale.leastCode ≤ value ∨ value = 0 then value else sim.throttleCode }
  if frame.requestsTelemetry then
    let reply := LineCode.captureReply (Checked.ofPayload heard.nextPayload) line.timing.replyBitTicks
    { heard with replyIndex := heard.replyIndex + 1, pendingReply := some reply }
  else heard

/-- Reads pulses off a transmit channel; a frame with a wrong checksum is only counted. -/
def transmit (sim : Simulator) (channel : Channel) (pulses : List Pulse) : Outcome × Simulator :=
  match sim.setup? channel with
  | some ⟨false, line⟩ =>
    match Frame.ofPulses? pulses with
    | none =>
      let count := pulses.length
      (.error (.rejected s!"{count} pulses, expected {Frame.bitCount}"), sim)
    | some frame =>
      if frame.isValid then (.ok (), sim.accept line frame)
      else (.ok (), { sim with checksumErrors := sim.checksumErrors + 1 })
  | _ => (.error (.notConfigured channel), sim)

/-- Opens the receive window, which needs a receive channel. -/
def openWindow (sim : Simulator) (channel : Channel) : Outcome × Simulator :=
  match sim.setup? channel with
  | some ⟨true, _⟩ => (.ok (), { sim with windowOpen := true })
  | _ => (.error (.notConfigured channel), sim)

/-- Hands out the pending reply while the receive window is open. -/
def poll (sim : Simulator) (_ : Channel) : Option Capture × Simulator :=
  if sim.windowOpen then (sim.pendingReply, { sim with pendingReply := none }) else (none, sim)

/-- Closes the receive window. -/
def closeWindow (sim : Simulator) (_ : Channel) : Simulator := { sim with windowOpen := false }

/-- The simulated controller as an engine. -/
def engine : Engine Simulator :=
  ⟨configureTransmit, configureReceive, deconfigure, transmit, openWindow, poll, closeWindow⟩

end Simulator

end MotorLink
