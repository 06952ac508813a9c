import MotorLink.Engine.Simulator
import MotorLink.Proofs.Frame.Basic
import MotorLink.Proofs.Reply.Period

/-! What each call does to the simulated controller, and that every reply is of a known quantity. -/

namespace MotorLink

namespace Payload

/-- The type of extended telemetry stands above its byte, without its low bit. -/
theorem extractLsb'_ofExtended (type value : Nat) :
    (ofExtended type value).extractLsb' 8 4 = BitVec.ofNat 4 type &&& 0xE :=
  BitVec.extractLsb'_append_eq_left

/-- The payload of extended telemetry is marked as such by its ninth bit. -/
theorem getLsbD_ofExtended (type value : Nat) : (ofExtended type value).getLsbD 8 = false := by
  -- The ninth bit is the low bit of the type, which is not sent.
  have low := congrArg (BitVec.getLsbD · 0) (extractLsb'_ofExtended type value)
  simpa [BitVec.getLsbD_extractLsb', BitVec.getLsbD_and] using low

end Payload

namespace Simulator

/-- Every motor period that the controller reports is marked as one. -/
theorem getLsbD_periodPayload (sim : Simulator) : sim.periodPayload.getLsbD 8 = true := by
  -- The longest period, which stands for rest, is marked like every other one.
  unfold periodPayload
  dsimp only
  split
  · rfl
  · generalize Reading.erpmNumerator / sim.share maxErpm (UInt32.size - 1) = period
    cases found : Payload.ofPeriod? period with
    | none => rfl
    | some payload => exact Payload.getLsbD_ofPeriod? found

/-- The kind of reading that a reply with a quantity is, where none stands for the motor period. -/
def kindOf : Option ExtendedType → ReadingKind
  | none => .erpm
  | some .temperature => .temperature
  | some .voltage => .voltage
  | some .current => .current

/-- Each quantity that the controller replies with reads as its own kind. -/
theorem kind_classify_payload_eq (sim : Simulator) (quantity : Option ExtendedType)
    (checksum : Nat) :
    (Reading.classify (sim.payload quantity) checksum).kind = kindOf quantity := by
  -- Readings go by the ninth bit first, and below it by the type of extended telemetry.
  cases quantity with
  | none => simp [payload, Reading.classify, getLsbD_periodPayload, kindOf]
  | some quantity =>
    have typed (code value : Nat) :
        (Reading.classify (Payload.ofExtended code value) checksum).kind =
          .ofType (BitVec.ofNat 4 code &&& 0xE).toNat := by
      rw [Reading.classify, Payload.getLsbD_ofExtended, Payload.extractLsb'_ofExtended]
      rfl
    -- The three types have no low bit to lose.
    cases quantity <;> simp only [payload, typed] <;> rfl

/-- Each quantity that the controller replies with is one that readings have a name for. -/
theorem kind_classify_payload (sim : Simulator) (quantity : Option ExtendedType)
    (checksum type : Nat) :
    (Reading.classify (sim.payload quantity) checksum).kind ≠ .other type := by
  rw [kind_classify_payload_eq]
  -- A motor period is one kind, and each extended type has its own.
  cases quantity with
  | none => exact ReadingKind.noConfusion
  | some quantity => cases quantity <;> exact ReadingKind.noConfusion

variable (sim : Simulator)

/-- What the controller reports at a place in its cycle of replies. -/
def reportAt (place : Nat) : BitVec 12 := { sim with replyIndex := place }.nextPayload

/-- The report at a place depends on nothing but the throttle. -/
theorem reportAt_congr {first second : Simulator}
    (throttle : first.throttleCode = second.throttleCode) (place : Nat) :
    first.reportAt place = second.reportAt place := by
  unfold reportAt nextPayload payload periodPayload share throttleFraction
  rw [throttle]

/-- Every report is of a quantity that readings have a name for. -/
theorem kind_classify_reportAt (place checksum type : Nat) :
    (Reading.classify (sim.reportAt place) checksum).kind ≠ .other type :=
  kind_classify_payload _ _ _ _

/-- The throttle that a frame leaves: its own value, unless that is a special command. -/
def throttleAfter (code : Nat) (value : BitVec 11) : Nat :=
  if ThrottleScale.leastCode ≤ value.toNat ∨ value.toNat = 0 then value.toNat else code

@[simp] theorem channels_accept (line : Line) (frame : Frame) :
    (sim.accept line frame).channels = sim.channels := by
  unfold accept
  split <;> rfl

/-- A frame that is taken in counts. -/
@[simp] theorem framesReceived_accept (line : Line) (frame : Frame) :
    (sim.accept line frame).framesReceived = sim.framesReceived + 1 := by
  unfold accept
  split <;> rfl

/-- A frame that is taken in is no checksum error. -/
@[simp] theorem checksumErrors_accept (line : Line) (frame : Frame) :
    (sim.accept line frame).checksumErrors = sim.checksumErrors := by
  unfold accept
  split <;> rfl

/-- A frame that is taken in may set the throttle. -/
@[simp] theorem throttleCode_accept (line : Line) (frame : Frame) :
    (sim.accept line frame).throttleCode = throttleAfter sim.throttleCode frame.value := by
  unfold accept
  split <;> rfl

/-- A frame that is taken in leaves the window as it is. -/
@[simp] theorem windowOpen_accept (line : Line) (frame : Frame) :
    (sim.accept line frame).windowOpen = sim.windowOpen := by
  unfold accept
  split <;> rfl

/-- Only a request moves the controller on in its cycle of replies. -/
@[simp] theorem replyIndex_accept (line : Line) (frame : Frame) :
    (sim.accept line frame).replyIndex = sim.replyIndex + frame.requestsTelemetry.toNat := by
  unfold accept
  cases frame.requestsTelemetry <;> rfl

/-- A frame that asks for nothing leaves the pending reply as it is. -/
theorem pendingReply_accept_of_unasked (line : Line) {frame : Frame}
    (unasked : frame.requestsTelemetry = false) :
    (sim.accept line frame).pendingReply = sim.pendingReply := by
  simp [accept, unasked]

/-- The reply to a request reports at the throttle that the request leaves. -/
theorem pendingReply_accept (line : Line) {frame : Frame}
    (request : frame.requestsTelemetry = true) :
    (sim.accept line frame).pendingReply = some (LineCode.captureReply
      (Checked.ofPayload ((sim.accept line frame).reportAt sim.replyIndex))
      line.timing.replyBitTicks) := by
  -- The reply is made up before it is counted, when only the throttle has changed.
  let heard : Simulator := { sim with throttleCode := throttleAfter sim.throttleCode frame.value }
  have report : (sim.accept line frame).reportAt sim.replyIndex = heard.reportAt sim.replyIndex :=
    reportAt_congr (by simp [heard]) _
  rw [report, accept, if_pos request]
  rfl

/-- A channel whose set-up is undone is not found any more, and the others are as before. -/
theorem setup?_deconfigure (channel other : Nat) :
    (sim.deconfigure channel).setup? other =
      if other = channel then none else sim.setup? other := by
  simp only [setup?, deconfigure]
  -- An entry that is left out is one of the channel that is not looked for.
  induction sim.channels with
  | nil => simp
  | cons entry rest ih =>
    obtain ⟨key, setup⟩ := entry
    grind

/-- A channel that was set up is found as it was set up, and the others as before. -/
theorem setup?_configure (channel other : Nat) (setup : ChannelSetup) :
    (sim.configure channel setup).setup? other =
      if other = channel then some setup else sim.setup? other := by
  -- The new entry comes first, and the old ones of the channel are gone.
  have others := sim.setup?_deconfigure channel other
  simp only [setup?, configure, List.lookup_cons] at others ⊢
  by_cases same : other = channel
  · simp [same]
  · have differ : (other == channel) = false := by simpa using same
    simpa [differ, same] using others

/-- A running clock is enough to set a channel up to transmit. -/
theorem configureTransmit_eq (channel : Nat) {line : Line} (running : line.clockHz ≠ 0) :
    sim.configureTransmit channel line = (.ok (), sim.configure channel ⟨false, line⟩) :=
  if_neg running

/-- An open-drain line is enough to set a channel up to receive. -/
theorem configureReceive_eq (channel : Nat) {line : Line} (openDrain : line.openDrain = true) :
    sim.configureReceive channel line = (.ok (), sim.configure channel ⟨true, line⟩) :=
  if_pos openDrain

/-- A legible valid frame is taken in by a channel that was set up to transmit. -/
theorem transmit_eq {channel : Nat} {line : Line} {pulses : List Pulse} {frame : Frame}
    (setup : sim.setup? channel = some ⟨false, line⟩)
    (legible : Frame.ofPulses? pulses = some frame)
    (valid : Checked.isValid frame = true) :
    sim.transmit channel pulses = (.ok (), sim.accept line frame) := by
  simp [transmit, setup, legible, valid]

/-- A legible frame with a wrong checksum is only counted. -/
theorem transmit_eq_of_invalid {channel : Nat} {line : Line} {pulses : List Pulse} {frame : Frame}
    (setup : sim.setup? channel = some ⟨false, line⟩)
    (legible : Frame.ofPulses? pulses = some frame)
    (invalid : Checked.isValid frame = false) :
    sim.transmit channel pulses = (.ok (), { sim with checksumErrors := sim.checksumErrors + 1 }) := by
  simp [transmit, setup, legible, invalid]

/-- A channel that was set up to receive opens the window. -/
theorem openWindow_eq {channel : Nat} {line : Line}
    (setup : sim.setup? channel = some ⟨true, line⟩) :
    sim.openWindow channel = (.ok (), { sim with windowOpen := true }) := by
  simp [openWindow, setup]

end Simulator

end MotorLink
