import MotorLink.Error
import MotorLink.Link.Basic

/-! Sessions: a link at work on its hardware, from taking channels to giving them back. -/

namespace MotorLink

/-- A link and the hardware that it works with. -/
structure Session (σ : Type) where
  link : Link
  hardware : Hardware σ

namespace Session

variable {σ : Type}

/-- Takes a channel for the transmitter. -/
def acquireTransmitter (s : Session σ) : Session σ :=
  let (transmitter, hardware) := s.hardware.acquire s.link.transmitter
  ⟨{ s.link with transmitter }, hardware⟩

/-- Takes a channel for the receiver. -/
def acquireReceiver (s : Session σ) : Session σ :=
  let (receiver, hardware) := s.hardware.acquire s.link.receiver
  ⟨{ s.link with receiver }, hardware⟩

/-- Gives the channel of the transmitter back. -/
def releaseTransmitter (s : Session σ) : Session σ :=
  let (transmitter, hardware) := s.hardware.release s.link.transmitter
  ⟨{ s.link with transmitter }, hardware⟩

/-- Gives the channel of the receiver back. -/
def releaseReceiver (s : Session σ) : Session σ :=
  let (receiver, hardware) := s.hardware.release s.link.receiver
  ⟨{ s.link with receiver }, hardware⟩

/-- Undoes the set-up of a channel. -/
def deconfigure (engine : Engine σ) (s : Session σ) (channel : Channel) : Session σ :=
  { s with hardware := s.hardware.deconfigure engine channel }

/-- Sets up a receive channel beside the transmit channel, or gives the latter up again. -/
def setUpReceiver (engine : Engine σ) (s : Session σ) (transmit : Channel) :
    Except LinkError Unit × Session σ :=
  let s := s.acquireReceiver
  match s.link.receiver.channel with
  | none => (.error .resourceExhausted, (s.deconfigure engine transmit).releaseTransmitter)
  | some receive =>
    let (outcome, hardware) := s.hardware.configureReceive engine receive s.link.line
    let s := { s with hardware }
    match outcome with
    | .ok () => (.ok (), s)
    | .error fault =>
      (.error (.hardwareConfig fault),
        (s.deconfigure engine transmit).releaseTransmitter.releaseReceiver)

/-- Takes and sets up all channels that the link needs, or none of them. -/
def setUpChannels (engine : Engine σ) (s : Session σ) : Except LinkError Unit × Session σ :=
  let s := s.acquireTransmitter
  match s.link.transmitter.channel with
  | none => (.error .resourceExhausted, s)
  | some transmit =>
    let (outcome, hardware) := s.hardware.configureTransmit engine transmit s.link.line
    let s := { s with hardware }
    match outcome with
    | .error fault => (.error (.hardwareConfig fault), s.releaseTransmitter)
    | .ok () => if s.link.settings.bidirectional then s.setUpReceiver engine transmit else (.ok (), s)

/-- Gives back the receive channel, then the transmit channel, each after its set-up is undone. -/
def releaseChannels (engine : Engine σ) (s : Session σ) : Session σ :=
  let s := match s.link.receiver.channel with
    | some channel => (s.deconfigure engine channel).releaseReceiver
    | none => s
  match s.link.transmitter.channel with
  | some channel => (s.deconfigure engine channel).releaseTransmitter
  | none => s

/-- Sends one frame, and tells whether it went out. -/
def transmit (engine : Engine σ) (s : Session σ) (value : BitVec 11) (telemetry : Bool) :
    Bool × Session σ :=
  match s.link.transmitter.channel with
  | none => (false, s)
  | some channel =>
    let pulses := s.link.line.timing.pulses (Frame.ofValue value telemetry)
    let (outcome, hardware) := s.hardware.transmit engine channel pulses
    (outcome.succeeded, { s with hardware })

/-- Sends the value of rest without waiting; the wait for the next frame starts anew. -/
def sendIdle (engine : Engine σ) (now : Nat) (s : Session σ) : Session σ :=
  let link := s.link.restartGate now
  (transmit engine { s with link } link.idleValue false).2

/-- Puts the reading of a capture into the cache, if it holds one. -/
def absorb (s : Session σ) (capture : Capture) : Session σ :=
  match Reading.ofCapture capture s.link.line.timing.replyBitTicks with
  | .error _ => s
  | .ok reading =>
    { s with link.cache := s.link.cache.update s.link.settings s.link.polePairs reading }

/-- Listens for a reply on the receive channel. -/
def collectTelemetry (engine : Engine σ) (s : Session σ) : Session σ :=
  match s.link.receiver.channel with
  | none => s
  | some channel =>
    let (outcome, hardware) := s.hardware.openWindow engine channel
    let s := { s with hardware }
    match outcome with
    | .error _ => s
    | .ok () =>
      let (capture, hardware) := s.hardware.poll engine channel
      let s := { s with hardware }
      let s := match capture with
        | some capture => s.absorb capture
        | none => s
      { s with hardware := s.hardware.closeWindow engine channel }

/-- Starts a session; one that runs already is left alone. -/
def start (engine : Engine σ) (now : Nat) (s : Session σ) : Except LinkError Unit × Session σ :=
  if s.link.initialized then (.ok (), s)
  else
    let (result, s) := s.setUpChannels engine
    match result with
    | .error error => (.error error, s)
    | .ok () =>
      let link := { s.link with
        initialized := true, state := .disarmed, requestCount := 0, nextDue := now }
      (.ok (), { s with link })

/-- Ends a session: the motor is sent to rest and the channels are given back. -/
def stop (engine : Engine σ) (now : Nat) (s : Session σ) : Session σ :=
  if s.link.initialized then
    let s := (s.sendIdle engine now).releaseChannels engine
    let link := { s.link with
      state := .disarmed, initialized := false, nextDue := 0, requestCount := 0, cache := .empty }
    { s with link }
  else s

/-- Allows the motor to turn; one that may turn already is left alone. -/
def arm (s : Session σ) : Session σ :=
  match s.link.state with
  | .disarmed => { s with link.state := .armedZero }
  | .armedZero | .armedActive => s

/-- Forbids the motor to turn and sends it to rest. -/
def disarm (engine : Engine σ) (now : Nat) (s : Session σ) : Session σ :=
  let s := { s with link.state := .disarmed }
  if s.link.initialized then s.sendIdle engine now else s

/-- A throttle between zero and one; what is not a number counts as zero. -/
def limitThrottle (throttle : Single) : Single :=
  if throttle.isNaN then .zero else throttle.clamp .zero (.ofNat 1)

/-- Sets the throttle: a frame goes out unless the last one is too recent. -/
def write (engine : Engine σ) (now : Nat) (throttle : Single) (s : Session σ) : Bool × Session σ :=
  if s.link.isReady then
    let throttle := limitThrottle throttle
    -- The state follows the throttle even when no frame goes out.
    let link := { s.link with state := s.link.state.afterThrottle throttle }
    match link.passGate? now with
    | none => (false, { s with link })
    | some link =>
      let (request, link) := link.countRequest
      let (sent, s) := transmit engine { s with link } (link.throttleValue throttle) request
      (sent, if sent && request then s.collectTelemetry engine else s)
  else (false, s)

/-- Sends a special command by its code, unless the last frame is too recent. -/
def sendSpecial (engine : Engine σ) (now : Nat) (code : Nat) (s : Session σ) : Bool × Session σ :=
  if s.link.isReady then
    match s.link.passGate? now with
    | none => (false, s)
    | some link =>
      transmit engine { s with link } (BitVec.ofNat 11 (ThrottleScale.special code)) false
  else (false, s)

/-- Sends a special command by its name; one with parameters out of range is not sent. -/
def sendCommand (engine : Engine σ) (now : Nat) (command : Command) (s : Session σ) :
    Bool × Session σ :=
  match command.code with
  | .ok code => s.sendSpecial engine now code
  | .error _ => (false, s)

/-- Ends a session for good: whatever channel is still held is given back. -/
def discard (engine : Engine σ) (now : Nat) (s : Session σ) : Session σ :=
  (s.stop engine now).releaseTransmitter.releaseReceiver

end Session

end MotorLink
