import MotorLink.Link.Session

/-! Calls on a link, as values, and what each of them answers. -/

namespace MotorLink

/-- Something that the owner of a link asks of it. -/
inductive Call where
  | start
  | stop
  | arm (on : Bool)
  | write (throttle : Single)
  | special (code : Nat)
  | command (command : Command)
  | direction (reversed : Bool)
  | setRate (rateHz : UInt16)
  | setPolePairs (polePairs : UInt8)
  | read
  | discard
deriving DecidableEq, Repr

/-- What a call answers. -/
inductive Answer where
  | done
  | started (result : Except LinkError Unit)
  | sent (wentOut : Bool)
  | telemetry (latest : Option Telemetry)

namespace Session

variable {σ : Type}

/-- Carries out one call at a time of the clock. -/
def perform (engine : Engine σ) (now : Nat) (request : Call) (s : Session σ) : Answer × Session σ :=
  match request with
  | .start => let (result, s) := s.start engine now; (.started result, s)
  | .stop => (.done, s.stop engine now)
  | .arm true => (.done, s.arm)
  | .arm false => (.done, s.disarm engine now)
  | .write throttle => let (sent, s) := s.write engine now throttle; (.sent sent, s)
  | .special code => let (sent, s) := s.sendSpecial engine now code; (.sent sent, s)
  | .command command => let (sent, s) := s.sendCommand engine now command; (.sent sent, s)
  | .direction reversed =>
    let (sent, s) := s.sendCommand engine now (.reverse reversed); (.sent sent, s)
  | .setRate rateHz => (.done, { s with link := s.link.setRate rateHz })
  | .setPolePairs polePairs => (.done, { s with link := s.link.setPolePairs polePairs })
  | .read =>
    let (telemetry, link) := s.link.read
    (.telemetry telemetry, { s with link })
  | .discard => (.done, s.discard engine now)

end Session

end MotorLink
