/-! Special commands: the values below the throttle range and what they ask of a controller. -/

namespace MotorLink

/-- A named request to the controller, sent in place of a throttle value. -/
inductive Command where
  | motorStop
  | beep (count : Nat)
  | controllerInfo
  | firstDirection
  | secondDirection
  | reversibleThrottle (enabled : Bool)
  | saveSettings
  | extendedTelemetry (enabled : Bool)
  | reverse (reversed : Bool)
  | led (id : Nat) (enabled : Bool)
deriving DecidableEq, Repr

/-- Why a command has no code. -/
inductive CommandError where
  | beepCount (count : Nat)
  | ledId (id : Nat)
deriving DecidableEq, Repr

namespace CommandError

/-- The wording of a refused command. -/
def message : CommandError → String
  | .beepCount count => s!"beep count {count} outside 1-5"
  | .ledId id => s!"LED id {id} outside 0-3"

end CommandError

namespace Command

/-- The greatest value that is a special command. -/
def maxCode : Nat := 47

/-- The value that sends a command, if its parameters are in range. -/
def code : Command → Except CommandError Nat
  | .motorStop => .ok 0
  | .beep count => if 1 ≤ count ∧ count ≤ 5 then .ok count else .error (.beepCount count)
  | .controllerInfo => .ok 6
  | .firstDirection => .ok 7
  | .secondDirection => .ok 8
  | .reversibleThrottle enabled => .ok (if enabled then 10 else 9)
  | .saveSettings => .ok 12
  | .extendedTelemetry enabled => .ok (if enabled then 13 else 14)
  | .reverse reversed => .ok (if reversed then 21 else 20)
  | .led id enabled =>
    if id ≤ 3 then .ok ((if enabled then 22 else 26) + id) else .error (.ledId id)

end Command

end MotorLink
