import MotorLink.Engine.Hardware
import MotorLink.Link.Telemetry
import MotorLink.Throttle

/-! Links: the state that one motor is driven from. -/

namespace MotorLink

/-- Whether a motor may turn, and whether its throttle counts as zero. -/
inductive LinkState where
  | disarmed
  | armedZero
  | armedActive
deriving DecidableEq, Repr

namespace LinkState

/-- A throttle from here on leaves the zero state. -/
def zeroExit : Single := .ofRatio false 4 100

/-- A throttle down to here returns to the zero state. -/
def zeroEnter : Single := .ofRatio false 2 100

/-- Whether frames may be sent. -/
def isArmed : LinkState → Bool
  | .disarmed => false
  | .armedZero | .armedActive => true

/-- The state after a throttle; between the two thresholds it stays. -/
def afterThrottle (state : LinkState) (throttle : Single) : LinkState :=
  match state with
  | .armedZero => if zeroExit.le throttle then .armedActive else .armedZero
  | .armedActive => if throttle.le zeroEnter then .armedZero else .armedActive
  | .disarmed => .disarmed

end LinkState

/-- What a kind of driver can do. -/
structure Capabilities where
  bidirectionalTelemetry : Bool
  needsCalibration : Bool
  maxRateHz : Nat
deriving DecidableEq, Repr

/-- The driver of one motor. -/
structure Link where
  settings : LinkSettings
  scale : ThrottleScale
  line : Line
  transmitter : Lease
  receiver : Lease
  state : LinkState
  initialized : Bool
  period : Nat
  nextDue : Nat
  requestCount : Nat
  polePairs : UInt8
  cache : TelemetryCache
deriving DecidableEq, Repr

namespace Link

/-- The shortest time between commands in microseconds. -/
def minPeriod : Nat := 100

/-- The time between commands in microseconds when no rate is given. -/
def defaultPeriod : Nat := 500

/-- The pole pairs of a motor when none are given. -/
def defaultPolePairs : UInt8 := 7

/-- The time between commands in microseconds for a rate; a rate of zero gives none. -/
def periodForRate? (rateHz : UInt16) : Option Nat :=
  if rateHz = 0 then none else some (max (1000000 / rateHz.toNat) minPeriod)

/-- A number of pole pairs, where zero stands for the default. -/
def effectivePolePairs (polePairs : UInt8) : UInt8 :=
  if polePairs = 0 then defaultPolePairs else polePairs

/-- A link that holds no channels yet. -/
def ofSettings (settings : LinkSettings) : Link where
  settings
  scale := .ofIdlePercent settings.idlePercent
  line := .forClock settings.clockHz.toNat settings.bidirectional
  transmitter := .empty
  receiver := .empty
  state := .disarmed
  initialized := false
  period := (periodForRate? settings.updateRateHz).getD defaultPeriod
  nextDue := 0
  requestCount := 0
  polePairs := effectivePolePairs settings.polePairs
  cache := .empty

/-- What the link can do. -/
def capabilities (link : Link) : Capabilities := ⟨link.settings.bidirectional, false, 4000⟩

/-- Whether commands are sent at all. -/
def isReady (link : Link) : Bool := link.initialized && link.state.isArmed

/-- Sets the rate of commands; a rate of zero changes nothing. -/
def setRate (link : Link) (rateHz : UInt16) : Link :=
  { link with period := (periodForRate? rateHz).getD link.period }

/-- Sets the pole pairs of the motor. -/
def setPolePairs (link : Link) (polePairs : UInt8) : Link :=
  { link with polePairs := effectivePolePairs polePairs }

/-- Hands out new telemetry once. -/
def read (link : Link) : Option Telemetry × Link :=
  let (telemetry, cache) := link.cache.take
  (telemetry, { link with cache })

/-- The link after a frame that restarts the wait for the next one. -/
def restartGate (link : Link) (now : Nat) : Link := { link with nextDue := now + link.period }

/-- The link after the wait is over, or nothing while it lasts. -/
def passGate? (link : Link) (now : Nat) : Option Link :=
  if now < link.nextDue then none else some (link.restartGate now)

/-- Counts a throttle frame, and tells whether it is one that asks for telemetry. -/
def countRequest (link : Link) : Bool × Link :=
  -- The count is kept in eight bits, which the divisor fits in.
  let count := min (link.requestCount + 1) 255
  let request := decide (link.settings.requestDivisor.toNat ≤ count)
  (request, { link with requestCount := if request then 0 else count })

/-- The value that is sent at rest. -/
def idleValue (link : Link) : BitVec 11 := BitVec.ofNat 11 link.settings.idleCode.toNat

/-- The value that a throttle is sent as in the present state. -/
def throttleValue (link : Link) (throttle : Single) : BitVec 11 :=
  match link.state with
  | .armedActive => BitVec.ofNat 11 (link.scale.encode throttle)
  | .armedZero | .disarmed => link.idleValue

end Link

end MotorLink
