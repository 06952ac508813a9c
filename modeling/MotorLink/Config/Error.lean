import MotorLink.Number.Shortest
import MotorLink.Text.Quoted

/-! Why settings are refused: their text, the shape of their data, or their values. -/

namespace MotorLink

/-- A value of a document as an error names it. -/
inductive Unexpected where
  | integer (value : Int)
  | real (value : Double)
  | text (value : String)
  | boolean (value : Bool)
  | sequence
  | map
deriving DecidableEq, Repr

namespace Unexpected

/-- The digits of a real, which always show a point when it is finite. -/
def realText (value : Double) : String :=
  match value.positional? .up with
  | some digits => digits
  | none =>
    if value.isNaN then "NaN" else if value.lt .zero then "-inf" else "inf"

/-- The wording of an unexpected value. -/
def message : Unexpected → String
  | .integer value => s!"integer `{value}`"
  | .real value => s!"floating point `{realText value}`"
  | .text value => "string " ++ Text.quoted value
  | .boolean value => s!"boolean `{value}`"
  | .sequence => "sequence"
  | .map => "map"

end Unexpected

/-- The type of value that a setting takes. -/
inductive Expected where
  | unsigned (bits : Nat)
  | size
  | single
  | boolean
  | section (name : String)
deriving DecidableEq, Repr

/-- The wording of an expected type. -/
def Expected.message : Expected → String
  | .unsigned bits => s!"u{bits}"
  | .size => "usize"
  | .single => "f32"
  | .boolean => "a boolean"
  | .section name => "struct " ++ name

/-- Why a well-formed document does not hold settings. -/
inductive DataError where
  | missingSection (name : String)
  | wrongType (found : Unexpected) (expected : Expected)
  | outOfRange (found : Unexpected) (expected : Expected)
deriving DecidableEq, Repr

/-- The wording of a data error. -/
def DataError.message : DataError → String
  | .missingSection name => s!"missing field `{name}`"
  | .wrongType found expected => s!"invalid type: {found.message}, expected {expected.message}"
  | .outOfRange found expected => s!"invalid value: {found.message}, expected {expected.message}"

/-- A rule that the values of settings break. -/
inductive Violation where
  | polePairs
  | updateRate
  | requestDivisor
  | idleCode
  | idleBelowThrottle
  | idlePercent
  | clock
  | poolSize
  | bidirectionalPool
  | calibration
  | loopRate
  | logInterval
deriving DecidableEq, Repr

/-- The wording of a broken rule. -/
def Violation.message : Violation → String
  | .polePairs => "pole_pairs must be between 1 and 255"
  | .updateRate => "update_rate_hz must be between 1 and 10000"
  | .requestDivisor => "telemetry_request_divisor must be greater than 0"
  | .idleCode => "idle_code must be between 0 and 2047"
  | .idleBelowThrottle => "idle_code must not be below the digital idle throttle"
  | .idlePercent => "digital_idle_percent must be between 0.0 and 20.0"
  | .clock => "peripheral_clock_hz must be between 8000000 and 160000000"
  | .poolSize => "pool_size must be between 1 and 16"
  | .bidirectionalPool => "bidirectional telemetry needs a pool_size of at least 2"
  | .calibration => "calibration constants must be greater than 0"
  | .loopRate => "loop_hz must be between 1 and 10000"
  | .logInterval => "telemetry_log_interval_ms must be between 1 and 60000"

/-- Why settings are refused. -/
inductive ConfigError where
  | malformed
  | data (error : DataError)
  | invalid (violation : Violation)
deriving DecidableEq, Repr

/-- The wording of refused settings. -/
def ConfigError.message : ConfigError → String
  | .malformed => "malformed document"
  | .data error => error.message
  | .invalid violation => violation.message

end MotorLink
