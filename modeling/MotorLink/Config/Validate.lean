import MotorLink.Config.Basic
import MotorLink.Config.Error
import MotorLink.Throttle

/-! The rules that settings keep, checked in a fixed order. -/

namespace MotorLink

/-- Whether a number lies in a range, ends included. -/
def within (n low high : Nat) : Bool := decide (low ≤ n) && decide (n ≤ high)

namespace Config

/-- The least throttle value that the idle percentage leaves. -/
def minCode (config : Config) : Nat := (ThrottleScale.ofIdlePercent config.motor.idlePercent).minCode

/-- The rules in order, each with whether it is kept. -/
def rules (config : Config) : List (Violation × Bool) :=
  let { motor, timing, channels, calibration, bench } := config
  let idle := motor.idleCode.toNat
  [(.polePairs, within motor.polePairs.toNat 1 255),
   (.updateRate, within motor.updateRateHz.toNat 1 10000),
   (.requestDivisor, decide (0 < motor.requestDivisor.toNat)),
   (.idleCode, decide (idle ≤ ThrottleScale.maxCode)),
   -- A special command may be sent at rest, a throttle only if it is not below the idle one.
   (.idleBelowThrottle, decide (idle ≤ Command.maxCode) || decide (config.minCode ≤ idle)),
   (.idlePercent, Binary.zero.le motor.idlePercent && motor.idlePercent.le (.ofNat 20)),
   (.clock, within timing.clockHz.toNat 8000000 160000000),
   (.poolSize, within channels.poolSize.toNat 1 16),
   (.bidirectionalPool, !motor.bidirectional || decide (2 ≤ channels.poolSize.toNat)),
   (.calibration, decide (0 < calibration.millivoltsPerStep.toNat)
      && decide (0 < calibration.milliampsPerStep.toNat)),
   (.loopRate, within bench.loopHz.toNat 1 10000),
   (.logInterval, within bench.logIntervalMs.toNat 1 60000)]

/-- The first rule that is broken. -/
def violation? (config : Config) : Option Violation :=
  (config.rules.find? fun rule => !rule.2).map Prod.fst

/-- The settings themselves, if they keep every rule. -/
def validate (config : Config) : Except ConfigError Config :=
  match config.violation? with
  | some violation => .error (.invalid violation)
  | none => .ok config

end Config

end MotorLink
