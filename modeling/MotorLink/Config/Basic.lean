import MotorLink.Number.Binary

/-! Settings by section, as a document gives them, with the values that hold when it does not. -/

namespace MotorLink

namespace Default

/-! The values of settings that are not given, for those that have a default of their own. -/

/-- The pairs of magnetic poles. -/
def polePairs : UInt8 := 7

/-- The frames in a second. -/
def updateRateHz : UInt16 := 2000

/-- Whether the motor answers. -/
def bidirectional : Bool := true

/-- The throttle frames for each request. -/
def requestDivisor : UInt8 := 32

/-- The code that is sent at rest. -/
def idleCode : UInt16 := 48

/-- The clock in hertz. -/
def clockHz : UInt32 := 40000000

/-- The number of channels. -/
def poolSize : UInt64 := 8

/-- The millivolts for each step. -/
def millivoltsPerStep : UInt32 := 250

/-- The milliamperes for each step. -/
def milliampsPerStep : UInt32 := 1000

/-- The looks at the throttle in a second. -/
def loopHz : UInt32 := 1000

/-- The milliseconds between records. -/
def logIntervalMs : UInt64 := 500

end Default

/-- How the motor is driven. -/
structure MotorSection where
  polePairs : UInt8 := Default.polePairs
  updateRateHz : UInt16 := Default.updateRateHz
  bidirectional : Bool := Default.bidirectional
  requestDivisor : UInt8 := Default.requestDivisor
  idleCode : UInt16 := Default.idleCode
  idlePercent : Single := .zero
deriving DecidableEq, Repr

/-- The clock of the waveform peripheral. -/
structure TimingSection where
  clockHz : UInt32 := Default.clockHz
deriving DecidableEq, Repr

/-- The pool of hardware channels. -/
structure ChannelSection where
  poolSize : UInt64 := Default.poolSize
deriving DecidableEq, Repr

/-- What one step of an extended reading stands for. -/
structure CalibrationSection where
  millivoltsPerStep : UInt32 := Default.millivoltsPerStep
  milliampsPerStep : UInt32 := Default.milliampsPerStep
deriving DecidableEq, Repr

/-- The pace and length of a bench run, where a length of zero has no end. -/
structure BenchSection where
  loopHz : UInt32 := Default.loopHz
  durationSeconds : UInt64 := 0
  logIntervalMs : UInt64 := Default.logIntervalMs
deriving DecidableEq, Repr

/-- All settings. -/
structure Config where
  motor : MotorSection := {}
  timing : TimingSection := {}
  channels : ChannelSection := {}
  calibration : CalibrationSection := {}
  bench : BenchSection := {}
deriving DecidableEq, Repr

end MotorLink
