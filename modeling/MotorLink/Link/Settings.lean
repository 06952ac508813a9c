import MotorLink.Config.Basic

/-! The settings of one link. -/

namespace MotorLink

/-- What a link needs to know before it starts. -/
structure LinkSettings where
  bidirectional : Bool
  updateRateHz : UInt16
  polePairs : UInt8
  requestDivisor : UInt8
  idleCode : UInt16
  idlePercent : Single
  clockHz : UInt32
  millivoltsPerStep : UInt32
  milliampsPerStep : UInt32
deriving DecidableEq, Repr

namespace LinkSettings

/-- The part of all settings that a link uses. -/
def ofConfig (config : Config) : LinkSettings where
  bidirectional := config.motor.bidirectional
  updateRateHz := config.motor.updateRateHz
  polePairs := config.motor.polePairs
  requestDivisor := config.motor.requestDivisor
  idleCode := config.motor.idleCode
  idlePercent := config.motor.idlePercent
  clockHz := config.timing.clockHz
  millivoltsPerStep := config.calibration.millivoltsPerStep
  milliampsPerStep := config.calibration.milliampsPerStep

/-- The settings of a link that nothing was said about. -/
def standard : LinkSettings := ofConfig {}

end LinkSettings

end MotorLink
