import MotorLink.Link.Settings
import MotorLink.Reply.Reading

/-! Telemetry of a link: the latest readings, kept until they are read. -/

namespace MotorLink

/-- What a motor last said of itself. -/
structure Telemetry where
  rpm : UInt16
  temperature : UInt8
  millivolts : UInt32
  milliamps : UInt32
  lastReading : Reading
deriving DecidableEq, Repr

/-- The latest reading of each quantity, and whether any came since the last look. -/
structure TelemetryCache where
  rpm : UInt16
  temperature : UInt8
  millivolts : UInt32
  milliamps : UInt32
  lastReading : Option Reading
  fresh : Bool
deriving DecidableEq, Repr

/-- A number kept in 32 bits, where one that is too large becomes the largest. -/
def saturate32 (n : Nat) : UInt32 := UInt32.ofNat (min n (UInt32.size - 1))

namespace TelemetryCache

/-- A cache without readings. -/
def empty : TelemetryCache := ⟨0, 0, 0, 0, none, false⟩

/-- Turns of the shaft per minute for an electrical speed. -/
def shaftSpeed (erpm : Nat) (polePairs : UInt8) : UInt16 :=
  UInt16.ofNat (min (erpm / max polePairs.toNat 1) 65535)

/-- Takes a reading in; one of an unknown quantity changes nothing. -/
def update (cache : TelemetryCache) (settings : LinkSettings) (polePairs : UInt8)
    (reading : Reading) : TelemetryCache :=
  let seen := { cache with lastReading := some reading, fresh := true }
  match reading.kind with
  | .erpm => { seen with rpm := shaftSpeed reading.value polePairs }
  | .temperature => { seen with temperature := UInt8.ofNat reading.value }
  | .voltage =>
    { seen with millivolts := saturate32 (reading.value * settings.millivoltsPerStep.toNat) }
  | .current =>
    { seen with milliamps := saturate32 (reading.value * settings.milliampsPerStep.toNat) }
  | .other _ => cache

/-- Hands out what is new and marks it as seen. -/
def take (cache : TelemetryCache) : Option Telemetry × TelemetryCache :=
  if cache.fresh then
    let telemetry := cache.lastReading.map fun reading =>
      ⟨cache.rpm, cache.temperature, cache.millivolts, cache.milliamps, reading⟩
    (telemetry, { cache with fresh := false })
  else (none, cache)

end TelemetryCache

end MotorLink
