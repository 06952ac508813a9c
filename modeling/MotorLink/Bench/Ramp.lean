import MotorLink.Number.Binary

/-! The throttle of a bench run: a triangle wave over time. -/

namespace MotorLink.Ramp

/-- The seconds from one start of the wave to the next. -/
def period : Single := .ofNat 8

/-- The throttle at the top of the wave. -/
def peak : Single := .ofRatio false 6 10

/-- The throttle after some seconds. -/
def throttle (elapsed : Single) : Single :=
  -- The distance of twice the phase from one falls and rises, so its complement rises and falls.
  let phase := (elapsed.rem period).div period
  let triangle := (Binary.ofNat 1).sub (((Binary.ofNat 2).mul phase).sub (.ofNat 1)).abs
  triangle.mul peak

end MotorLink.Ramp
