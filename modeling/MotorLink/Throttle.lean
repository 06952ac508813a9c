import MotorLink.Frame.Command
import MotorLink.Number.Binary

/-! Throttle scales: how a fraction of full throttle becomes a value on the line. -/

namespace MotorLink

/-- The part of the value range that a throttle is spread over, from an idle value to the top. -/
structure ThrottleScale where
  minCode : Nat
deriving DecidableEq, Repr

namespace ThrottleScale

/-- The least value that is a throttle and not a special command. -/
def leastCode : Nat := 48

/-- The value of full throttle. -/
def maxCode : Nat := 2047

/-- The scale over the whole throttle range. -/
def full : ThrottleScale := ⟨leastCode⟩

/-- The scale that starts some values above the least one. -/
def ofOffset (offset : Nat) : ThrottleScale := ⟨leastCode + min offset (maxCode - leastCode)⟩

/-- The scale that starts at a percentage of the range, of which at most twenty count. -/
def ofIdlePercent (percent : Single) : ThrottleScale :=
  -- A percentage that is not a number counts as none.
  let fraction : Single :=
    if percent.isNaN then .zero else (percent.clamp .zero (.ofNat 20)).div (.ofNat 100)
  ofOffset ((fraction.mul (.ofNat (maxCode - leastCode))).roundClipped 65535)

/-- The value of a throttle between zero and one; all else goes to the nearer end. -/
def encode (scale : ThrottleScale) (throttle : Single) : Nat :=
  if throttle.isNaN || throttle.le .zero then scale.minCode
  else
    let limited := if (Binary.ofNat 1).lt throttle then .ofNat 1 else throttle
    let steps := (limited.mul (.ofNat (maxCode - scale.minCode))).roundClipped 65535
    max scale.minCode (min (scale.minCode + steps) maxCode)

/-- The value of a special command, where a code above the greatest is taken for the greatest. -/
def special (code : Nat) : Nat := min code Command.maxCode

end ThrottleScale

end MotorLink
