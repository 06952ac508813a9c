import MotorLink.Frame.Checked

/-! Reply payloads: a motor period as exponent and mantissa, or a typed byte of extended telemetry. -/

namespace MotorLink

/-- The measured quantity that a type of extended telemetry carries. -/
inductive ExtendedType where
  | temperature
  | voltage
  | current
deriving DecidableEq, Repr

/-- The number on the line of an extended type. -/
def ExtendedType.code : ExtendedType → Nat
  | .temperature => 2
  | .voltage => 4
  | .current => 6

namespace Payload

/-- The payload of a motor period in microseconds: the least exponent whose mantissa has nine bits. -/
def ofPeriod? (period : Nat) : Option (BitVec 12) :=
  -- The top bit of the mantissa tells a period from extended telemetry.
  let fits exponent := decide (0x100 ≤ period >>> exponent) && decide (period >>> exponent ≤ 0x1FF)
  ((List.range 8).find? fits).map fun exponent =>
    BitVec.ofNat 3 exponent ++ BitVec.ofNat 9 (period >>> exponent)

/-- The payload of a typed byte; the low bit of the type is not sent. -/
def ofExtended (type value : Nat) : BitVec 12 :=
  (BitVec.ofNat 4 type &&& 0xE) ++ BitVec.ofNat 8 value

end Payload

end MotorLink
