import MotorLink.Reply.Payload

/-! Readings: what the payload of a reply says. -/

namespace MotorLink

/-- The quantity of a reading. -/
inductive ReadingKind where
  | erpm
  | temperature
  | voltage
  | current
  | other (type : Nat)
deriving DecidableEq, Repr

/-- The short name of a quantity. -/
def ReadingKind.name : ReadingKind → String
  | .erpm => "erpm"
  | .temperature => "temperature"
  | .voltage => "voltage"
  | .current => "current"
  | .other _ => "other"

/-- The quantity of an extended type. -/
def ReadingKind.ofType (type : Nat) : ReadingKind :=
  if type = ExtendedType.temperature.code then .temperature
  else if type = ExtendedType.voltage.code then .voltage
  else if type = ExtendedType.current.code then .current
  else .other type

/-- A classified reply. -/
structure Reading where
  kind : ReadingKind
  payload : BitVec 12
  checksum : Nat
  value : Nat
deriving DecidableEq, Repr

namespace Reading

/-- Electrical turns per minute are this number over the period in microseconds. -/
def erpmNumerator : Nat := 60000000

/-- The period in microseconds of a payload read as exponent and mantissa. -/
def period (payload : BitVec 12) : Nat :=
  (payload.extractLsb' 0 9).toNat <<< (payload.extractLsb' 9 3).toNat

/-- The reading of a payload; its ninth bit tells a motor period from extended telemetry. -/
def classify (payload : BitVec 12) (checksum : Nat) : Reading :=
  if payload.getLsbD 8 then
    ⟨.erpm, payload, checksum, erpmNumerator / period payload⟩
  else
    ⟨.ofType (payload.extractLsb' 8 4).toNat, payload, checksum, (payload.extractLsb' 0 8).toNat⟩

/-- The electrical speed, if the reading is one. -/
def erpm? (reading : Reading) : Option Nat :=
  match reading.kind with
  | .erpm => some reading.value
  | _ => none

/-- The byte of extended telemetry, if the reading is one. -/
def extendedValue? (reading : Reading) : Option Nat :=
  match reading.kind with
  | .erpm => none
  | _ => some reading.value

end Reading

end MotorLink
