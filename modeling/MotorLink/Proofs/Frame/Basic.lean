import MotorLink.Frame.Basic
import MotorLink.Proofs.Frame.Checked

/-! A frame is valid and shows the value and the request that it was built from. -/

namespace MotorLink.Frame

/-- Every frame that is built from a value is valid. -/
@[simp] theorem isValid_ofValue (value : BitVec 11) (telemetry : Bool) :
    Checked.isValid (ofValue value telemetry) = true :=
  Checked.isValid_ofPayload _

/-- A frame shows the value that it was built from. -/
@[simp] theorem value_ofValue (value : BitVec 11) (telemetry : Bool) :
    (ofValue value telemetry).value = value := by
  ext index inside
  -- The value lies above the request bit and the checksum.
  simp only [ofValue, Checked.ofPayload, Frame.value, BitVec.getElem_extractLsb',
    BitVec.getLsbD_append]
  grind

/-- A frame asks for telemetry as it was built to. -/
@[simp] theorem requestsTelemetry_ofValue (value : BitVec 11) (telemetry : Bool) :
    (ofValue value telemetry).requestsTelemetry = telemetry := by
  -- The request bit stands right above the checksum.
  simp only [ofValue, Checked.ofPayload, requestsTelemetry, BitVec.getLsbD_append]
  cases telemetry <;> rfl

end MotorLink.Frame
