import MotorLink.Frame.Checked

/-! Command frames: an eleven-bit value, a telemetry request bit and a checksum. -/

namespace MotorLink

/-- One command on the line, sent with the most significant bit first. -/
abbrev Frame : Type := Checked

namespace Frame

/-- The length of a frame in bits. -/
def bitCount : Nat := 16

/-- The frame that sends a value and may ask for telemetry in return. -/
def ofValue (value : BitVec 11) (telemetry : Bool) : Frame :=
  Checked.ofPayload (value ++ BitVec.ofBool telemetry)

/-- The value of a frame. -/
def value (frame : Frame) : BitVec 11 := frame.extractLsb' 5 11

/-- Whether a frame asks for telemetry. -/
def requestsTelemetry (frame : Frame) : Bool := frame.getLsbD 4

end Frame

end MotorLink
