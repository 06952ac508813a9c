import MotorLink.Reply.LineCode
import MotorLink.Reply.Reading

/-! Decoding replies: from the runs of a capture to a checked reading. -/

namespace MotorLink

/-- Why a capture is no reply. -/
inductive DecodeError where
  | insufficientBits (collected : Nat)
  | invalidGroup (group code : Nat)
  | checksumMismatch (expected received : Nat)
deriving DecidableEq, Repr

namespace GroupCode

/-- The nibble of one group of a coded word. -/
def decodeGroup (coded : BitVec 20) (index : Nat) : Except DecodeError (BitVec 4) :=
  match decode? (group coded index) with
  | some nibble => .ok nibble
  | none => .error (.invalidGroup index (group coded index).toNat)

/-- The word of four groups; of several invalid ones the most significant is reported. -/
def decodeWord (coded : BitVec 20) : Except DecodeError (BitVec 16) := do
  let first ← decodeGroup coded 0
  let second ← decodeGroup coded 1
  let third ← decodeGroup coded 2
  let fourth ← decodeGroup coded 3
  return first ++ second ++ third ++ fourth

end GroupCode

namespace Reading

/-- The reading of a word that states the checksum of its payload. -/
def ofWord (word : Checked) : Except DecodeError Reading :=
  if word.isValid then .ok (classify word.payload word.stated.toNat)
  else .error (.checksumMismatch (MotorLink.checksum word.payload).toNat word.stated.toNat)

/-- The reading that a capture holds at a number of ticks for each bit. -/
def ofCapture (capture : Capture) (bitTicks : Nat) : Except DecodeError Reading :=
  match capture.lineWord bitTicks with
  | .error collected => .error (.insufficientBits collected)
  | .ok line => do ofWord (← GroupCode.decodeWord (LineCode.changes line))

/-- The reading that a capture holds, if it holds one. -/
def ofCapture? (capture : Capture) (bitTicks : Nat) : Option Reading :=
  (ofCapture capture bitTicks).toOption

end Reading

end MotorLink
