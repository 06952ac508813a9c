/-! Sixteen-bit words whose low nibble checks the twelve bits above it. -/

namespace MotorLink

/-- The checksum of twelve bits is the exclusive or of their three nibbles. -/
def checksum (payload : BitVec 12) : BitVec 4 :=
  payload.extractLsb' 8 4 ^^^ payload.extractLsb' 4 4 ^^^ payload.extractLsb' 0 4

/-- Twelve bits above their checksum. -/
abbrev Checked : Type := BitVec 16

namespace Checked

/-- The word that carries a payload with its own checksum. -/
def ofPayload (payload : BitVec 12) : Checked := payload ++ checksum payload

/-- The twelve bits that a word carries. -/
def payload (word : Checked) : BitVec 12 := word.extractLsb' 4 12

/-- The checksum that a word states, right or wrong. -/
def stated (word : Checked) : BitVec 4 := word.extractLsb' 0 4

/-- Whether a word states the checksum of its own payload. -/
def isValid (word : Checked) : Bool := checksum word.payload == word.stated

/-- The payload of a word that states the right checksum. -/
def validPayload? (word : Checked) : Option (BitVec 12) :=
  if word.isValid then some word.payload else none

end Checked

end MotorLink
