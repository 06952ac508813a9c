/-! The group code of replies: five line bits for every four, so that levels change often enough. -/

namespace MotorLink.GroupCode

/-- The codes of the nibbles in order. -/
def table : Vector (BitVec 5) 16 :=
  #v[0x19, 0x1B, 0x12, 0x13, 0x1D, 0x15, 0x16, 0x17,
     0x1A, 0x09, 0x0A, 0x0B, 0x1E, 0x0D, 0x0E, 0x0F]

/-- The code of a nibble. -/
def encode (nibble : BitVec 4) : BitVec 5 := table.get nibble.toFin

/-- What the inverse table holds for a code that no nibble has. -/
def unassigned : Nat := 0xFF

/-- A table of all codes with the first nibbles entered, each at the place that its code gives. -/
def entered (count : Nat) : List Nat :=
  (List.range count).foldl
    (fun entries nibble => entries.set (encode (BitVec.ofNat 4 nibble)).toNat nibble)
    (List.replicate 32 unassigned)

/-- The inverse table has all sixteen nibbles entered. -/
def inverseTable : List Nat := entered 16

/-- The nibble that has a code, looked up in the inverse table. -/
def decode? (code : BitVec 5) : Option (BitVec 4) :=
  let entry := inverseTable.getD code.toNat unassigned
  if entry = unassigned then none else some (BitVec.ofNat 4 entry)

/-- The number of code bits in a reply. -/
def replyBits : Nat := 20

/-- The codes of a word's four nibbles, the most significant first. -/
def encodeWord (word : BitVec 16) : BitVec 20 :=
  encode (word.extractLsb' 12 4) ++ encode (word.extractLsb' 8 4)
    ++ encode (word.extractLsb' 4 4) ++ encode (word.extractLsb' 0 4)

/-- One of the four groups of a coded word, the most significant being the first. -/
def group (coded : BitVec 20) (index : Nat) : BitVec 5 := coded.extractLsb' (15 - 5 * index) 5

end MotorLink.GroupCode
