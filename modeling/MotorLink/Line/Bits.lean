/-! Words as lists of bits, the most significant first, as they appear on a line. -/

namespace MotorLink.Bits

/-- The bits of a word in the order of transmission. -/
def ofWord {width : Nat} (word : BitVec width) : List Bool :=
  (List.range width).map word.getMsbD

/-- The word that bits shift in, keeping the last ones that fit. -/
def toWord (width : Nat) (bits : List Bool) : BitVec width :=
  bits.foldl BitVec.shiftConcat 0

end MotorLink.Bits
