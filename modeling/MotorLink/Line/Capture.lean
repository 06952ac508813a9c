import MotorLink.Line.Bits

/-! Captures of a line as run lengths, and the bits that the runs stand for. -/

namespace MotorLink

/-- The lengths of the alternating runs of a line, those of one level apart from the other. -/
structure Capture where
  highs : List Nat
  lows : List Nat
deriving DecidableEq, Repr

namespace Capture

/-- The greatest number of run pairs that a capture is made of. -/
def maxPairs : Nat := 64

/-- The capture of pairs of runs, cut at the greatest number. -/
def ofPairs (pairs : List (Nat × Nat)) : Capture :=
  ⟨(pairs.take maxPairs).map Prod.fst, (pairs.take maxPairs).map Prod.snd⟩

/-- The number of complete pairs. -/
def length (capture : Capture) : Nat := min capture.highs.length capture.lows.length

/-- Whether there is no complete pair. -/
def isEmpty (capture : Capture) : Bool := capture.length == 0

/-- The runs of the complete pairs in the order of time. -/
def runs (capture : Capture) : List Nat :=
  (capture.highs.zip capture.lows).flatMap fun pair => [pair.1, pair.2]

/-- The bits that a run lasts, to the nearest whole number and at least one. -/
def bitsInRun (bitTicks run : Nat) : Nat := max 1 ((run + bitTicks / 2) / bitTicks)

/-- The levels of alternating runs, up to a number of bits. -/
def levelsFrom (bitTicks : Nat) : Nat → Bool → List Nat → List Bool
  | _, _, [] => []
  | room, level, run :: rest =>
    let count := min (bitsInRun bitTicks run) room
    List.replicate count level ++ levelsFrom bitTicks (room - count) (!level) rest

/-- The number of line bits in a reply. -/
def replyBits : Nat := 21

/-- The line bits of a reply, or the number of bits in a capture that holds too few. -/
def lineWord (capture : Capture) (bitTicks : Nat) : Except Nat (BitVec 21) :=
  -- Without a bit length no run stands for any bit.
  if bitTicks = 0 then .error 0
  else
    let bits := levelsFrom bitTicks replyBits false capture.runs
    if bits.length < replyBits then .error bits.length else .ok (Bits.toWord 21 bits)

end Capture

end MotorLink
