import MotorLink.Line.Capture
import MotorLink.Reply.GroupCode

/-! The line code of replies: a one changes the level of the line, a zero keeps it. -/

namespace MotorLink.LineCode

/-- The levels of a line that starts low, one before the first bit and one after each. -/
def levels (start : Bool) : List Bool → List Bool
  | [] => [start]
  | bit :: rest => start :: levels (start != bit) rest

/-- The lengths of the runs of equal levels. -/
def runLengths : List Bool → List Nat
  | [] => []
  | [_] => [1]
  | level :: next :: rest =>
    match runLengths (next :: rest) with
    | [] => [1]
    | run :: runs => if level = next then (run + 1) :: runs else 1 :: run :: runs

/-- The elements taken two at a time, without an odd one at the end. -/
def pairs : List Nat → List (Nat × Nat)
  | first :: second :: rest => (first, second) :: pairs rest
  | _ => []

/-- The runs of a coded word in bits, the last pair completed by a run of one. -/
def paddedRuns (coded : BitVec 20) : List Nat :=
  let runs := runLengths (levels false (Bits.ofWord coded))
  if runs.length % 2 = 0 then runs else runs ++ [1]

/-- The capture of a coded word at a number of ticks for each bit. -/
def capture (coded : BitVec 20) (bitTicks : Nat) : Capture :=
  Capture.ofPairs ((pairs (paddedRuns coded)).map fun pair => (pair.1 * bitTicks, pair.2 * bitTicks))

/-- The capture of a reply word at a number of ticks for each bit. -/
def captureReply (word : BitVec 16) (bitTicks : Nat) : Capture :=
  capture (GroupCode.encodeWord word) bitTicks

/-- The coded word whose ones are the level changes between line bits. -/
def changes (line : BitVec 21) : BitVec 20 := (line ^^^ (line >>> 1)).setWidth 20

end MotorLink.LineCode
