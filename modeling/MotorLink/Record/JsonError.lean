/-! Failures of reading or writing JSON: a reason, and the place in the text where it arose. -/

namespace MotorLink

/-- A reason with a line and a column, where line zero stands for no place at all. -/
structure JsonError where
  reason : String
  line : Nat
  column : Nat
deriving DecidableEq, Repr

namespace JsonError

/-- The number that ends a text after a given word, and the text before the word. -/
def endingNumber? (word : String) (text : List Char) : Option (List Char × Nat) :=
  let before := (text.reverse.dropWhile Char.isDigit).reverse
  let digits := text.drop before.length
  let number := digits.foldl (fun n digit => 10 * n + (digit.toNat - '0'.toNat)) 0
  -- Lines and columns are counted in 64 bits.
  if digits.isEmpty || UInt64.size ≤ number || !word.toList.isSuffixOf before then none
  else some (before.take (before.length - word.length), number)

/-- The failure that a text tells of; a place at its end is taken for the place of the failure. -/
def ofText (text : String) : JsonError :=
  let placed? : Option JsonError := do
    let (before, column) ← endingNumber? " column " text.toList
    let (reason, line) ← endingNumber? " at line " before
    return ⟨String.ofList reason, line, column⟩
  placed?.getD ⟨text, 0, 0⟩

/-- The wording of a failure, with its place if it has one. -/
def message (error : JsonError) : String :=
  if error.line = 0 then error.reason
  else s!"{error.reason} at line {error.line} column {error.column}"

end JsonError

end MotorLink
