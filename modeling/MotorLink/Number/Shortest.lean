import MotorLink.Number.Binary

/-! The shortest decimal that reads back as a given binary number, and its positional text. -/

namespace MotorLink

/-- A decimal number, `digits` times ten to the `exponent`. -/
structure Decimal where
  digits : Nat
  exponent : Int
deriving DecidableEq, Repr

/-- Which of two equally near decimals is taken. -/
inductive DecimalTie where
  | even
  | up
deriving DecidableEq, Repr

namespace BinaryFormat

/-- Whether a ratio of half units reads back as a code, ends included when the code is even. -/
def readsBack (format : BinaryFormat) (code num den : Nat) : Bool :=
  -- The interval reaches half way to either neighbouring code.
  let low := (format.units (code - 1) + format.units code) * den
  let high := (format.units code + format.units (code + 1)) * den
  if code % 2 = 0 then decide (low ≤ num) && decide (num ≤ high)
  else decide (low < num) && decide (num < high)

/-- The multiple of a power of ten nearest to a code, if one of its multiples reads back. -/
def onGrid? (format : BinaryFormat) (tie : DecimalTie) (code : Nat) (exponent : Int) :
    Option Nat :=
  -- One step of the grid is `num / den` half units.
  let num := 2 * format.unitsPerOne * Nat.pow 10 exponent.toNat
  let den := Nat.pow 10 (-exponent).toNat
  let value := 2 * format.units code * den
  let below := value / num
  let above := below + 1
  match format.readsBack code (below * num) den, format.readsBack code (above * num) den with
  | false, false => none
  | true, false => some below
  | false, true => some above
  | true, true =>
    let middle := (below + above) * num
    if 2 * value < middle then some below
    else if middle < 2 * value then some above
    else match tie with
      | .up => some above
      | .even => some (below + below % 2)

/-- The first grid that holds a decimal which reads back, going down from a power of ten. -/
def firstGrid (format : BinaryFormat) (tie : DecimalTie) (code : Nat) : Nat → Int → Decimal
  | 0, exponent => ⟨format.units code, exponent⟩
  | steps + 1, exponent =>
    match format.onGrid? tie code exponent with
    | some digits => ⟨digits, exponent⟩
    | none => format.firstGrid tie code steps (exponent - 1)

/-- The decimal with the fewest digits that reads back as a code, the nearest one of those. -/
def shortest (format : BinaryFormat) (tie : DecimalTie) (code : Nat) : Decimal :=
  -- No grid is coarser than the whole part is long, none finer than the unit is needed.
  let top := (Nat.toDigits 10 (format.units code / format.unitsPerOne)).length
  format.firstGrid tie code (top + format.unitExponent + 1) top

end BinaryFormat

namespace Decimal

/-- Positional notation with at least one digit on either side of the point. -/
def positional (d : Decimal) : String :=
  let digits := Nat.toDigits 10 d.digits
  if 0 ≤ d.exponent then
    String.ofList (digits ++ List.replicate d.exponent.toNat '0') ++ ".0"
  else
    -- Zeros on the left make room for every place after the point and one before it.
    let places := (-d.exponent).toNat
    let padded := List.replicate (places + 1 - digits.length) '0' ++ digits
    let whole := padded.length - places
    String.ofList (padded.take whole) ++ "." ++ String.ofList (padded.drop whole)

end Decimal

namespace Binary

variable {format : BinaryFormat}

/-- The shortest positional text of a finite number. -/
def positional? (tie : DecimalTie) : Binary format → Option String
  | .nan => none
  | .number negative code =>
    if code = Fin.last _ then none
    else
      let sign := if negative then "-" else ""
      let decimal := if code.val = 0 then ⟨0, 0⟩ else format.shortest tie code
      some (sign ++ decimal.positional)

end Binary

end MotorLink
