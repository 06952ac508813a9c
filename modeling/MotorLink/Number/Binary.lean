/-! Binary floating-point numbers as whole counts of a least unit, rounded once per operation. -/

namespace MotorLink

/-- A binary interchange format, given by the widths of its fraction and exponent fields. -/
structure BinaryFormat where
  fractionBits : Nat
  exponentBits : Nat
deriving DecidableEq, Repr

namespace BinaryFormat

/-- The 32-bit format. -/
def single : BinaryFormat := ⟨23, 8⟩

/-- The 64-bit format. -/
def double : BinaryFormat := ⟨52, 11⟩

/-- The least positive number is two to the minus this power; it is the unit of every count. -/
def unitExponent (format : BinaryFormat) : Nat :=
  (1 <<< (format.exponentBits - 1)) - 2 + format.fractionBits

/-- The number one, counted in units. -/
def unitsPerOne (format : BinaryFormat) : Nat := 1 <<< format.unitExponent

/-- The code of infinity has every exponent bit set and no fraction bit. -/
def infinityCode (format : BinaryFormat) : Nat :=
  ((1 <<< format.exponentBits) - 1) <<< format.fractionBits

/-- The magnitude in units of a code, the exponent and fraction fields read as one number. -/
def units (format : BinaryFormat) (code : Nat) : Nat :=
  -- Below the first step of the exponent field the code is the count itself.
  let step := 1 <<< format.fractionBits
  if code < step then code else (step + code % step) <<< (code / step - 1)

/-- The whole number nearest to a quotient, with a tie going to the even neighbour. -/
def roundHalfEven (num den : Nat) : Nat :=
  let below := num / den
  let twice := 2 * (num % den)
  if twice < den then below
  else if den < twice then below + 1
  else below + below % 2

/-- The code nearest to a quotient in units: a tie goes to the even code, overflow to infinity. -/
def nearestCode (format : BinaryFormat) (num den : Nat) : Nat :=
  -- Each exponent step adds one power of the fraction field to the code, so a carry is a new step.
  let shift := Nat.log2 (num / den) - format.fractionBits
  min ((shift <<< format.fractionBits) + roundHalfEven num (den <<< shift)) format.infinityCode

/-- Rounding never passes infinity. -/
theorem nearestCode_lt (format : BinaryFormat) (num den : Nat) :
    format.nearestCode num den < format.infinityCode + 1 :=
  Nat.lt_succ_of_le (Nat.min_le_right _ _)

end BinaryFormat

/-- A number of a binary format: a sign and the code of a magnitude, or no number at all. -/
inductive Binary (format : BinaryFormat) where
  | nan
  | number (negative : Bool) (code : Fin (format.infinityCode + 1))
deriving DecidableEq, Repr

/-- A number of the 32-bit format. -/
abbrev Single : Type := Binary .single

/-- A number of the 64-bit format. -/
abbrev Double : Type := Binary .double

namespace Binary

variable {format : BinaryFormat}

/-- The number nearest to a quotient that is counted in units. -/
def ofUnits (negative : Bool) (num den : Nat) : Binary format :=
  .number negative ⟨format.nearestCode num den, format.nearestCode_lt num den⟩

/-- The number nearest to a quotient. -/
def ofRatio (negative : Bool) (num den : Nat) : Binary format :=
  ofUnits negative (num * format.unitsPerOne) den

/-- The number nearest to a natural number. -/
def ofNat (n : Nat) : Binary format := ofRatio false n 1

/-- Positive zero. -/
def zero : Binary format := ofNat 0

/-- Infinity of either sign. -/
def infinity (negative : Bool) : Binary format := .number negative (Fin.last _)

/-- The number nearest to a decimal, `digits` times ten to the `exponent`. -/
def ofDecimal (negative : Bool) (digits : Nat) (exponent : Int) : Binary format :=
  -- Decimals far outside the format are settled by their length, before any large power is built.
  let lead : Int := (Nat.toDigits 10 digits).length + exponent
  if digits = 0 || lead + format.unitExponent < 0 then ofRatio negative 0 1
  else if format.unitExponent + 1 < lead then infinity negative
  else ofRatio negative (digits * Nat.pow 10 exponent.toNat) (Nat.pow 10 (-exponent).toNat)

/-- The number nearest to an integer. -/
def ofInt (n : Int) : Binary format := ofRatio (n < 0) n.natAbs 1

/-- The same number in another format, rounded where it does not fit. -/
def convert (target : BinaryFormat) : Binary format → Binary target
  | .nan => .nan
  | .number negative code =>
    if code = Fin.last _ then infinity negative
    else ofRatio negative (format.units code) format.unitsPerOne

/-- The sign and code fields as one word; there is none for a value that is not a number. -/
def bits? : Binary format → Option Nat
  | .nan => none
  | .number negative code =>
    some ((if negative then 1 <<< (format.exponentBits + format.fractionBits) else 0) + code)

/-- Whether the value is not a number. -/
def isNaN : Binary format → Bool
  | .nan => true
  | .number _ _ => false

/-- Whether the value is a number and not infinite. -/
def isFinite : Binary format → Bool
  | .nan => false
  | .number _ code => code != Fin.last _

/-- The signed value in units, where infinity stands one step above the largest finite number. -/
def signedUnits? : Binary format → Option Int
  | .nan => none
  | .number negative code =>
    some (if negative then -(format.units code : Int) else format.units code)

/-- Order of numbers; nothing is related to a value that is not a number. -/
def le (x y : Binary format) : Bool :=
  match x.signedUnits?, y.signedUnits? with
  | some a, some b => decide (a ≤ b)
  | _, _ => false

/-- Strict order of numbers; nothing is related to a value that is not a number. -/
def lt (x y : Binary format) : Bool :=
  match x.signedUnits?, y.signedUnits? with
  | some a, some b => decide (a < b)
  | _, _ => false

/-- The value moved into an interval; a value that is not a number stays. -/
def clamp (x low high : Binary format) : Binary format :=
  let raised := if x.lt low then low else x
  if high.lt raised then high else raised

/-- The magnitude of a number. -/
def abs : Binary format → Binary format
  | .nan => .nan
  | .number _ code => .number false code

/-- Multiplication; zero times infinity is no number. -/
def mul : Binary format → Binary format → Binary format
  | .number s a, .number t b =>
    if a = Fin.last _ || b = Fin.last _ then
      if a.val = 0 || b.val = 0 then .nan else infinity (s != t)
    else ofUnits (s != t) (format.units a * format.units b) format.unitsPerOne
  | _, _ => .nan

/-- Division; a zero divisor gives infinity unless the dividend is zero too. -/
def div : Binary format → Binary format → Binary format
  | .number s a, .number t b =>
    if a = Fin.last _ then
      if b = Fin.last _ then .nan else infinity (s != t)
    else if b = Fin.last _ then ofUnits (s != t) 0 1
    else if b.val = 0 then
      if a.val = 0 then .nan else infinity (s != t)
    else ofUnits (s != t) (format.units a * format.unitsPerOne) (format.units b)
  | _, _ => .nan

/-- Subtraction; a difference of equal numbers is positive zero. -/
def sub : Binary format → Binary format → Binary format
  | .number s a, .number t b =>
    if a = Fin.last _ then
      if b = Fin.last _ && s == t then .nan else infinity s
    else if b = Fin.last _ then infinity (!t)
    else
      let left : Int := if s then -(format.units a : Int) else format.units a
      let right : Int := if t then -(format.units b : Int) else format.units b
      -- Only negative zero minus positive zero keeps a negative sign on zero.
      let negative := decide (left < right) || (left == right && left == 0 && s && !t)
      ofUnits negative (left - right).natAbs 1
  | _, _ => .nan

/-- The remainder of truncated division, with the sign of the dividend. -/
def rem : Binary format → Binary format → Binary format
  | .number s a, .number _ b =>
    if a = Fin.last _ || b.val = 0 then .nan
    else if b = Fin.last _ then .number s a
    else ofUnits s (format.units a % format.units b) 1
  | _, _ => .nan

/-- The natural number nearest to a value, halves going up, clipped to a limit. -/
def roundClipped (limit : Nat) : Binary format → Nat
  | .nan => 0
  | .number true _ => 0
  | .number false code =>
    min ((2 * format.units code + format.unitsPerOne) / (2 * format.unitsPerOne)) limit

/-- The whole part of a value, clipped to a limit. -/
def floorClipped (limit : Nat) : Binary format → Nat
  | .nan => 0
  | .number true _ => 0
  | .number false code => min (format.units code / format.unitsPerOne) limit

end Binary

end MotorLink
