import MotorLink.Toml.Blank
import MotorLink.Toml.Value

/-! The simple values of a TOML document: texts, numbers, truth values, dates and times. -/

namespace MotorLink.Toml

/-- Reads something off the front of a text, and leaves the rest. -/
abbrev Reader (α : Type) : Type := List Char → Option (α × List Char)

/-- The value of a digit in bases up to sixteen. -/
def digitValue? (base : Nat) (c : Char) : Option Nat :=
  let value? : Option Nat :=
    if '0' ≤ c ∧ c ≤ '9' then some (c.toNat - '0'.toNat)
    else if 'a' ≤ c ∧ c ≤ 'f' then some (c.toNat - 'a'.toNat + 10)
    else if 'A' ≤ c ∧ c ≤ 'F' then some (c.toNat - 'A'.toNat + 10)
    else none
  value?.filter (· < base)

/-- The number that digits of a base write. -/
def ofDigits (base : Nat) (digits : List Nat) : Nat :=
  digits.foldl (fun n digit => n * base + digit) 0

/-- The digits at the front of a text, where single underscores may stand between two digits. -/
def digitRun (base : Nat) : List Char → List Nat × List Char
  | [] => ([], [])
  | c :: rest =>
    match digitValue? base c with
    | some digit =>
      let (digits, after) := digitRun base rest
      (digit :: digits, after)
    | none =>
      if c == '_' && (rest.head?.bind (digitValue? base)).isSome then digitRun base rest
      else ([], c :: rest)

/-- At least one digit, the first of them not after an underscore. -/
def digits (base : Nat) : Reader (List Nat) := fun s =>
  match s.head?.bind (digitValue? base) with
  | some _ => some (digitRun base s)
  | none => none

/-- A given number of digits. -/
def fixedDigits (base count : Nat) : Reader Nat := fun s =>
  match (s.take count).mapM (digitValue? base) with
  | some values => if values.length = count then some (ofDigits base values, s.drop count) else none
  | none => none

/-- An optional sign, and whether it is a minus. -/
def sign : List Char → Bool × List Char
  | '+' :: rest => (false, rest)
  | '-' :: rest => (true, rest)
  | s => (false, s)

/-- A given text. -/
def literal (expected : String) : Reader Unit := fun s =>
  if expected.toList.isPrefixOf s then some ((), s.drop expected.length) else none

/-! Texts. -/

/-- A character by the number of its code point. -/
def codePoint (count : Nat) : Reader Char := fun s => do
  let (number, rest) ← fixedDigits 16 count s
  if number.isValidChar then some (Char.ofNat number, rest) else none

/-- The character of an escape, read after its backslash. -/
def escaped : Reader Char
  | 'b' :: rest => some ('\x08', rest)
  | 'f' :: rest => some ('\x0c', rest)
  | 'n' :: rest => some ('\n', rest)
  | 'r' :: rest => some ('\r', rest)
  | 't' :: rest => some ('\t', rest)
  | '"' :: rest => some ('"', rest)
  | '\\' :: rest => some ('\\', rest)
  | 'u' :: rest => codePoint 4 rest
  | 'U' :: rest => codePoint 8 rest
  | _ => none

/-- What follows a backslash at the end of a line: the line end and all blank lines after it. -/
def foldedLine? (s : List Char) : Option (List Char) :=
  (newline? (skipBlanks s)).map skipBlankLines

/-- The rest of a text on one line, up to its closing quote. -/
def shortText (quote : Char) : Nat → Reader (List Char)
  | 0, _ => none
  | _ + 1, [] => none
  | fuel + 1, c :: rest =>
    if c == quote then some ([], rest)
    else if c == '\\' && quote == '"' then do
      let (first, rest) ← escaped rest
      let (others, rest) ← shortText quote fuel rest
      some (first :: others, rest)
    else if isPlain c then do
      let (others, rest) ← shortText quote fuel rest
      some (c :: others, rest)
    else none

/-- The rest of a text on several lines, up to three closing quotes. -/
def longText (quote : Char) : Nat → Reader (List Char)
  | 0, _ => none
  | _ + 1, [] => none
  | fuel + 1, c :: rest =>
    let quotes := ((c :: rest).takeWhile (· == quote)).length
    if 3 ≤ quotes then
      -- Up to two quotes may stand right before the closing ones.
      let inner := min (quotes - 3) 2
      some (List.replicate inner quote, (c :: rest).drop (inner + 3))
    else if c == '\\' && quote == '"' then
      match foldedLine? rest with
      | some after => longText quote fuel after
      | none => do
        let (first, rest) ← escaped rest
        let (others, rest) ← longText quote fuel rest
        some (first :: others, rest)
    else
      match newline? (c :: rest) with
      | some after => do
        let (others, after) ← longText quote fuel after
        some ('\n' :: others, after)
      | none =>
        if isPlain c then do
          let (others, rest) ← longText quote fuel rest
          some (c :: others, rest)
        else none

/-- A text on one line in either kind of quotes. -/
def quotedText : Reader String := fun s =>
  match s with
  | '"' :: rest => (shortText '"' s.length rest).map fun (cs, after) => (String.ofList cs, after)
  | '\'' :: rest => (shortText '\'' s.length rest).map fun (cs, after) => (String.ofList cs, after)
  | _ => none

/-- A text in either kind of quotes, over several lines when there are three of them. -/
def text : Reader String := fun s =>
  let long (quote : Char) (rest : List Char) : Option (String × List Char) :=
    -- A line end right after the quotes is not part of the text.
    (longText quote s.length ((newline? rest).getD rest)).map fun (cs, after) =>
      (String.ofList cs, after)
  match s with
  | '"' :: '"' :: '"' :: rest => long '"' rest
  | '\'' :: '\'' :: '\'' :: rest => long '\'' rest
  | _ => quotedText s

/-! Numbers. -/

/-- The digits of a whole decimal number, which has no zero in front of others. -/
def wholeDigits : Reader (List Nat)
  | '0' :: rest => some ([0], rest)
  | s => digits 10 s

/-- The integer that a document may hold. -/
def boundedInteger (number : Int) : Option Value :=
  if Int64.minValue.toInt ≤ number ∧ number ≤ Int64.maxValue.toInt then some (.integer number)
  else none

/-- An integer in a base other than ten, read after its mark. -/
def basedInteger (base : Nat) : Reader Value := fun s => do
  let (ds, rest) ← digits base s
  let value ← boundedInteger (ofDigits base ds)
  some (value, rest)

/-- An integer. -/
def integer : Reader Value
  | '0' :: 'x' :: rest => basedInteger 16 rest
  | '0' :: 'o' :: rest => basedInteger 8 rest
  | '0' :: 'b' :: rest => basedInteger 2 rest
  | s => do
    let (negative, s) := sign s
    let (ds, rest) ← wholeDigits s
    let magnitude : Int := ofDigits 10 ds
    let value ← boundedInteger (if negative then -magnitude else magnitude)
    some (value, rest)

/-- The exponent of a real. -/
def exponentPart : Reader Int
  | c :: s =>
    if c == 'e' || c == 'E' then do
      let (negative, s) := sign s
      let (ds, rest) ← digits 10 s
      let magnitude : Int := ofDigits 10 ds
      some (if negative then -magnitude else magnitude, rest)
    else none
  | [] => none

/-- The digits after the point of a real. -/
def fractionPart : Reader (List Nat)
  | '.' :: s => digits 10 s
  | _ => none

/-- A real in decimal digits with a fraction, an exponent or both; it may not be too large. -/
def decimalReal : Reader Value := fun s => do
  let (negative, s) := sign s
  let (whole, s) ← wholeDigits s
  let (fraction, s) ← match fractionPart s with
    | some (fraction, rest) => some (fraction, rest)
    | none => if (exponentPart s).isSome then some ([], s) else none
  let (exponent, rest) := (exponentPart s).getD (0, s)
  let number : Double :=
    .ofDecimal negative (ofDigits 10 (whole ++ fraction)) (exponent - fraction.length)
  if number = .infinity false then none else some (.real number, rest)

/-- A real that has a name. -/
def namedReal : Reader Value := fun s =>
  let (negative, s) := sign s
  match literal "inf" s, literal "nan" s with
  | some (_, rest), _ => some (.real (.infinity negative), rest)
  | none, some (_, rest) => some (.real .nan, rest)
  | none, none => none

/-! Dates and times. -/

/-- A number of two digits in a range. -/
def twoDigits (low high : Nat) : Reader Nat := fun s => do
  let (n, rest) ← fixedDigits 10 2 s
  if low ≤ n ∧ n ≤ high then some (n, rest) else none

/-- Whether a year has a day more than others. -/
def isLeapYear (year : Nat) : Bool := (year % 4 == 0 && year % 100 != 0) || year % 400 == 0

/-- The number of days in a month. -/
def daysInMonth (year month : Nat) : Nat :=
  if month = 2 then if isLeapYear year then 29 else 28
  else if month = 4 ∨ month = 6 ∨ month = 9 ∨ month = 11 then 30
  else 31

/-- What follows a date. -/
def date? (s : List Char) : Option (List Char) := do
  let (year, s) ← fixedDigits 10 4 s
  let (_, s) ← literal "-" s
  let (month, s) ← twoDigits 1 12 s
  let (_, s) ← literal "-" s
  let (_, s) ← twoDigits 1 (daysInMonth year month) s
  some s

/-- What follows a time of day; a second may be a leap second. -/
def time? (s : List Char) : Option (List Char) := do
  let (_, s) ← twoDigits 0 23 s
  let (_, s) ← literal ":" s
  let (_, s) ← twoDigits 0 59 s
  let (_, s) ← literal ":" s
  let (_, s) ← twoDigits 0 60 s
  match s with
  | '.' :: rest =>
    let after := rest.dropWhile Char.isDigit
    some (if after.length < rest.length then after else s)
  | _ => some s

/-- What follows the distance to universal time, if one is given. -/
def skipOffset : List Char → List Char
  | 'Z' :: rest => rest
  | 'z' :: rest => rest
  | c :: rest =>
    let after? : Option (List Char) := do
      let (_, s) ← twoDigits 0 23 rest
      let (_, s) ← literal ":" s
      let (_, s) ← twoDigits 0 59 s
      some s
    if c == '+' || c == '-' then after?.getD (c :: rest) else c :: rest
  | [] => []

/-- A date, a time, or both with a distance to universal time. -/
def dateTime : Reader Value := fun s =>
  match date? s with
  | none => (time? s).map fun rest => (.dateTime, rest)
  | some after =>
    let timed? : Option (List Char) :=
      match after with
      | c :: rest => if c == 'T' || c == 't' || c == ' ' then (time? rest).map skipOffset else none
      | [] => none
    some (.dateTime, timed?.getD after)

/-! All of them. -/

/-- A truth value. -/
def boolean : Reader Value := fun s =>
  match literal "true" s, literal "false" s with
  | some (_, rest), _ => some (.boolean true, rest)
  | none, some (_, rest) => some (.boolean false, rest)
  | none, none => none

/-- A simple value. -/
def scalar : Reader Value := fun s =>
  (text s).map (fun (content, rest) => (.text content, rest))
    <|> boolean s <|> dateTime s <|> decimalReal s <|> namedReal s <|> integer s

end MotorLink.Toml
