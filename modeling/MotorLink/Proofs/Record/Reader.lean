import MotorLink.Record.Json
import MotorLink.Toml.Scalar

/-!
Reading JSON: the value that a text stands for, if it stands for one.

The reader knows all of JSON, and nothing of how records are written.
-/

namespace MotorLink.Json

/-- A value of JSON. -/
inductive Value where
  | null
  | boolean (truth : Bool)
  | number (value : Rat)
  | text (content : String)
  | sequence (items : List Value)
  | object (members : List (String × Value))

namespace Read

open Toml (Reader literal fixedDigits sign)

/-- Whether a character is space between the parts of a text. -/
def isSpace (c : Char) : Bool := c == ' ' || c == '\t' || c == '\n' || c == '\r'

/-- What follows the space at the start of a text. -/
def skipSpace (s : List Char) : List Char := s.dropWhile isSpace

/-! Numbers. -/

/-- At least one digit. -/
def digits : Reader (List Char) := fun s =>
  let run := s.takeWhile Char.isDigit
  if run.isEmpty then none else some (run, s.dropWhile Char.isDigit)

/-- The digits of a whole number, which has no zero in front of others. -/
def wholeDigits : Reader (List Char)
  | '0' :: rest => some (['0'], rest)
  | s => digits s

/-- The digits after a point, if there is one. -/
def fraction : Reader (List Char)
  | '.' :: rest => digits rest
  | s => some ([], s)

/-- The power of ten after a mark, if there is one. -/
def exponent : Reader Int
  | 'e' :: rest | 'E' :: rest => do
    let (negative, s) := sign rest
    let (run, rest) ← digits s
    let magnitude : Int := Nat.ofDigitChars 10 run 0
    some (if negative then -magnitude else magnitude, rest)
  | s => some (0, s)

/-- The number that digits around a point write, moved by a power of ten. -/
def scaled (whole places : List Char) (power : Int) : Rat :=
  Nat.ofDigitChars 10 (whole ++ places) 0 * 10 ^ (power - places.length)

/-- A number without a sign. -/
def magnitude : Reader Rat := fun s => do
  let (whole, s) ← wholeDigits s
  let (places, s) ← fraction s
  let (power, rest) ← exponent s
  some (scaled whole places power, rest)

/-- A number. -/
def number : Reader Rat
  | '-' :: rest => (magnitude rest).map fun (value, rest) => (-value, rest)
  | s => magnitude s

/-! Texts. -/

/-- A character by its code point, or by both halves of it where it does not fit in one. -/
def codePoint : Reader Char := fun s => do
  let (unit, rest) ← fixedDigits 16 4 s
  if unit.isValidChar then some (Char.ofNat unit, rest)
  else
    let (_, rest) ← literal "\\u" rest
    let (low, rest) ← fixedDigits 16 4 rest
    if unit < 0xDC00 ∧ 0xDC00 ≤ low ∧ low < 0xE000 then
      some (Char.ofNat (0x10000 + (unit - 0xD800) * 0x400 + (low - 0xDC00)), rest)
    else none

/-- The character of an escape, read after its backslash. -/
def escaped : Reader Char
  | '"' :: rest => some ('"', rest)
  | '\\' :: rest => some ('\\', rest)
  | '/' :: rest => some ('/', rest)
  | 'b' :: rest => some ('\x08', rest)
  | 'f' :: rest => some ('\x0c', rest)
  | 'n' :: rest => some ('\n', rest)
  | 'r' :: rest => some ('\r', rest)
  | 't' :: rest => some ('\t', rest)
  | 'u' :: rest => codePoint rest
  | _ => none

/-- The rest of a text up to its closing quote, which holds no control character. -/
def characters : Nat → Reader (List Char)
  | 0, _ => none
  | _ + 1, [] => none
  | fuel + 1, c :: rest =>
    if c == '"' then some ([], rest)
    else if c == '\\' then do
      let (first, rest) ← escaped rest
      let (others, rest) ← characters fuel rest
      some (first :: others, rest)
    else if c.toNat < 0x20 then none
    else do
      let (others, rest) ← characters fuel rest
      some (c :: others, rest)

/-- A text between quotes. -/
def text : Reader String
  | '"' :: rest =>
    (characters (rest.length + 1) rest).map fun (cs, rest) => (String.ofList cs, rest)
  | _ => none

/-! Values. -/

/-- At least one item, with commas between the items, and the closing character. -/
def separated {α : Type} (item : Reader α) (close : Char) : Nat → Reader (List α)
  | 0, _ => none
  | fuel + 1, s => do
    let (first, rest) ← item s
    match skipSpace rest with
    | [] => none
    | c :: rest =>
      if c == close then some ([first], rest)
      else if c == ',' then do
        let (others, rest) ← separated item close fuel rest
        some (first :: others, rest)
      else none

/-- Any number of items up to a closing character. -/
def enclosed {α : Type} (item : Reader α) (close : Char) : Reader (List α) := fun s =>
  match skipSpace s with
  | [] => none
  | c :: rest =>
    if c == close then some ([], rest) else separated item close (s.length + 1) (c :: rest)

/-- A name with its value. -/
def member (value : Reader Value) : Reader (String × Value) := fun s => do
  let (name, rest) ← text (skipSpace s)
  let (_, rest) ← literal ":" (skipSpace rest)
  let (found, rest) ← value rest
  some ((name, found), rest)

/-- A value without parts. -/
def scalar : Reader Value := fun s =>
  (literal "null" s).map (fun (_, rest) => (.null, rest))
    <|> (literal "true" s).map (fun (_, rest) => (.boolean true, rest))
    <|> (literal "false" s).map (fun (_, rest) => (.boolean false, rest))
    <|> (text s).map (fun (content, rest) => (.text content, rest))
    <|> (number s).map fun (value, rest) => (.number value, rest)

/-- A value that is nested less deep than a bound. -/
def value : Nat → Reader Value
  | 0, _ => none
  | depth + 1, s =>
    match skipSpace s with
    | '\x7b' :: rest =>
      (enclosed (member (value depth)) '\x7d' rest).map fun (members, rest) =>
        (.object members, rest)
    | '[' :: rest =>
      (enclosed (value depth) ']' rest).map fun (items, rest) => (.sequence items, rest)
    | s => scalar s

end Read

/-- The value of a whole text, which may have space around it. -/
def read? (source : String) : Option Value :=
  -- A text has room for fewer levels than it has characters.
  match Read.value (source.length + 1) source.toList with
  | some (value, rest) => if (Read.skipSpace rest).isEmpty then some value else none
  | none => none

end MotorLink.Json
