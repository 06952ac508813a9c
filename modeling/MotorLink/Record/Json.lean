import MotorLink.Number.Shortest
import MotorLink.Record.Printer

/-! The printer of JSON that a run uses. -/

namespace MotorLink.Json

/-- One character of a JSON string; only quotes, backslashes and control characters are escaped. -/
def escape (c : Char) : List Char :=
  match c with
  | '"' => ['\\', '"']
  | '\\' => ['\\', '\\']
  | '\x08' => ['\\', 'b']
  | '\x0c' => ['\\', 'f']
  | '\n' => ['\\', 'n']
  | '\r' => ['\\', 'r']
  | '\t' => ['\\', 't']
  | c =>
    if c.toNat < 0x20 then
      ['\\', 'u', '0', '0', (c.toNat / 16).digitChar, (c.toNat % 16).digitChar]
    else [c]

/-- A JSON string. -/
def quoted (text : String) : String :=
  String.ofList ('"' :: text.toList.flatMap escape ++ ['"'])

/-- A JSON number: the shortest decimal that reads back, or null for what JSON cannot write. -/
def number (x : Single) : String := (x.positional? .even).getD "null"

/-- A plain value. -/
def plain : Content → String
  | .text content => quoted content
  | .natural n => toString n
  | .single x => number x

/-- A JSON object of names and written values, without blanks. -/
def object (fields : List (String × String)) : String :=
  "\x7b" ++ ",".intercalate (fields.map fun field => quoted field.1 ++ ":" ++ field.2) ++ "\x7d"

/-- A record of named values. -/
def record (fields : List (String × Content)) : String :=
  object (fields.map fun field => (field.1, plain field.2))

/-- The printer that a run uses; there is nothing that it refuses. -/
def Printer.standard : Printer where
  instant := Timestamp.text
  plain content := .ok (Json.plain content)
  record fields := .ok (Json.record fields)

end MotorLink.Json
