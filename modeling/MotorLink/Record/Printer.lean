import MotorLink.Number.Binary
import MotorLink.Record.JsonError
import MotorLink.Record.Timestamp

/-! What is asked of a printer of JSON. -/

namespace MotorLink.Json

/-- A value without parts, as it is handed to a printer. -/
inductive Content where
  | text (content : String)
  | natural (n : Nat)
  | single (x : Single)
deriving DecidableEq, Repr

/--
A printer of JSON.

It knows the text of an instant, and writes plain values and records of named values.
-/
structure Printer where
  instant : Timestamp → String
  plain : Content → Except JsonError String
  record : List (String × Content) → Except JsonError String

end MotorLink.Json
