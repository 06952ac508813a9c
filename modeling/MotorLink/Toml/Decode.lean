import MotorLink.Toml.Deserializer
import MotorLink.Toml.Document

/-! The reader of documents that a run uses. -/

namespace MotorLink.Toml

namespace Value

/-- A value as an error names it; a date or time counts as a map. -/
def unexpected : Value → Unexpected
  | .text content => .text content
  | .integer number => .integer number
  | .real number => .real number
  | .boolean truth => .boolean truth
  | .sequence _ _ => .sequence
  | .dateTime | .table _ _ => .map

/-- A number below a bound; other values are not of the expected type. -/
def bounded (limit : Nat) (expected : Expected) (value : Value) : Except DataError Nat :=
  match value with
  | .integer number =>
    if 0 ≤ number ∧ number < limit then .ok number.toNat
    else .error (.outOfRange (.integer number) expected)
  | other => .error (.wrongType other.unexpected expected)

/-- A truth value. -/
def truth : Value → Except DataError Bool
  | .boolean truth => .ok truth
  | other => .error (.wrongType other.unexpected .boolean)

/-- A real or an integer, rounded to 32 bits. -/
def single : Value → Except DataError Single
  | .integer number => .ok (.ofInt number)
  | .real number => .ok (number.convert .single)
  | other => .error (.wrongType other.unexpected .single)

end Value

/-- Takes the value of an entry in for a field, if it has its name. -/
def Field.enter (field : Field) (entry : String × Value) (found : Option field.type) :
    Except DataError (Option field.type) :=
  if field.name = entry.1 then (field.read entry.2).map some else .ok found

/-- What was given for each field so far. -/
def Given : List Field → Type
  | [] => Unit
  | field :: fields => Option field.type × Given fields

namespace Given

/-- Nothing was given yet. -/
def nothing : (fields : List Field) → Given fields
  | [] => ()
  | _ :: fields => (none, nothing fields)

/-- Takes an entry in for the field of its name; unknown names are ignored. -/
def enter (entry : String × Value) :
    (fields : List Field) → Given fields → Except DataError (Given fields)
  | [], () => .ok ()
  | field :: fields, (found, others) => do
    return (← field.enter entry found, ← enter entry fields others)

/-- Takes all entries of a table in. -/
def ofTable (fields : List Field) (entries : Entries) : Except DataError (Given fields) :=
  entries.foldlM (fun given entry => given.enter entry fields) (nothing fields)

/-- Takes values in for the fields in their order, as many as there are of both. -/
def inOrder : (fields : List Field) → List Value → Except DataError (Given fields)
  | field :: fields, value :: values => do
    return (some (← field.read value), ← inOrder fields values)
  | fields, _ => .ok (nothing fields)

/-- The value of each field; without one, a field has the value that it is declared with. -/
def complete : (fields : List Field) → Given fields → Except DataError (Values fields)
  | [], () => .ok ()
  | field :: fields, (found, others) =>
    match found.or field.unset with
    | some x => do return (x, ← complete fields others)
    | none => .error (.missingSection field.name)

end Given

/-- A record: a table fills fields by name, a sequence in order, a date or time fills none. -/
def Declaration.ofValue {α : Type} (declared : Declaration α) (value : Value) :
    Except DataError α := do
  let given ← match value with
    | .table _ entries => Given.ofTable declared.fields entries
    | .sequence _ items => Given.inOrder declared.fields items
    | .dateTime => .ok (.nothing declared.fields)
    | other => .error (.wrongType other.unexpected (.section declared.name))
  return declared.make (← given.complete declared.fields)

/-- The reader that a run uses. -/
def Deserializer.standard : Deserializer where
  table? := parse?
  unsigned bits := Value.bounded (1 <<< bits) (.unsigned bits)
  size := Value.bounded UInt64.size .size
  boolean := Value.truth
  single := Value.single
  record := Declaration.ofValue

end MotorLink.Toml
