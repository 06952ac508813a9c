import MotorLink.Number.Binary

/-! The values of a TOML document, and the rules for adding to its tables. -/

namespace MotorLink.Toml

/-- How a table came to be, which decides what may still be added to it. -/
inductive TableOrigin where
  /-- Written between braces. -/
  | inline
  /-- Opened by a header of its own, or the document itself. -/
  | header
  /-- Only named on the way to a header. -/
  | implicit
  /-- Named on the way to a dotted key. -/
  | dotted
deriving DecidableEq, Repr

/-- A value; of dates and times only their presence is kept. -/
inductive Value where
  | text (content : String)
  | integer (number : Int)
  | real (number : Double)
  | boolean (truth : Bool)
  | dateTime
  | sequence (byHeaders : Bool) (items : List Value)
  | table (origin : TableOrigin) (entries : List (String × Value))

/-- The keys of a table with their values, in the order of the document. -/
abbrev Entries : Type := List (String × Value)

namespace Entries

/-- Replaces the value of a key where it stands, or adds the key at the end. -/
def alter (key : String) (change : Option Value → Option Value) : Entries → Option Entries
  | [] => (change none).map fun value => [(key, value)]
  | (name, value) :: rest =>
    if name = key then (change (some value)).map fun changed => (name, changed) :: rest
    else (alter key change rest).map ((name, value) :: ·)

/-- Adds a key that is not there yet. -/
def insertNew (entries : Entries) (key : String) (value : Value) : Option Entries :=
  if (entries.lookup key).isSome then none else some (entries ++ [(key, value)])

/-- Changes the table at the end of a path; tables that are missing on the way are made. -/
def descend (dotted : Bool) (change : TableOrigin → Entries → Option Entries) :
    List String → TableOrigin → Entries → Option Entries
  | [], origin, entries => change origin entries
  | key :: path, _, entries => entries.alter key fun
    | none =>
      let origin := if dotted then .dotted else .implicit
      (descend dotted change path origin []).map (.table origin)
    | some (.table origin inner) =>
      -- What is between braces is complete, and dotted keys do not reach into headed tables.
      if origin = .inline || (dotted && origin == .header) then none
      else (descend dotted change path origin inner).map (.table origin)
    | some (.sequence true items) =>
      match items.getLast? with
      | some (.table origin inner) =>
        (descend dotted change path origin inner).map fun changed =>
          .sequence true (items.dropLast ++ [.table origin changed])
      | _ => none
    | some _ => none

/-- Adds the value of a dotted key, whose last part must be new in a table of dotted keys. -/
def insertDotted (entries : Entries) (path : List String) (key : String) (value : Value) :
    Option Entries :=
  let add (origin : TableOrigin) (inner : Entries) : Option Entries :=
    if path.isEmpty || origin == .dotted then inner.insertNew key value else none
  entries.descend true add path .header

/-- Opens the table of a header; one that was only named on the way moves to the end. -/
def openTable (entries : Entries) (path : List String) (key : String) : Option Entries :=
  let openHere (_ : TableOrigin) (inner : Entries) : Option Entries :=
    match inner.lookup key with
    | none => some (inner ++ [(key, .table .header [])])
    | some (.table .implicit named) =>
      some (inner.filter (fun entry => entry.1 != key) ++ [(key, .table .header named)])
    | some _ => none
  entries.descend false openHere path .header

/-- Opens one more table in the sequence of a doubled header. -/
def openItem (entries : Entries) (path : List String) (key : String) : Option Entries :=
  let openHere (_ : TableOrigin) (inner : Entries) : Option Entries :=
    inner.alter key fun
      | none => some (.sequence true [.table .header []])
      | some (.sequence true items) => some (.sequence true (items ++ [.table .header []]))
      | some _ => none
  entries.descend false openHere path .header

end Entries

end MotorLink.Toml
