import MotorLink.Toml.Scalar

/-! TOML documents: values with parts, keys, headers, and the table that a whole text describes. -/

namespace MotorLink.Toml

/-- Values may be nested this deep, and a key may have this many parts. -/
def maxDepth : Nat := 79

/-- Whether a character may stand in a key without quotes. -/
def isBareKeyChar (c : Char) : Bool := c.isAlphanum || c == '_' || c == '-'

/-- One part of a key, with or without quotes. -/
def simpleKey : Reader String := fun s =>
  match quotedText s with
  | some found => some found
  | none =>
    let bare := s.takeWhile isBareKeyChar
    if bare.isEmpty then none else some (String.ofList bare, s.dropWhile isBareKeyChar)

/-- The parts of a key, with points and blanks between them. -/
def keyParts : Nat → Reader (List String)
  | 0, _ => none
  | fuel + 1, s => do
    let (part, rest) ← simpleKey (skipBlanks s)
    match skipBlanks rest with
    | '.' :: rest =>
      let (parts, rest) ← keyParts fuel rest
      some (part :: parts, rest)
    | rest => some ([part], rest)

/-- A key, as the path to a table and the last part. -/
def key : Reader (List String × String) := fun s => do
  let (parts, rest) ← keyParts maxDepth s
  let last ← parts.getLast?
  some ((parts.dropLast, last), rest)

/-- The items of a sequence and its closing bracket. -/
def items (item : Reader Value) : Nat → Reader (List Value)
  | 0, _ => none
  | fuel + 1, s =>
    match skipLines false s with
    | ']' :: rest => some ([], rest)
    | s => do
      let (first, rest) ← item s
      match skipLines false rest with
      | ',' :: rest =>
        let (others, rest) ← items item fuel rest
        some (first :: others, rest)
      | ']' :: rest => some ([first], rest)
      | _ => none

/-- A key with its value. -/
def keyValue (value : Reader Value) : Reader ((List String × String) × Value) := fun s => do
  let (path, rest) ← key s
  match rest with
  | '=' :: rest =>
    let (found, rest) ← value (skipBlanks rest)
    some ((path, found), rest)
  | _ => none

/-- The keys of a table between braces, added to those before them, and its closing brace. -/
def pairs (value : Reader Value) : Nat → Entries → Reader Entries
  | 0, _, _ => none
  | fuel + 1, entries, s => do
    let (((path, last), found), rest) ← keyValue value s
    let entries ← entries.insertDotted path last found
    match skipBlanks rest with
    | ',' :: rest => pairs value fuel entries rest
    | '\x7d' :: rest => some (entries, rest)
    | _ => none

/-- A table between braces, read after the opening one. -/
def inlineTable (value : Reader Value) : Reader Value := fun s =>
  match skipBlanks s with
  | '\x7d' :: rest => some (.table .inline [], rest)
  | s => (pairs value s.length [] s).map fun (entries, rest) => (.table .inline entries, rest)

/-- A value that is nested no deeper than a bound. -/
def value : Nat → Reader Value
  | 0, s => scalar s
  | depth + 1, s =>
    match s with
    | '[' :: rest =>
      (items (value depth) s.length rest).map fun (found, after) => (.sequence false found, after)
    | '\x7b' :: rest => inlineTable (value depth) rest
    | _ => scalar s

/-- The tables of a document so far, and the path to the one that keys are added to. -/
structure Draft where
  root : Entries
  path : List String

namespace Draft

/-- The draft of an empty document. -/
def empty : Draft := ⟨[], []⟩

/-- Adds a key to the table of the latest header. -/
def addKey (draft : Draft) (path : List String) (last : String) (found : Value) : Option Draft :=
  (draft.root.descend false (fun _ entries => entries.insertDotted path last found) draft.path
    .header).map fun root => { draft with root }

/-- Opens the table of a header. -/
def addTable (draft : Draft) (path : List String) (last : String) : Option Draft :=
  (draft.root.openTable path last).map fun root => ⟨root, path ++ [last]⟩

/-- Opens the next table of a doubled header. -/
def addItem (draft : Draft) (path : List String) (last : String) : Option Draft :=
  (draft.root.openItem path last).map fun root => ⟨root, path ++ [last]⟩

/-- Takes in the line at the front of a text that is not empty. -/
def line (draft : Draft) (s : List Char) : Option (Draft × List Char) :=
  match s with
  | '[' :: '[' :: rest => do
    let ((path, last), rest) ← key rest
    let (_, rest) ← literal "]]" rest
    let after ← lineEnd? rest
    let draft ← draft.addItem path last
    some (draft, after)
  | '[' :: rest => do
    let ((path, last), rest) ← key rest
    let (_, rest) ← literal "]" rest
    let after ← lineEnd? rest
    let draft ← draft.addTable path last
    some (draft, after)
  | _ => do
    let (((path, last), found), rest) ← keyValue (value maxDepth) s
    let after ← lineEnd? rest
    let draft ← draft.addKey path last found
    some (draft, after)

/-- Takes in all lines of a text. -/
def lines : Nat → Draft → List Char → Option Draft
  | 0, _, _ => none
  | fuel + 1, draft, s =>
    match skipBlanks s with
    | [] => some draft
    | s =>
      match lineEnd? s with
      | some after => lines fuel draft after
      | none => do
        let (draft, after) ← draft.line s
        lines fuel draft after

end Draft

/-- The table that a text describes, if it is a document; a byte order mark in front is skipped. -/
def parse? (source : String) : Option Entries :=
  let s := match source.toList with
    | '\ufeff' :: rest => rest
    | s => s
  (Draft.empty.lines (s.length + 1) s).map Draft.root

end MotorLink.Toml
