import MotorLink.Config.Error
import MotorLink.Toml.Value

/-! What is asked of a reader of documents, and how the records that it fills are declared. -/

namespace MotorLink.Toml

/-- A field: its name, how a value of its type is read, and what it is without an entry. -/
structure Field where
  type : Type
  name : String
  read : Value → Except DataError type
  unset : Option type := none

/-- One value for each field, in order. -/
def Values : List Field → Type
  | [] => Unit
  | field :: fields => field.type × Values fields

/-- A record as it is declared: its name in messages, its fields, and what their values make up. -/
structure Declaration (α : Type) where
  name : String
  fields : List Field
  make : Values fields → α

/--
A reader of documents.

It finds the table of a text, reads plain values, and fills a record from its declaration.
-/
structure Deserializer where
  table? : String → Option Entries
  unsigned (bits : Nat) : Value → Except DataError Nat
  size : Value → Except DataError Nat
  boolean : Value → Except DataError Bool
  single : Value → Except DataError Single
  record : {α : Type} → Declaration α → Value → Except DataError α

namespace Deserializer

variable (reader : Deserializer)

/-- Reads a number of some bits, as a word of so many. -/
def word {α : Type} (bits : Nat) (ofNat : Nat → α) (value : Value) : Except DataError α :=
  (reader.unsigned bits value).map ofNat

/-- Reads a number of things that fit in memory. -/
def count (value : Value) : Except DataError UInt64 := (reader.size value).map .ofNat

end Deserializer

end MotorLink.Toml
