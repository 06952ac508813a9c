import MotorLink.Proofs.Record.Spelling
import MotorLink.Record.Json

/-!
Printers of JSON: what is asked of any of them, and what their records are read as.

Whatever keeps to this writes a record of plain values in one visible text that stands for it.
-/

namespace MotorLink.Json

namespace Printer

variable (printer : Printer)

/-- A member of a record is printed as its name, a colon and its value. -/
def PrintsMember (field : String × Content) (written : String) : Prop :=
  ∃ name value, printer.plain (.text field.1) = .ok name ∧ printer.plain field.2 = .ok value ∧
    written = name ++ ":" ++ value

/--
What records rely on in a printer of JSON.

Texts stand between quotes with escapes, and naturals and finite numbers are decimal numbers.

A record whose members can be printed has them between braces, in their order.
-/
structure Lawful : Prop where
  text (content : String) :
    ∃ written, printer.plain (.text content) = .ok written ∧ Quotes content written
  natural (n : Nat) : printer.plain (.natural n) = .ok (toString n)
  single {x : Single} (finite : x.isFinite = true) :
    ∃ d : Numeral, printer.plain (.single x) = .ok d.text
  record {fields : List (String × Content)} {members : List String}
    (printed : List.Forall₂ printer.PrintsMember fields members) :
    printer.record fields = .ok (braced members)

/-- A field is printed as a member that is read back as an entry. -/
def Shows (field : String × Content) (entry : String × Value) : Prop :=
  ∃ written, printer.PrintsMember field written ∧ SpellsMember 1 written entry

namespace Lawful

variable {printer} (lawful : printer.Lawful)

include lawful

/-- A field is shown if its value is printed as something that spells a value. -/
theorem shows_of_spells (name : String) {content : Content} {written : String} {found : Value}
    (printed : printer.plain content = .ok written) (spells : Spells 1 written found) :
    printer.Shows (name, content) (name, found) := by
  -- The name is a text like any other, so it is printed between quotes.
  obtain ⟨quoted, printedName, quotes⟩ := lawful.text name
  exact ⟨quoted ++ ":" ++ written, ⟨quoted, written, printedName, printed, rfl⟩,
    ⟨quoted, written, rfl, quotes, spells⟩⟩

/-- A text is shown, whatever it holds. -/
theorem shows_text (name content : String) :
    printer.Shows (name, .text content) (name, .text content) := by
  obtain ⟨written, printed, quotes⟩ := lawful.text content
  exact lawful.shows_of_spells name printed (spells_of_quotes quotes)

/-- A natural number is shown. -/
theorem shows_natural (name : String) (n : Nat) :
    printer.Shows (name, .natural n) (name, .number n) :=
  lawful.shows_of_spells name (lawful.natural n) (spells_toString n)

/-- A number is shown as the one that its digits write. -/
theorem shows_single (name : String) {x : Single} {d : Numeral}
    (printed : printer.plain (.single x) = .ok d.text) :
    printer.Shows (name, .single x) (name, .number d.value) :=
  lawful.shows_of_spells name printed (spells_text d)

/-- A record of fields that are shown is printed, and read back as an object of their entries. -/
theorem exists_record {fields : List (String × Content)} {entries : List (String × Value)}
    (shows : List.Forall₂ printer.Shows fields entries) :
    ∃ written, printer.record fields = .ok written ∧ Spells 2 written (.object entries) := by
  -- The members are those that the fields are printed as, one by one.
  obtain ⟨members, printed, spelled⟩ : ∃ members,
      List.Forall₂ printer.PrintsMember fields members ∧
        List.Forall₂ (SpellsMember 1) members entries := by
    induction shows with
    | nil => exact ⟨[], .nil, .nil⟩
    | cons first _ ih =>
      obtain ⟨written, prints, spells⟩ := first
      obtain ⟨members, printed, spelled⟩ := ih
      exact ⟨written :: members, .cons prints printed, .cons spells spelled⟩
  exact ⟨braced members, lawful.record printed, spells_braced spelled⟩

end Lawful

end Printer

end MotorLink.Json
