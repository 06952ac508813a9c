import MotorLink.Config.Decode
import MotorLink.Proofs.Toml.Reader

/-! Fields of settings: what an entry of the right type means, and what is without an entry. -/

namespace MotorLink

namespace Expected

/-- The values that a setting of a type takes, with the range that numbers have. -/
inductive Admits : Expected → Toml.Value → Prop
  | unsigned {bits n : Nat} (small : n < 1 <<< bits) : Admits (.unsigned bits) (.integer n)
  | size {n : Nat} (small : n < UInt64.size) : Admits .size (.integer n)
  | boolean (truth : Bool) : Admits .boolean (.boolean truth)
  | whole (n : Int) : Admits .single (.integer n)
  | real (x : Double) : Admits .single (.real x)

end Expected

namespace Toml

namespace Value

/-- The number that a value is, as a word. -/
def word? {α : Type} (ofNat : Nat → α) : Value → Option α
  | .integer n => some (ofNat n.toNat)
  | _ => none

/-- The truth value that a value is. -/
def truth? : Value → Option Bool
  | .boolean truth => some truth
  | _ => none

/-- The number that a value is, in 32 bits. -/
def single? : Value → Option Single
  | .integer n => some (.ofInt n)
  | .real x => some (x.convert .single)
  | _ => none

end Value

/-- What a value means that a table has under a name, or a given thing if it has none. -/
def Entries.givenOr {α : Type} (entries : Entries) (name : String) (meaning : Value → Option α)
    (unset : α) : α :=
  ((entries.lookup name).bind meaning).getD unset

/-- What a table has under the names that are known is of the types that are expected there. -/
def Entries.Typed (entries : Entries) (known : List (String × Expected)) : Prop :=
  ∀ row ∈ known, ∀ entry ∈ entries, entry.1 = row.1 → row.2.Admits entry.2

/-- The table that a document has under a name, which is empty where there is none. -/
def Entries.tableOf (entries : Entries) (name : String) : Entries :=
  match entries.lookup name with
  | some (.table _ inner) => inner
  | _ => []

/-- A way of reading agrees with a meaning when it reads all values of a type as what they mean. -/
def Agrees {α : Type} (read : Value → Except DataError α) (expected : Expected)
    (meaning : Value → Option α) : Prop :=
  ∀ value, expected.Admits value → ∃ x, read value = .ok x ∧ meaning value = some x

namespace Deserializer.Lawful

variable {reader : Deserializer} (lawful : reader.Lawful)

include lawful

/-- Numbers of some bits are read as words. -/
theorem agrees_word {α : Type} (bits : Nat) (ofNat : Nat → α) :
    Agrees (reader.word bits ofNat) (.unsigned bits) (Value.word? ofNat) := by
  -- The values that a type admits are given by their constructors, and each has a law of its own.
  intro value admitted
  cases admitted with
  | @unsigned _ n small => exact ⟨ofNat n, by rw [word, lawful.unsigned small]; rfl, rfl⟩

/-- Sizes are read as words. -/
theorem agrees_count : Agrees reader.count .size (Value.word? .ofNat) := by
  intro value admitted
  -- Only numbers up to the greatest size are admitted.
  cases admitted with
  | @size n small => exact ⟨.ofNat n, by rw [count, lawful.size small]; rfl, rfl⟩

/-- Truth values are read as they are. -/
theorem agrees_boolean : Agrees reader.boolean .boolean Value.truth? := by
  intro value admitted
  cases admitted with
  | boolean truth => exact ⟨truth, lawful.boolean truth, rfl⟩

/-- Reals and integers are read as numbers of 32 bits. -/
theorem agrees_single : Agrees reader.single .single Value.single? := by
  -- An integer without a point is read as a number as well.
  intro value admitted
  cases admitted with
  | whole n => exact ⟨_, lawful.whole n, rfl⟩
  | real x => exact ⟨_, lawful.real x, rfl⟩

end Deserializer.Lawful

variable {entries : Entries} {field : Field}

/--
A field shows what the entry of its name means, and without an entry what it is declared to be.

The field has to be read in the type that the table keeps to under its name.
-/
theorem Field.holds_givenOr {known : List (String × Expected)} {expected : Expected}
    {meaning : Value → Option field.type} {unset : field.type} (typed : entries.Typed known)
    (listed : (field.name, expected) ∈ known) (agrees : Agrees field.read expected meaning)
    (declared : field.unset = some unset) :
    field.Holds entries (entries.givenOr field.name meaning unset) := by
  -- The declaration counts only where the table has no entry of the name.
  rw [Holds, Entries.givenOr]
  cases found : entries.lookup field.name with
  | none => exact declared
  | some value =>
    have admitted := typed _ listed _ (Entries.mem_of_lookup found) rfl
    obtain ⟨x, read, means⟩ := agrees value admitted
    rw [Option.bind_some, means, Option.getD_some]
    exact read

end Toml

end MotorLink
