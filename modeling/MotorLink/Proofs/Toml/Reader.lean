import MotorLink.Proofs.Toml.Keys
import MotorLink.Toml.Decode

/-!
Readers of documents: what is asked of any of them, and that the one in use keeps it.

Records are filled field by field, each from the entry of its name or from its declaration.
-/

namespace MotorLink.Toml

variable {entries rest : Entries} {field : Field} {fields : List Field} {key : String}
variable {value : Value}

/-- What a field is in a table: its entry as it is read, or what it is declared to be without. -/
def Field.Holds (field : Field) (entries : Entries) (x : field.type) : Prop :=
  match entries.lookup field.name with
  | some value => field.read value = .ok x
  | none => field.unset = some x

/-- What all fields are in a table. -/
def Values.Hold (entries : Entries) : (fields : List Field) → Values fields → Prop
  | [], () => True
  | field :: fields, (x, others) => field.Holds entries x ∧ Hold entries fields others

/--
What the settings rely on in a reader of documents.

A table has no key twice, and values in the range of a type are read as they are.

A record has in each field what its table says, and none is made where a field has no value.
-/
structure Deserializer.Lawful (reader : Deserializer) : Prop where
  distinct {source : String} {entries : Entries} (parsed : reader.table? source = some entries) :
    entries.Distinct
  unsigned {bits n : Nat} (small : n < 1 <<< bits) : reader.unsigned bits (.integer n) = .ok n
  size {n : Nat} (small : n < UInt64.size) : reader.size (.integer n) = .ok n
  boolean (truth : Bool) : reader.boolean (.boolean truth) = .ok truth
  whole (n : Int) : reader.single (.integer n) = .ok (.ofInt n)
  real (x : Double) : reader.single (.real x) = .ok (x.convert .single)
  record {α : Type} (declared : Declaration α) {values : Values declared.fields}
    {origin : TableOrigin} {entries : Entries} (distinct : entries.Distinct)
    (hold : values.Hold entries) :
    reader.record declared (.table origin entries) = .ok (declared.make values)
  missing {α : Type} (declared : Declaration α) {field : Field} {origin : TableOrigin}
    {entries : Entries} (listed : field ∈ declared.fields) (required : field.unset = none)
    (absent : entries.lookup field.name = none) :
    ∃ error, reader.record declared (.table origin entries) = .error error

namespace Given

/-- What was given so far, together with the entries still to come, makes up some values. -/
def Fits (entries : Entries) : (fields : List Field) → Given fields → Values fields → Prop
  | [], (), () => True
  | field :: fields, (found, others), (x, values) =>
    (match entries.lookup field.name with
      | some value => field.read value = .ok x
      | none => found.or field.unset = some x) ∧ Fits entries fields others values

/-- At the start nothing was given, and the values are those that the table holds. -/
theorem fits_nothing {values : Values fields} (hold : values.Hold entries) :
    Fits entries fields (nothing fields) values := by
  -- Nothing was found for any field, so only the table and the declaration count.
  induction fields with
  | nil => trivial
  | cons field fields ih =>
    obtain ⟨x, values⟩ := values
    exact ⟨by simpa [Field.Holds] using hold.1, ih hold.2⟩

/-- What an entry makes of the first field and of those behind it. -/
theorem enter_cons {entry : String × Value} {found : Option field.type} {others : Given fields}
    {next : Given (field :: fields)}
    (entered : enter entry (field :: fields) (found, others) = .ok next) :
    ∃ head tail, field.enter entry found = .ok head ∧ others.enter entry fields = .ok tail ∧
      next = (head, tail) := by
  -- An error of either part would be an error of the whole.
  rw [enter] at entered
  cases first : field.enter entry found with
  | error error =>
    rw [first] at entered
    cases entered
  | ok head =>
    cases later : others.enter entry fields with
    | error error =>
      rw [first, later] at entered
      cases entered
    | ok tail =>
      rw [first, later] at entered
      exact ⟨head, tail, rfl, rfl, (Except.ok.inj entered).symm⟩

/-- An entry is taken in, and the values stay as they were to be. -/
theorem exists_enter {given : Given fields} {values : Values fields}
    (absent : rest.lookup key = none) (fits : Fits ((key, value) :: rest) fields given values) :
    ∃ next, given.enter (key, value) fields = .ok next ∧ Fits rest fields next values := by
  -- An entry belongs to the field of its name, and passes all others.
  induction fields with
  | nil => exact ⟨(), rfl, trivial⟩
  | cons field fields ih =>
    obtain ⟨found, others⟩ := given
    obtain ⟨x, values⟩ := values
    obtain ⟨first, later⟩ := fits
    obtain ⟨next, entered, fits⟩ := ih later
    by_cases same : field.name = key
    · -- No later entry has the name, so what was read here is what the field is.
      subst same
      rw [List.lookup_cons_self] at first
      refine ⟨(some x, next), ?_, ?_, fits⟩
      · rw [enter, Field.enter, if_pos rfl, first, entered]
        rfl
      · rw [absent]
        rfl
    · rw [Entries.lookup_cons_of_ne (Ne.symm same)] at first
      refine ⟨(found, next), ?_, first, fits⟩
      rw [enter, Field.enter, if_neg same, entered]
      rfl

/-- When no entry is left, each field has its value. -/
theorem complete_of_fits {given : Given fields} {values : Values fields}
    (fits : Fits [] fields given values) : given.complete fields = .ok values := by
  -- Without entries a field is what was found for it, or what it is declared to be.
  induction fields with
  | nil => rfl
  | cons field fields ih =>
    obtain ⟨found, others⟩ := given
    obtain ⟨x, values⟩ := values
    obtain ⟨first, later⟩ := fits
    have filled : found.or field.unset = some x := first
    simp only [complete, filled, ih later]
    rfl

/-- All entries of a table are taken in, and then each field has its value. -/
theorem exists_foldlM_enter {given : Given fields} {values : Values fields}
    (keys : (entries.map Prod.fst).Nodup) (fits : Fits entries fields given values) :
    ∃ final, entries.foldlM (fun given entry => given.enter entry fields) given = .ok final ∧
      final.complete fields = .ok values := by
  -- Each entry is taken in while the values stay the same, which is what the induction carries.
  induction entries generalizing given with
  | nil => exact ⟨given, rfl, complete_of_fits fits⟩
  | cons entry rest ih =>
    obtain ⟨key, value⟩ := entry
    obtain ⟨alone, keys⟩ := List.nodup_cons.mp keys
    obtain ⟨next, entered, fits⟩ := exists_enter (Entries.lookup_of_notMem alone) fits
    obtain ⟨final, folded, completed⟩ := ih keys fits
    exact ⟨final, by rw [List.foldlM_cons, entered]; exact folded, completed⟩

/-- A field that must be given was not given so far, and no entry to come has its name. -/
def Lacks (entries : Entries) : (fields : List Field) → Given fields → Prop
  | [], () => False
  | field :: fields, (found, others) =>
    found = none ∧ field.unset = none ∧ entries.lookup field.name = none ∨
      Lacks entries fields others

/-- At the start each field is lacking that must be given and has no entry. -/
theorem lacks_nothing (listed : field ∈ fields) (required : field.unset = none)
    (absent : entries.lookup field.name = none) : Lacks entries fields (nothing fields) := by
  -- The field is the first one or one of those behind it.
  induction fields with
  | nil => cases listed
  | cons first fields ih =>
    rcases List.mem_cons.mp listed with rfl | later
    · exact .inl ⟨rfl, required, absent⟩
    · exact .inr (ih later)

/-- What is lacking is still lacking when an entry was taken in, for that had another name. -/
theorem lacks_of_enter {given next : Given fields}
    (lacks : Lacks ((key, value) :: rest) fields given)
    (entered : given.enter (key, value) fields = .ok next) : Lacks rest fields next := by
  -- The entry cannot have had the name of what is lacking, since the table has no such entry.
  induction fields with
  | nil => exact lacks
  | cons field fields ih =>
    obtain ⟨found, others⟩ := given
    obtain ⟨head, tail, first, later, rfl⟩ := enter_cons entered
    rcases lacks with ⟨none, required, absent⟩ | behind
    · left
      have apart : field.name ≠ key := by
        intro same
        simp [same] at absent
      rw [Entries.lookup_cons_of_ne (Ne.symm apart)] at absent
      rw [Field.enter, if_neg apart] at first
      exact ⟨(Except.ok.inj first).symm.trans none, required, absent⟩
    · exact .inr (ih behind later)

/-- Where a field is lacking and no entry is left, there is no record. -/
theorem exists_error_of_lacks {given : Given fields} (lacks : Lacks [] fields given) :
    ∃ error, given.complete fields = .error error := by
  -- The field that lacks a value is an error, unless one before it is an error already.
  induction fields with
  | nil => exact lacks.elim
  | cons field fields ih =>
    obtain ⟨found, others⟩ := given
    rcases lacks with ⟨rfl, required, _⟩ | behind
    · rw [complete, required]
      exact ⟨_, rfl⟩
    · obtain ⟨error, failed⟩ := ih behind
      rw [complete, failed]
      cases found.or field.unset with
      | none => exact ⟨_, rfl⟩
      | some x => exact ⟨_, rfl⟩

/-- What is lacking in a whole table is lacking at its end. -/
theorem lacks_of_foldlM {given final : Given fields} (lacks : Lacks entries fields given)
    (folded : entries.foldlM (fun given entry => given.enter entry fields) given = .ok final) :
    Lacks [] fields final := by
  -- Entry by entry the same field is lacking, for none of them has its name.
  induction entries generalizing given with
  | nil =>
    rw [Except.ok.inj folded] at lacks
    exact lacks
  | cons entry rest ih =>
    rw [List.foldlM_cons] at folded
    cases entered : given.enter entry fields with
    | error error =>
      rw [entered] at folded
      cases folded
    | ok next =>
      rw [entered] at folded
      exact ih (lacks_of_enter lacks entered) folded

end Given

/-- Numbers below the limit pass. -/
theorem Value.bounded_integer {limit n : Nat} (small : n < limit) (expected : Expected) :
    bounded limit expected (.integer n) = .ok n := by
  -- A natural number is not below zero, so only the limit is left to be checked.
  have inside : 0 ≤ (n : Int) ∧ (n : Int) < limit := by omega
  rw [bounded, if_pos inside, Int.toNat_natCast]

namespace Deserializer

variable {α : Type} (declared : Declaration α) (origin : TableOrigin)

/-- A record has in each field what its table says. -/
theorem ofValue_table {values : Values declared.fields} (distinct : entries.Distinct)
    (hold : values.Hold entries) :
    declared.ofValue (.table origin entries) = .ok (declared.make values) := by
  -- All entries are taken in first, and the fields are completed after that.
  obtain ⟨final, folded, completed⟩ :=
    Given.exists_foldlM_enter distinct.keys (Given.fits_nothing hold)
  have taken : Given.ofTable declared.fields entries = .ok final := folded
  simp only [Declaration.ofValue, taken]
  show (do return declared.make (← final.complete declared.fields)) = _
  rw [completed]
  rfl

/-- There is no record where a field has no value. -/
theorem exists_error_of_required (listed : field ∈ declared.fields) (required : field.unset = none)
    (absent : entries.lookup field.name = none) :
    ∃ error, declared.ofValue (.table origin entries) = .error error := by
  -- Taking the entries in may fail by itself; if it does not, the field is lacking at the end.
  simp only [Declaration.ofValue]
  cases taken : Given.ofTable declared.fields entries with
  | error error => exact ⟨error, rfl⟩
  | ok final =>
    have lacks := Given.lacks_of_foldlM (Given.lacks_nothing listed required absent) taken
    obtain ⟨error, failed⟩ := Given.exists_error_of_lacks lacks
    refine ⟨error, ?_⟩
    show (do return declared.make (← final.complete declared.fields)) = _
    rw [failed]
    rfl

/-- The reader that a run uses keeps what is asked of readers. -/
theorem lawful_standard : standard.Lawful where
  distinct parsed := distinct_of_parse? parsed
  unsigned small := Value.bounded_integer small _
  size small := by
    -- Without the name of the reader no limit is compared digit by digit.
    dsimp only [standard]
    exact Value.bounded_integer small _
  boolean _ := rfl
  whole _ := rfl
  real _ := rfl
  record declared _ origin _ distinct hold := ofValue_table declared origin distinct hold
  missing declared _ origin _ listed required absent :=
    exists_error_of_required declared origin listed required absent

end Deserializer

end MotorLink.Toml
