import Mathlib.Data.List.Nodup
import MotorLink.Toml.Document

/-! Keys: in the tables of a document, however deep they lie, no key stands twice. -/

namespace MotorLink.Toml

/-- In no table of a value does a key stand twice. -/
inductive Value.Distinct : Value → Prop
  | text (content : String) : Distinct (.text content)
  | integer (number : Int) : Distinct (.integer number)
  | real (number : Double) : Distinct (.real number)
  | boolean (truth : Bool) : Distinct (.boolean truth)
  | dateTime : Distinct .dateTime
  | sequence {byHeaders : Bool} {items : List Value}
      (each : ∀ item ∈ items, Distinct item) : Distinct (.sequence byHeaders items)
  | table {origin : TableOrigin} {entries : List (String × Value)}
      (keys : (entries.map Prod.fst).Nodup) (each : ∀ entry ∈ entries, Distinct entry.2) :
      Distinct (.table origin entries)

namespace Entries

/-- In a table and in all that it holds no key stands twice. -/
structure Distinct (entries : Entries) : Prop where
  keys : (entries.map Prod.fst).Nodup
  each : ∀ entry ∈ entries, entry.2.Distinct

/-- A table has no key twice when its entries have none. -/
theorem distinct_table_iff {origin : TableOrigin} {entries : Entries} :
    (Value.table origin entries).Distinct ↔ entries.Distinct := by
  -- The keys of a table and what stands under them are checked together.
  constructor
  · intro distinct
    cases distinct with
    | table keys each => exact ⟨keys, each⟩
  · intro distinct
    exact .table distinct.keys distinct.each

/-- The empty table has no key at all. -/
theorem distinct_nil : Distinct [] := ⟨List.nodup_nil, by simp⟩

variable {entries after : Entries} {key : String} {value : Value}

/-- A key that is looked up in vain is not there. -/
theorem notMem_of_lookup (absent : entries.lookup key = none) : key ∉ entries.map Prod.fst := by
  intro listed
  obtain ⟨entry, member, rfl⟩ := List.mem_map.mp listed
  -- A look up in vain has passed every entry, the one with this key included.
  have apart := List.lookup_eq_none_iff.mp absent entry member
  simp at apart

/-- A key that is not there is looked up in vain. -/
theorem lookup_of_notMem (absent : key ∉ entries.map Prod.fst) : entries.lookup key = none := by
  rw [List.lookup_eq_none_iff]
  intro entry member
  rw [bne_iff_ne]
  rintro rfl
  exact absent (List.mem_map_of_mem member)

/-- What is looked up is there, under its key. -/
theorem mem_of_lookup (found : entries.lookup key = some value) : (key, value) ∈ entries := by
  obtain ⟨before, behind, rfl, _⟩ := List.lookup_eq_some_iff.mp found
  simp

/-- What is looked up under another key than the first is looked up behind it. -/
theorem lookup_cons_of_ne {name : String} (apart : key ≠ name) :
    List.lookup name ((key, value) :: entries) = entries.lookup name := by
  rw [List.lookup_cons, beq_false_of_ne (Ne.symm apart)]

/-- A new key at the end stands there once. -/
theorem Distinct.concat (distinct : entries.Distinct) (absent : key ∉ entries.map Prod.fst)
    (inner : value.Distinct) : Distinct (entries ++ [(key, value)]) := by
  -- The keys are those before with one that is not among them.
  constructor
  · rw [List.map_append, List.map_singleton, ← List.concat_eq_append]
    exact distinct.keys.concat absent
  · intro entry listed
    rcases List.mem_append.mp listed with before | last
    · exact distinct.each entry before
    · rw [List.mem_singleton.mp last]
      exact inner

/-- Entries that are left out leave no key twice. -/
theorem Distinct.sublist (distinct : entries.Distinct) (fewer : after.Sublist entries) :
    after.Distinct :=
  ⟨distinct.keys.sublist (fewer.map _),
    fun entry listed => distinct.each entry (fewer.subset listed)⟩

/-- Changing a value in its place keeps all keys, and a key that was missing comes to the end. -/
theorem keys_alter {change : Option Value → Option Value}
    (altered : entries.alter key change = some after) :
    after.map Prod.fst = entries.map Prod.fst ∨
      key ∉ entries.map Prod.fst ∧ after.map Prod.fst = entries.map Prod.fst ++ [key] := by
  -- The induction follows the search for the key: found here, or left to the entries behind.
  induction entries generalizing after with
  | nil =>
    obtain ⟨value, _, rfl⟩ := Option.map_eq_some_iff.mp altered
    exact .inr ⟨by simp, rfl⟩
  | cons entry rest ih =>
    obtain ⟨name, value⟩ := entry
    rw [alter] at altered
    split at altered
    · obtain ⟨changed, _, rfl⟩ := Option.map_eq_some_iff.mp altered
      exact .inl rfl
    · rename_i apart
      obtain ⟨later, found, rfl⟩ := Option.map_eq_some_iff.mp altered
      rcases ih found with same | ⟨absent, longer⟩
      · exact .inl (by rw [List.map_cons, same, List.map_cons])
      · refine .inr ⟨?_, by simp [longer]⟩
        simpa [Ne.symm apart] using absent

/-- The values after a change are those before, or what the change made of one or of none. -/
theorem each_alter {change : Option Value → Option Value}
    (altered : entries.alter key change = some after) (each : ∀ entry ∈ entries, entry.2.Distinct)
    (made : ∀ made, change none = some made → made.Distinct)
    (changed : ∀ old new, old.Distinct → change (some old) = some new → new.Distinct) :
    ∀ entry ∈ after, entry.2.Distinct := by
  -- The same search as for the keys, now with the values that it passes.
  induction entries generalizing after with
  | nil =>
    obtain ⟨value, found, rfl⟩ := Option.map_eq_some_iff.mp altered
    simpa using made value found
  | cons entry rest ih =>
    obtain ⟨name, value⟩ := entry
    obtain ⟨first, others⟩ := List.forall_mem_cons.mp each
    rw [alter] at altered
    split at altered
    · obtain ⟨new, found, rfl⟩ := Option.map_eq_some_iff.mp altered
      exact List.forall_mem_cons.mpr ⟨changed value new first found, others⟩
    · obtain ⟨later, found, rfl⟩ := Option.map_eq_some_iff.mp altered
      exact List.forall_mem_cons.mpr ⟨first, ih found others⟩

/-- A change of one value keeps the keys apart if it keeps those inside the value apart. -/
theorem Distinct.alter {change : Option Value → Option Value} (distinct : entries.Distinct)
    (altered : entries.alter key change = some after)
    (made : ∀ made, change none = some made → made.Distinct)
    (changed : ∀ old new, old.Distinct → change (some old) = some new → new.Distinct) :
    after.Distinct := by
  -- The keys stay as they were, or a new one comes to the end.
  refine ⟨?_, each_alter altered distinct.each made changed⟩
  rcases keys_alter altered with same | ⟨absent, longer⟩
  · rw [same]
    exact distinct.keys
  · rw [longer, ← List.concat_eq_append]
    exact distinct.keys.concat absent

/-- A key is added only where it is new. -/
theorem Distinct.insertNew (distinct : entries.Distinct) (inner : value.Distinct)
    (inserted : entries.insertNew key value = some after) : after.Distinct := by
  -- A key that is there already makes the document wrong, so here it is new.
  rw [Entries.insertNew] at inserted
  split at inserted
  · cases inserted
  · rename_i absent
    rw [Bool.not_eq_true, Option.isSome_eq_false_iff, Option.isNone_iff_eq_none] at absent
    rw [← Option.some.inj inserted]
    exact distinct.concat (notMem_of_lookup absent) inner

/-- A change at the end of a path keeps the keys apart on the whole way to it. -/
theorem Distinct.descend {dotted : Bool} {change : TableOrigin → Entries → Option Entries}
    (keeps : ∀ origin (before after : Entries), before.Distinct →
      change origin before = some after → after.Distinct)
    {path : List String} {origin : TableOrigin} (distinct : entries.Distinct)
    (changed : entries.descend dotted change path origin = some after) : after.Distinct := by
  -- The induction follows the path, and each step changes one value of a table.
  induction path generalizing origin entries after with
  | nil => exact keeps _ _ _ distinct changed
  | cons key path ih =>
    rw [Entries.descend] at changed
    apply distinct.alter changed
    · -- A table that was missing is made on the way.
      intro made found
      obtain ⟨inner, inside, rfl⟩ := Option.map_eq_some_iff.mp found
      exact distinct_table_iff.mpr (ih distinct_nil inside)
    · intro old new whole found
      cases whole with
      | text | integer | real | boolean | dateTime => cases found
      | @table origin inner keys each =>
        -- A table that may be entered is changed inside.
        dsimp only at found
        split at found
        · cases found
        · obtain ⟨changed, inside, rfl⟩ := Option.map_eq_some_iff.mp found
          exact distinct_table_iff.mpr (ih ⟨keys, each⟩ inside)
      | @sequence byHeaders items each =>
        cases byHeaders with
        | false => cases found
        | true =>
          -- Of the tables of doubled headers the last one is changed inside.
          dsimp only at found
          split at found
          · rename_i origin inner last
            obtain ⟨changed, inside, rfl⟩ := Option.map_eq_some_iff.mp found
            have whole := distinct_table_iff.mp (each _ (List.mem_of_getLast? last))
            refine .sequence fun item listed => ?_
            rcases List.mem_append.mp listed with before | new
            · exact each item (List.dropLast_subset _ before)
            · rw [List.mem_singleton.mp new]
              exact distinct_table_iff.mpr (ih whole inside)
          · cases found

/-- A dotted key is added only where it is new. -/
theorem Distinct.insertDotted {path : List String} (distinct : entries.Distinct)
    (inner : value.Distinct) (inserted : entries.insertDotted path key value = some after) :
    after.Distinct := by
  -- At the end of the path the key is added to a table that dots may add to.
  apply distinct.descend ?_ inserted
  intro origin before after whole added
  split at added
  · exact whole.insertNew inner added
  · cases added

/-- A header opens a table that is new, or moves one that was only named on the way. -/
theorem Distinct.openTable {path : List String} (distinct : entries.Distinct)
    (opened : entries.openTable path key = some after) : after.Distinct := by
  apply distinct.descend ?_ opened
  intro origin before after whole added
  split at added
  · rename_i absent
    rw [← Option.some.inj added]
    exact whole.concat (notMem_of_lookup absent) (distinct_table_iff.mpr distinct_nil)
  · rename_i named found
    rw [← Option.some.inj added]
    -- What was named is taken out before it comes to the end.
    apply (whole.sublist List.filter_sublist).concat
    · intro listed
      obtain ⟨entry, member, same⟩ := List.mem_map.mp listed
      simp [same] at member
    · have inner := distinct_table_iff.mp (whole.each _ (mem_of_lookup found))
      exact distinct_table_iff.mpr inner
  · cases added

/-- A doubled header adds one more table to a sequence, or begins one. -/
theorem Distinct.openItem {path : List String} (distinct : entries.Distinct)
    (opened : entries.openItem path key = some after) : after.Distinct := by
  -- The new table is empty, and the tables that the sequence has stay as they are.
  have fresh : (Value.table .header []).Distinct := distinct_table_iff.mpr distinct_nil
  apply distinct.descend ?_ opened
  intro origin before after whole added
  apply whole.alter added
  · intro made found
    rw [← Option.some.inj found]
    exact .sequence (by simpa using fresh)
  · intro old new inner found
    cases inner with
    | text | integer | real | boolean | dateTime | table => cases found
    | @sequence byHeaders items each =>
      cases byHeaders with
      | false => cases found
      | true =>
        rw [← Option.some.inj found]
        refine .sequence fun item listed => ?_
        rcases List.mem_append.mp listed with before | last
        · exact each item before
        · rw [List.mem_singleton.mp last]
          exact fresh

end Entries

/-! Readers of values. -/

/-- A reader gives only values in which no key stands twice. -/
def Reader.Tidy (reader : Reader Value) : Prop :=
  ∀ s found rest, reader s = some (found, rest) → found.Distinct

/-- Where one reader or another gives the value, both have to be tidy. -/
theorem Reader.Tidy.orElse {first second : Reader Value} (left : first.Tidy)
    (right : second.Tidy) : Reader.Tidy fun s => first s <|> second s := by
  -- The second reader is asked only where the first one gives nothing.
  intro s found rest read
  dsimp only at read
  cases given : first s with
  | none =>
    rw [given] at read
    exact right s found rest read
  | some result =>
    rw [given] at read
    rw [Option.some.inj read] at given
    exact left s found rest given

/-- An integer that a document may hold has no keys. -/
theorem distinct_of_boundedInteger {number : Int} {found : Value}
    (bounded : boundedInteger number = some found) : found.Distinct := by
  rw [boundedInteger, Option.ite_none_right_eq_some] at bounded
  rw [← Option.some.inj bounded.2]
  exact .integer number

/-- An integer in another base has no keys. -/
theorem tidy_basedInteger (base : Nat) : (basedInteger base).Tidy := by
  intro s found rest read
  simp only [basedInteger, Option.bind_eq_bind, Option.bind_eq_some_iff] at read
  -- Whatever the digits are, what is read of them is an integer in bounds.
  obtain ⟨⟨digits, after⟩, _, value, bounded, same⟩ := read
  obtain ⟨rfl, _⟩ := Prod.mk.inj (Option.some.inj same)
  exact distinct_of_boundedInteger bounded

/-- An integer has no keys. -/
theorem tidy_integer : integer.Tidy := by
  -- The three marked bases are read alike, and the fourth case is a number without a mark.
  intro s found rest read
  unfold integer at read
  split at read
  · exact tidy_basedInteger 16 _ _ _ read
  · exact tidy_basedInteger 8 _ _ _ read
  · exact tidy_basedInteger 2 _ _ _ read
  · simp only [Option.bind_eq_bind, Option.bind_eq_some_iff] at read
    obtain ⟨⟨digits, after⟩, _, value, bounded, same⟩ := read
    obtain ⟨rfl, _⟩ := Prod.mk.inj (Option.some.inj same)
    exact distinct_of_boundedInteger bounded

/-- A real in digits has no keys. -/
theorem tidy_decimalReal : decimalReal.Tidy := by
  intro s found rest read
  simp only [decimalReal, Option.bind_eq_bind, Option.bind_eq_some_iff] at read
  obtain ⟨⟨whole, after⟩, _, read⟩ := read
  -- With a fraction or without one, what is read is a real.
  split at read
  · simp only [Option.bind_some, Option.ite_none_left_eq_some, Option.some.injEq] at read
    obtain ⟨rfl, _⟩ := Prod.mk.inj read.2
    exact .real _
  · split at read
    · simp only [Option.bind_some, Option.ite_none_left_eq_some, Option.some.injEq] at read
      obtain ⟨rfl, _⟩ := Prod.mk.inj read.2
      exact .real _
    · cases read

/-- A real that has a name has no keys. -/
theorem tidy_namedReal : namedReal.Tidy := by
  intro s found rest read
  simp only [namedReal] at read
  -- A real is named in two ways, infinite or not a number.
  split at read
  · obtain ⟨rfl, _⟩ := Prod.mk.inj (Option.some.inj read)
    exact .real _
  · obtain ⟨rfl, _⟩ := Prod.mk.inj (Option.some.inj read)
    exact .real _
  · cases read

/-- A truth value has no keys. -/
theorem tidy_boolean : boolean.Tidy := by
  intro s found rest read
  simp only [boolean] at read
  split at read
  · obtain ⟨rfl, _⟩ := Prod.mk.inj (Option.some.inj read)
    exact .boolean _
  · obtain ⟨rfl, _⟩ := Prod.mk.inj (Option.some.inj read)
    exact .boolean _
  · cases read

/-- A date or time has no keys. -/
theorem tidy_dateTime : dateTime.Tidy := by
  -- A date may go on with a time, and both ways the value is the same.
  intro s found rest read
  simp only [dateTime] at read
  split at read
  · obtain ⟨_, _, same⟩ := Option.map_eq_some_iff.mp read
    obtain ⟨rfl, _⟩ := Prod.mk.inj same
    exact .dateTime
  · obtain ⟨rfl, _⟩ := Prod.mk.inj (Option.some.inj read)
    exact .dateTime

/-- A text has no keys. -/
theorem tidy_text : Reader.Tidy fun s =>
    (text s).map fun (content, rest) => (.text content, rest) := by
  intro s found rest read
  -- The reader of characters gives the content, and it alone makes the value.
  obtain ⟨_, _, same⟩ := Option.map_eq_some_iff.mp read
  obtain ⟨rfl, _⟩ := Prod.mk.inj same
  exact .text _

/-- A simple value has no keys. -/
theorem tidy_scalar : scalar.Tidy :=
  tidy_text.orElse (tidy_boolean.orElse (tidy_dateTime.orElse
    (tidy_decimalReal.orElse (tidy_namedReal.orElse tidy_integer))))

/-- The items of a sequence are as tidy as the reader of one item. -/
theorem distinct_of_items {item : Reader Value} (tidy : item.Tidy) {fuel : Nat} {s rest : List Char}
    {found : List Value} (read : items item fuel s = some (found, rest)) :
    ∀ value ∈ found, value.Distinct := by
  -- Each round reads one item and goes on behind it.
  induction fuel generalizing s found rest with
  | zero => cases read
  | succ fuel ih =>
    rw [items] at read
    split at read
    · obtain ⟨rfl, _⟩ := Prod.mk.inj (Option.some.inj read)
      simp
    · simp only [Option.bind_eq_bind, Option.bind_eq_some_iff] at read
      obtain ⟨⟨first, after⟩, one, read⟩ := read
      have head := tidy _ _ _ one
      split at read
      · simp only [Option.bind_eq_some_iff] at read
        obtain ⟨⟨others, last⟩, more, same⟩ := read
        obtain ⟨rfl, _⟩ := Prod.mk.inj (Option.some.inj same)
        exact List.forall_mem_cons.mpr ⟨head, ih more⟩
      · obtain ⟨rfl, _⟩ := Prod.mk.inj (Option.some.inj read)
        simpa using head
      · cases read

/-- The value behind a key is as tidy as the reader of a value. -/
theorem distinct_of_keyValue {value : Reader Value} (tidy : value.Tidy) {s rest : List Char}
    {path : List String × String} {found : Value}
    (read : keyValue value s = some ((path, found), rest)) : found.Distinct := by
  -- What comes behind the key and its sign was read by the reader that is tidy.
  simp only [keyValue, Option.bind_eq_bind, Option.bind_eq_some_iff] at read
  obtain ⟨⟨key, after⟩, _, read⟩ := read
  split at read
  · simp only [Option.bind_eq_some_iff] at read
    obtain ⟨⟨inner, last⟩, one, same⟩ := read
    obtain ⟨pair, _⟩ := Prod.mk.inj (Option.some.inj same)
    obtain ⟨_, rfl⟩ := Prod.mk.inj pair
    exact tidy _ _ _ one
  · cases read

/-- The keys between braces are added one by one, each where it is new. -/
theorem distinct_of_pairs {value : Reader Value} (tidy : value.Tidy) {fuel : Nat}
    {s rest : List Char} {entries found : Entries} (distinct : entries.Distinct)
    (read : pairs value fuel entries s = some (found, rest)) : found.Distinct := by
  -- Each round adds one pair to a table whose keys are apart, and goes on with that table.
  induction fuel generalizing s entries with
  | zero => cases read
  | succ fuel ih =>
    simp only [pairs, Option.bind_eq_bind, Option.bind_eq_some_iff] at read
    obtain ⟨⟨⟨⟨path, last⟩, inner⟩, after⟩, one, longer, inserted, read⟩ := read
    have more := distinct.insertDotted (distinct_of_keyValue tidy one) inserted
    split at read
    · exact ih more read
    · obtain ⟨rfl, _⟩ := Prod.mk.inj (Option.some.inj read)
      exact more
    · cases read

/-- A table between braces has no key twice. -/
theorem tidy_inlineTable {value : Reader Value} (tidy : value.Tidy) : (inlineTable value).Tidy := by
  -- Empty braces are a case of their own, and otherwise the pairs begin with no entries.
  intro s found rest read
  rw [inlineTable] at read
  split at read
  · obtain ⟨rfl, _⟩ := Prod.mk.inj (Option.some.inj read)
    exact Entries.distinct_table_iff.mpr Entries.distinct_nil
  · obtain ⟨⟨entries, after⟩, inside, same⟩ := Option.map_eq_some_iff.mp read
    obtain ⟨rfl, _⟩ := Prod.mk.inj same
    exact Entries.distinct_table_iff.mpr (distinct_of_pairs tidy Entries.distinct_nil inside)

/-- However deep a value may be nested, no table in it has a key twice. -/
theorem tidy_value (depth : Nat) : (value depth).Tidy := by
  -- The induction is on how deep values may lie in each other, which the reader counts down.
  induction depth with
  | zero => exact tidy_scalar
  | succ depth ih =>
    intro s found rest read
    unfold value at read
    split at read
    · obtain ⟨⟨list, after⟩, inside, same⟩ := Option.map_eq_some_iff.mp read
      obtain ⟨rfl, _⟩ := Prod.mk.inj same
      exact .sequence (distinct_of_items ih inside)
    · exact tidy_inlineTable ih _ _ _ read
    · exact tidy_scalar _ _ _ read

/-! Documents. -/

namespace Draft

variable {draft after : Draft}

/-- A line adds a key, a table or an item, each where it is new. -/
theorem distinct_line (distinct : draft.root.Distinct) {s rest : List Char}
    (read : draft.line s = some (after, rest)) : after.root.Distinct := by
  -- The three kinds of lines are told apart by how they begin.
  unfold line at read
  split at read
  · simp only [Option.bind_eq_bind, Option.bind_eq_some_iff] at read
    obtain ⟨⟨⟨path, last⟩, _⟩, _, ⟨_, _⟩, _, _, _, next, added, same⟩ := read
    obtain ⟨rfl, _⟩ := Prod.mk.inj (Option.some.inj same)
    obtain ⟨root, opened, rfl⟩ := Option.map_eq_some_iff.mp added
    exact distinct.openItem opened
  · simp only [Option.bind_eq_bind, Option.bind_eq_some_iff] at read
    obtain ⟨⟨⟨path, last⟩, _⟩, _, ⟨_, _⟩, _, _, _, next, added, same⟩ := read
    obtain ⟨rfl, _⟩ := Prod.mk.inj (Option.some.inj same)
    obtain ⟨root, opened, rfl⟩ := Option.map_eq_some_iff.mp added
    exact distinct.openTable opened
  · simp only [Option.bind_eq_bind, Option.bind_eq_some_iff] at read
    obtain ⟨⟨⟨⟨path, last⟩, found⟩, _⟩, one, _, _, next, added, same⟩ := read
    obtain ⟨rfl, _⟩ := Prod.mk.inj (Option.some.inj same)
    obtain ⟨root, changed, rfl⟩ := Option.map_eq_some_iff.mp added
    have inner := distinct_of_keyValue (tidy_value _) one
    apply distinct.descend ?_ changed
    intro origin before after whole inserted
    exact whole.insertDotted inner inserted

/-- However many lines a text has, they leave no key twice. -/
theorem distinct_lines {fuel : Nat} (distinct : draft.root.Distinct) {s : List Char}
    (read : draft.lines fuel s = some after) : after.root.Distinct := by
  -- The draft that one line leaves is what the next one is added to.
  induction fuel generalizing draft s with
  | zero => cases read
  | succ fuel ih =>
    rw [lines] at read
    split at read
    · rw [← Option.some.inj read]
      exact distinct
    · split at read
      · exact ih distinct read
      · simp only [Option.bind_eq_bind, Option.bind_eq_some_iff] at read
        obtain ⟨⟨next, rest⟩, one, more⟩ := read
        exact ih (distinct_line distinct one) more

end Draft

/-- In a document no key stands twice, neither in the whole nor in any table inside it. -/
theorem distinct_of_parse? {source : String} {entries : Entries}
    (parsed : parse? source = some entries) : entries.Distinct := by
  obtain ⟨draft, read, rfl⟩ := Option.map_eq_some_iff.mp parsed
  exact Draft.distinct_lines Entries.distinct_nil read

end MotorLink.Toml
