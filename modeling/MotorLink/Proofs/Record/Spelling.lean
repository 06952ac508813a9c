import MotorLink.Proofs.Record.Digits
import MotorLink.Proofs.Record.Text

/-! Spelling: what is written as JSON is seen in full, and stands for one value alone. -/

namespace MotorLink.Json

open Read
open Toml (literal)

namespace Read

variable {rest : List Char}

/-- A word is not read where another character comes first. -/
theorem literal_of_ne {word : String} {c first : Char} {letters others : List Char}
    (other : c ≠ first) (spelled : word.toList = first :: letters) :
    literal word (c :: others) = none := by
  simp [literal, spelled, Ne.symm other]

/-- A value with none of the first letters of a word or a bracket is a text or a number. -/
theorem value_of_ne {c : Char} (others : List Char) (depth : Nat) (solid : isSpace c = false)
    (other : ∀ first ∈ ['\x7b', '[', 'n', 't', 'f'], c ≠ first) :
    value (depth + 1) (c :: others) =
      ((text (c :: others)).map (fun (content, rest) => (.text content, rest))
        <|> (number (c :: others)).map fun (value, rest) => (.number value, rest)) := by
  have start : skipSpace (c :: others) = c :: others := by
    simp [skipSpace, solid]
  have noNull : literal "null" (c :: others) = none := literal_of_ne (other 'n' (by simp)) rfl
  have noTrue : literal "true" (c :: others) = none := literal_of_ne (other 't' (by simp)) rfl
  have noFalse : literal "false" (c :: others) = none := literal_of_ne (other 'f' (by simp)) rfl
  rw [value, start]
  -- No bracket opens here, so the value has no parts.
  split
  · rename_i same
    exact absurd (List.cons.inj same).1 (other _ (by simp))
  · rename_i same
    exact absurd (List.cons.inj same).1 (other _ (by simp))
  · rw [scalar, noNull, noTrue, noFalse]
    rfl

/-- A number is read as a value. -/
theorem value_numeral (d : Numeral) (closed : Closed rest) (depth : Nat) :
    value (depth + 1) (d.chars ++ rest) = some (.number d.value, rest) := by
  -- A number begins with a minus or a digit, which no other kind of value does.
  have read := number_numeral d closed
  obtain ⟨c, others, start, first⟩ : ∃ c others, d.chars = c :: others ∧
      (c = '-' ∨ c.isDigit = true) := by
    obtain ⟨c, others, digit, same⟩ := chars_eq_cons d
    rw [same]
    cases d.negative with
    | true => exact ⟨'-', c :: others, rfl, .inl rfl⟩
    | false => exact ⟨c, others, rfl, .inr digit⟩
  have other {other : Char} (none : other.isDigit = false) (noMinus : other ≠ '-') : c ≠ other := by
    rcases first with rfl | digit
    · exact noMinus.symm
    · exact ne_of_isDigit digit none
  have noText : text (c :: (others ++ rest)) = none := by
    unfold text
    split
    · rename_i same
      exact absurd (List.cons.inj same).1 (other rfl (by decide))
    · rfl
  have solid : isSpace c = false := by
    simp [isSpace, other]
  rw [start, List.cons_append] at read ⊢
  rw [value_of_ne _ depth solid (by simp [other]), noText, read]
  rfl

end Read

/--
A written text is seen in full, and stands for a value, whatever follows it.

The level is the number of values that lie in each other, the whole one among them.
-/
structure Spells (level : Nat) (written : String) (value : Value) : Prop where
  visible : ∀ c ∈ written.toList, 0x20 ≤ c.toNat
  reads : ∀ depth, level ≤ depth → ∀ rest, Closed rest →
    Read.value depth (written.toList ++ rest) = some (value, rest)

/-- What is written between quotes is a text, whatever it holds. -/
theorem spells_of_quotes {content written : String} (quotes : Quotes content written) :
    Spells 1 written (.text content) := by
  -- A quote in front leaves nothing but a text, which ends at the quote that is its own.
  refine ⟨visible_of_quotes quotes, ?_⟩
  intro depth room rest _
  obtain ⟨depth, rfl⟩ := Nat.exists_eq_add_of_le' room
  have read := text_of_quotes quotes rest
  obtain ⟨codes, _, same⟩ := quotes
  rw [same, List.cons_append] at read ⊢
  rw [value_of_ne _ depth rfl (by simp), read]
  rfl

/-- What is written in the parts of a number is that number. -/
theorem spells_text (d : Numeral) : Spells 1 d.text (.number d.value) := by
  -- Unlike a text, a number ends where the next character does not go on with it.
  have written : d.text.toList = d.chars := String.toList_ofList
  refine ⟨written ▸ visible_chars d, ?_⟩
  intro depth room rest closed
  obtain ⟨depth, rfl⟩ := Nat.exists_eq_add_of_le' room
  rw [written]
  exact value_numeral d closed depth

/-- A natural number is written in digits. -/
theorem spells_toString (n : Nat) : Spells 1 (toString n) (.number n) := by
  -- The number of its digits alone, without sign, places or power.
  let d : Numeral := ⟨false, Nat.toDigits 10 n, none, none, whole_toDigits n⟩
  have written : d.text = toString n := by
    simp [d, Numeral.text, Numeral.chars, signText, placesText, powerText, Nat.repr]
  have value : d.value = n := by
    simp [d, Numeral.value, Numeral.exponent, scaled, Nat.ofDigitChars_ten_toDigits]
  rw [← written, ← value]
  exact spells_text d

/-- What is written for a member is its name between quotes, a colon and its value. -/
def SpellsMember (level : Nat) (written : String) (entry : String × Value) : Prop :=
  ∃ name found, written = name ++ ":" ++ found ∧ Quotes entry.1 name ∧ Spells level found entry.2

/-- The characters of members with commas between them. -/
def membersText (members : List String) : List Char := [','].intercalate (members.map String.toList)

/-- Behind the first of several members stands a comma. -/
theorem membersText_cons_cons (member next : String) (members : List String) :
    membersText (member :: next :: members) =
      member.toList ++ ',' :: membersText (next :: members) := by
  simp [membersText]

/-- A single member stands alone. -/
theorem membersText_singleton (member : String) : membersText [member] = member.toList := by
  simp [membersText]

variable {level depth : Nat} {written : String} {members : List String} {rest : List Char}
variable {entry : String × Value} {entries : List (String × Value)}

/-- A comma does not go on with a number. -/
theorem closed_comma (s : List Char) : Closed (',' :: s) := by simp [Closed]

/-- A closing brace does not go on with a number. -/
theorem closed_brace (s : List Char) : Closed ('\x7d' :: s) := by simp [Closed]

/-- A text between quotes has no space in front of it. -/
theorem skipSpace_of_quotes {content : String} (quotes : Quotes content written) (s : List Char) :
    skipSpace (written.toList ++ s) = written.toList ++ s := by
  obtain ⟨codes, _, same⟩ := quotes
  simp [same, skipSpace, isSpace]

/-- A member is read with its name and its value. -/
theorem member_of_spells (spelled : SpellsMember level written entry) (room : level ≤ depth)
    (closed : Closed rest) :
    member (value depth) (written.toList ++ rest) = some (entry, rest) := by
  -- The name is read first, then the colon, and the value is what its own text spells.
  obtain ⟨content, value⟩ := entry
  obtain ⟨name, found, rfl, quotes, spells⟩ := spelled
  have parts : (name ++ ":" ++ found).toList ++ rest =
      name.toList ++ ':' :: (found.toList ++ rest) := by
    simp
  have colon : literal ":" (skipSpace (':' :: (found.toList ++ rest))) =
      some ((), found.toList ++ rest) := by
    have one : ":".length = 1 := rfl
    simp [skipSpace, isSpace, literal, one]
  simp only [member, parts, skipSpace_of_quotes quotes, text_of_quotes quotes,
    Option.bind_eq_bind, Option.bind_some, colon, spells.reads depth room rest closed]

/-- Members with commas between them are read one by one up to the closing brace. -/
theorem separated_members (spelled : List.Forall₂ (SpellsMember level) members entries)
    (some : members ≠ []) (room : level ≤ depth) {fuel : Nat}
    (enough : (membersText members).length < fuel) (rest : List Char) :
    separated (member (value depth)) '\x7d' fuel (membersText members ++ '\x7d' :: rest) =
      .some (entries, rest) := by
  -- Each member takes some of the text, so the fuel lasts for those behind it.
  induction spelled generalizing fuel with
  | nil => exact absurd rfl some
  | @cons written entry members entries first others ih =>
    obtain ⟨fuel, rfl⟩ := Nat.exists_eq_add_of_lt (Nat.zero_lt_of_lt enough)
    rw [Nat.zero_add] at enough ⊢
    cases members with
    | nil =>
      cases others
      have read := member_of_spells first room (closed_brace rest)
      rw [membersText_singleton]
      simp [separated, read, skipSpace, isSpace]
    | cons next members =>
      rw [membersText_cons_cons, List.length_append, List.length_cons] at enough
      have shorter : (membersText (next :: members)).length < fuel := by omega
      have later := ih (List.cons_ne_nil _ _) shorter
      have read := member_of_spells first room
        (closed_comma (membersText (next :: members) ++ '\x7d' :: rest))
      rw [membersText_cons_cons, List.append_assoc, List.cons_append]
      simp [separated, read, skipSpace, isSpace, later]

/-- Members begin with the quote of the first name. -/
theorem exists_quote (spelled : List.Forall₂ (SpellsMember level) members entries)
    (some : members ≠ []) : ∃ behind, membersText members = '"' :: behind := by
  -- The first member begins with its name, and a name begins with a quote.
  cases spelled with
  | nil => exact absurd rfl some
  | cons first _ =>
    obtain ⟨name, found, rfl, ⟨codes, _, same⟩, _⟩ := first
    rw [membersText, List.map_cons, String.toList_append, String.toList_append, same]
    exact ⟨_, List.intercalate_cons_cons_left⟩

/-- Members are read up to the closing brace, also if there are none. -/
theorem enclosed_members (spelled : List.Forall₂ (SpellsMember level) members entries)
    (room : level ≤ depth) (rest : List Char) :
    enclosed (member (value depth)) '\x7d' (membersText members ++ '\x7d' :: rest) =
      some (entries, rest) := by
  -- An empty object is told by its brace, and any other one goes on with a member.
  by_cases none : members = []
  · subst none
    cases spelled
    rfl
  · obtain ⟨behind, same⟩ := exists_quote spelled none
    have enough : (membersText members).length <
        (membersText members ++ '\x7d' :: rest).length + 1 := by
      rw [List.length_append]
      omega
    have read := separated_members spelled none room enough rest
    -- The first character is a quote and no closing brace.
    rw [same, List.cons_append] at read ⊢
    rw [enclosed]
    exact read

/-- A member is seen in full when its value is. -/
theorem SpellsMember.visible (spelled : SpellsMember level written entry) :
    ∀ c ∈ written.toList, 0x20 ≤ c.toNat := by
  -- The name and the value are seen in full, and so is the colon between them.
  obtain ⟨name, found, rfl, quotes, spells⟩ := spelled
  rw [String.toList_append, String.toList_append, List.forall_mem_append, List.forall_mem_append]
  exact ⟨⟨visible_of_quotes quotes, by simp⟩, spells.visible⟩

/-- Members are seen in full when each of them is. -/
theorem visible_members (spelled : List.Forall₂ (SpellsMember level) members entries) :
    ∀ c ∈ membersText members, 0x20 ≤ c.toNat := by
  -- Behind each member but the last one there is a comma, which is seen too.
  induction spelled with
  | nil => simp [membersText]
  | @cons written entry members entries first others ih =>
    cases members with
    | nil =>
      rw [membersText_singleton]
      exact first.visible
    | cons next members =>
      rw [membersText_cons_cons, List.forall_mem_append, List.forall_mem_cons]
      exact ⟨first.visible, by decide, ih⟩

/-- Members between braces, with commas and without blanks. -/
def braced (members : List String) : String := "\x7b" ++ ",".intercalate members ++ "\x7d"

/-- The characters of members between braces. -/
theorem toList_braced (members : List String) :
    (braced members).toList = '\x7b' :: (membersText members ++ ['\x7d']) := by
  rw [braced, String.toList_append, String.toList_append, String.toList_intercalate]
  rfl

/-- A brace opens the members of an object, which lie one level deeper. -/
theorem value_brace (depth : Nat) (s : List Char) :
    value (depth + 1) ('\x7b' :: s) =
      (enclosed (member (value depth)) '\x7d' s).map fun (members, rest) =>
        (.object members, rest) := rfl

/-- Members between braces are an object of them in their order, one level above theirs. -/
theorem spells_braced (spelled : List.Forall₂ (SpellsMember level) members entries) :
    Spells (level + 1) (braced members) (.object entries) := by
  -- The braces are seen, and reading goes one level down for what is between them.
  constructor
  · rw [toList_braced, List.forall_mem_cons, List.forall_mem_append, List.forall_mem_singleton]
    exact ⟨by decide, visible_members spelled, by decide⟩
  · intro depth room rest _
    obtain ⟨more, rfl⟩ := Nat.exists_eq_add_of_le' room
    rw [toList_braced, List.cons_append, List.append_assoc, List.singleton_append,
      ← Nat.add_assoc, value_brace, enclosed_members spelled (Nat.le_add_left _ _)]
    rfl

/-- A line that spells a value is read as that value, if the value is not too deep for it. -/
theorem read?_of_spells {found : Value} (spells : Spells level written found)
    (room : level ≤ written.length + 2) : read? (written ++ "\n") = some found := by
  -- The reader may go as deep as the line is long, and only the line end is left behind the value.
  have length : (written ++ "\n").length + 1 = written.length + 2 := by
    rw [String.length_append]
    rfl
  have ended : Closed ['\n'] := by simp [Closed]
  have read := spells.reads _ room ['\n'] ended
  rw [read?, length, String.toList_append]
  have newline : "\n".toList = ['\n'] := rfl
  rw [newline, read]
  rfl

end MotorLink.Json
