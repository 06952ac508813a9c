import MotorLink.Proofs.Number.Shortest
import MotorLink.Proofs.Record.Printer

/-!
The printer of JSON that a run uses keeps what records rely on.

A decimal has digits on both sides of its point, so zeros may have to be added to it.
-/

namespace MotorLink

namespace Json.Read

/-- The first digits of a whole number are those of a whole number. -/
theorem Whole.take {run : List Char} (isWhole : Whole run) {count : Nat} (some : 0 < count) :
    Whole (run.take count) := by
  -- At least the first digit is left, and it alone decides.
  refine ⟨fun c listed => isWhole.digits c (List.mem_of_mem_take listed), ?_⟩
  obtain ⟨count, rfl⟩ := Nat.exists_eq_add_of_lt some
  rcases isWhole.lead with rfl | ⟨c, rest, rfl, nonzero⟩
  · left
    simp
  · exact .inr ⟨c, rest.take count, by simp, nonzero⟩

/-- Digits may follow those of a whole number other than zero. -/
theorem Whole.append {run more : List Char} (isWhole : Whole run) (some : run ≠ ['0'])
    (digits : ∀ c ∈ more, c.isDigit = true) : Whole (run ++ more) := by
  -- What comes behind does not change the first digit, and that is no zero.
  constructor
  · intro c listed
    rcases List.mem_append.mp listed with first | later
    · exact isWhole.digits c first
    · exact digits c later
  · rcases isWhole.lead with zero | ⟨c, rest, rfl, nonzero⟩
    · exact absurd zero some
    · exact .inr ⟨c, rest ++ more, List.cons_append, nonzero⟩

/-- Only zero is written as a zero alone. -/
theorem toDigits_eq_zero {n : Nat} (zero : Nat.toDigits 10 n = ['0']) : n = 0 := by
  -- Its digits give a number back.
  have value := Nat.ofDigitChars_ten_toDigits (n := n)
  rw [zero] at value
  exact value.symm

/-- A text has digits on both sides of a point, in front of it those of a whole number. -/
def Pointed (written : List Char) : Prop :=
  ∃ (whole : List Char) (places : Digits), Whole whole ∧ written = whole ++ '.' :: places.run

/-- A whole number with zeros behind it is one, unless they follow a zero. -/
theorem pointed_zeros (n : Nat) {zeros : Nat} (fit : 0 < n ∨ zeros = 0) :
    Pointed (Nat.toDigits 10 n ++ List.replicate zeros '0' ++ ['.', '0']) := by
  -- Behind the point there is one zero, whatever stands in front of it.
  have isWhole := whole_toDigits n
  refine ⟨_, ⟨['0'], by simp, by simp⟩, ?_, rfl⟩
  rcases Nat.eq_zero_or_pos zeros with none | some
  · rw [none, List.replicate_zero, List.append_nil]
    exact isWhole
  · apply isWhole.append
    · intro zero
      have none := toDigits_eq_zero zero
      omega
    · simp

/-- With zeros in front of it, a number has room for every place behind the point. -/
theorem pointed_padded (n : Nat) {count : Nat} (some : 0 < count) :
    let digits := Nat.toDigits 10 n
    let padded := List.replicate (count + 1 - digits.length) '0' ++ digits
    let whole := padded.length - count
    Pointed (padded.take whole ++ '.' :: padded.drop whole) := by
  intro digits padded whole
  have isWhole : Whole digits := whole_toDigits n
  have length : padded.length = count + 1 - digits.length + digits.length := by
    rw [List.length_append, List.length_replicate]
  have behind : padded.drop whole ≠ [] := by
    rw [Ne, List.drop_eq_nil_iff]
    omega
  have areDigits : ∀ c ∈ padded.drop whole, c.isDigit = true := by
    intro c listed
    rcases List.mem_append.mp (List.mem_of_mem_drop listed) with zero | digit
    · rw [(List.mem_replicate.mp zero).2]
      rfl
    · exact isWhole.digits c digit
  refine ⟨padded.take whole, ⟨_, behind, areDigits⟩, ?_, rfl⟩
  rcases Nat.lt_or_ge count digits.length with many | few
  · -- There are digits in front of the point.
    have none : padded = digits := by
      show List.replicate (count + 1 - digits.length) '0' ++ digits = digits
      rw [Nat.sub_eq_zero_of_le many, List.replicate_zero, List.nil_append]
    rw [none]
    apply isWhole.take
    omega
  · -- All digits are behind the point, and a zero stands in front of it.
    have one : whole = 1 := by omega
    have zeros : 0 < count + 1 - digits.length := by omega
    obtain ⟨others, more⟩ := Nat.exists_eq_add_of_lt zeros
    rw [one]
    show Whole ((List.replicate (count + 1 - digits.length) '0' ++ digits).take 1)
    rw [more, List.replicate_succ, List.cons_append, List.take_succ_cons, List.take_zero]
    exact ⟨by simp, .inl rfl⟩

end Json.Read

open Json.Read in
/-- A decimal is written with a point, unless zeros would follow a zero. -/
theorem Decimal.pointed_positional {d : Decimal} (fit : 0 < d.digits ∨ d.exponent ≤ 0) :
    Pointed d.positional.toList := by
  -- A power of ten puts zeros behind the digits, and a negative one puts the point among them.
  obtain ⟨n, exponent⟩ := d
  rw [Decimal.positional]
  dsimp only at fit ⊢
  by_cases large : 0 ≤ exponent
  · obtain ⟨zeros, rfl⟩ := Int.eq_ofNat_of_zero_le large
    have some : 0 < n ∨ zeros = 0 := by omega
    have pointed := pointed_zeros n some
    simpa using pointed
  · obtain ⟨count, rfl⟩ : ∃ count : Nat, exponent = -count := ⟨(-exponent).toNat, by omega⟩
    have some : 0 < count := by omega
    have pointed := pointed_padded n some
    rw [if_neg large]
    simpa using pointed

namespace Json

open Read

/-- A finite number is written as a decimal. -/
theorem exists_number {x : Single} (finite : x.isFinite = true) :
    ∃ d : Numeral, number x = d.text := by
  cases x with
  | nan => cases finite
  | number negative code =>
    have notInfinite : code ≠ Fin.last _ := by simpa [Binary.isFinite] using finite
    obtain ⟨d, written, fit⟩ : ∃ d : Decimal,
        Binary.positional? .even (.number negative code) =
            some ((if negative then "-" else "") ++ d.positional) ∧
          (0 < d.digits ∨ d.exponent ≤ 0) := by
      rw [Binary.positional?, if_neg notInfinite]
      -- Only zero has no digit other than zero, and it is written without a power of ten.
      rcases Nat.eq_zero_or_pos code.val with zero | some
      · exact ⟨⟨0, 0⟩, by simp [zero], .inr (Int.le_refl 0)⟩
      · refine ⟨BinaryFormat.single.shortest .even code.val, ?_, .inl ?_⟩
        · simp [Nat.ne_of_gt some]
        · exact BinaryFormat.firstGrid_pos some _ _ _
    obtain ⟨whole, places, isWhole, same⟩ := Decimal.pointed_positional fit
    refine ⟨⟨negative, whole, some places, none, isWhole⟩, ?_⟩
    rw [number, written, Option.getD_some, Numeral.text, ← String.toList_inj]
    cases negative <;> simp [Numeral.chars, signText, placesText, powerText, same]

/-- A character is written as one may write it. -/
theorem escapes_escape (c : Char) : Escapes c (escape c) := by
  -- One case for each letter, and the rest by whether the character is a control.
  unfold escape
  split
  · exact .quote
  · exact .backslash
  · exact .backspace
  · exact .formFeed
  · exact .newline
  · exact .carriageReturn
  · exact .tab
  · rename_i quote backslash _ _ _ _ _
    split
    · rename_i below
      exact .control below
    · rename_i above
      exact .plain (Nat.le_of_not_lt above) quote backslash

/-- A text is written between quotes. -/
theorem quotes_quoted (content : String) : Quotes content (quoted content) := by
  -- Every character has its own escape, and the quotes stand around all of them.
  refine ⟨content.toList.map escape, ?_, ?_⟩
  · rw [List.forall₂_map_right_iff, List.forall₂_same]
    exact fun c _ => escapes_escape c
  · simp [quoted, List.flatMap_def]

/-- The printer that a run uses keeps what records rely on. -/
theorem Printer.lawful_standard : Printer.standard.Lawful where
  text content := ⟨quoted content, rfl, quotes_quoted content⟩
  natural _ := rfl
  single finite := by
    obtain ⟨d, written⟩ := exists_number finite
    exact ⟨d, congrArg Except.ok written⟩
  record {fields members} printed := by
    -- The member of a field is the one that the printer writes for it.
    have same : members = fields.map fun field => quoted field.1 ++ ":" ++ Json.plain field.2 := by
      induction printed with
      | nil => rfl
      | cons first _ ih =>
        obtain ⟨name, value, printedName, printedValue, rfl⟩ := first
        rw [List.map_cons, ← ih, ← Except.ok.inj printedName, ← Except.ok.inj printedValue]
        rfl
    apply congrArg Except.ok
    rw [same, Json.record, object, braced, List.map_map]
    rfl

end Json

end MotorLink
