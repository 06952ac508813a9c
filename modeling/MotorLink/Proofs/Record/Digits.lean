import MotorLink.Proofs.Record.Reader

/-!
Numbers in JSON: whatever parts a number is written in, it is read back as what they stand for.

A number has digits in front of the point; sign, places and power of ten may be left out.
-/

namespace MotorLink.Json

/-- At least one digit. -/
structure Digits where
  run : List Char
  some : run ≠ []
  digits : ∀ c ∈ run, c.isDigit = true

/-- A power of ten, which may be a negative one. -/
structure Power where
  negative : Bool
  digits : Digits

namespace Read

/-- What follows a number does not go on with it. -/
def Closed (s : List Char) : Prop :=
  ∀ c ∈ s.head?, c.isDigit = false ∧ c ≠ '.' ∧ c ≠ 'e' ∧ c ≠ 'E'

/-- Digits of a whole number: at least one, and no zero in front of others. -/
structure Whole (run : List Char) : Prop where
  digits : ∀ c ∈ run, c.isDigit = true
  lead : run = ['0'] ∨ ∃ c rest, run = c :: rest ∧ c ≠ '0'

/-- The digits of a natural number are those of a whole number. -/
theorem whole_toDigits (n : Nat) : Whole (Nat.toDigits 10 n) := by
  refine ⟨fun c listed => Nat.isDigit_of_mem_toDigits (by decide) (by decide) listed, ?_⟩
  -- The first digit is that of the number without its last digit, as long as there is another.
  induction n using Nat.strongRecOn with
  | ind n ih =>
    by_cases short : n < 10
    · rw [Nat.toDigits_of_lt_base short]
      by_cases zero : n = 0
      · left
        rw [zero]
        rfl
      · exact .inr ⟨_, [], rfl, by simpa using zero⟩
    · rw [Nat.toDigits_of_base_le (by decide) (by omega)]
      right
      rcases ih (n / 10) (by omega) with zero | ⟨c, rest, digits, nonzero⟩
      · have value := Nat.ofDigitChars_ten_toDigits (n := n / 10)
        rw [zero] at value
        have none : 0 = n / 10 := value
        omega
      · exact ⟨c, rest ++ [(n % 10).digitChar], by rw [digits, List.cons_append], nonzero⟩

variable {run s rest : List Char}

/-- A run of digits is read up to the first other character. -/
theorem digits_append (ofDigits : ∀ c ∈ run, c.isDigit = true) (some : run ≠ [])
    (ended : ∀ c ∈ rest.head?, c.isDigit = false) :
    digits (run ++ rest) = .some (run, rest) := by
  -- What follows begins with no digit, so nothing of it is taken along.
  have none : rest.takeWhile Char.isDigit = [] ∧ rest.dropWhile Char.isDigit = rest := by
    cases rest with
    | nil => exact ⟨rfl, rfl⟩
    | cons c rest =>
      have other := ended c rfl
      simp [other]
  simp [digits, List.takeWhile_append_of_pos ofDigits, List.dropWhile_append_of_pos ofDigits, none,
    some]

/-- A whole number is read up to the first character that is no digit. -/
theorem wholeDigits_append (isWhole : Whole run) (ended : ∀ c ∈ rest.head?, c.isDigit = false) :
    wholeDigits (run ++ rest) = some (run, rest) := by
  rcases isWhole.lead with rfl | ⟨c, others, rfl, nonzero⟩
  · -- Behind a zero no digit is looked for.
    rfl
  · have read := digits_append isWhole.digits (List.cons_ne_nil c others) ended
    rw [List.cons_append] at read ⊢
    rw [wholeDigits, read]
    intro after same
    exact nonzero (List.cons.inj same).1

/-- A digit is no other character. -/
theorem ne_of_isDigit {c other : Char} (digit : c.isDigit = true) (none : other.isDigit = false) :
    c ≠ other := by
  intro same
  rw [same, none] at digit
  exact Bool.false_ne_true digit

/-- A digit is seen. -/
theorem visible_of_isDigit {c : Char} (digit : c.isDigit = true) : 0x20 ≤ c.toNat :=
  Nat.le_trans (by decide) (Char.isDigit_iff_toNat.mp digit).1

end Read

/-- The sign of a number, where only a minus is written. -/
def signText (negative : Bool) : List Char := if negative then ['-'] else []

/-- The places of a number behind their point, if it has any. -/
def placesText : Option Digits → List Char
  | none => []
  | some places => '.' :: places.run

/-- The power of ten of a number behind its mark, if it has one. -/
def powerText : Option Power → List Char
  | none => []
  | some power => 'e' :: (signText power.negative ++ power.digits.run)

/-- A number in the parts that it is written in. -/
structure Numeral where
  negative : Bool
  whole : List Char
  places : Option Digits
  power : Option Power
  isWhole : Read.Whole whole

namespace Numeral

/-- The characters of a number. -/
def chars (d : Numeral) : List Char :=
  signText d.negative ++ (d.whole ++ (placesText d.places ++ powerText d.power))

/-- The text of a number. -/
def text (d : Numeral) : String := String.ofList d.chars

/-- The exponent of the power of ten of a number. -/
def exponent (d : Numeral) : Int :=
  match d.power with
  | none => 0
  | some power =>
    let magnitude : Int := Nat.ofDigitChars 10 power.digits.run 0
    if power.negative then -magnitude else magnitude

/-- What a number stands for. -/
def value (d : Numeral) : Rat :=
  let magnitude := Read.scaled d.whole (d.places.elim [] Digits.run) d.exponent
  if d.negative then -magnitude else magnitude

end Numeral

namespace Read

variable {rest : List Char}

/-- What follows the digits of a number in front of its power of ten. -/
def Parted (s : List Char) : Prop := ∀ c ∈ s.head?, c.isDigit = false ∧ c ≠ '.'

/-- Behind the places of a number comes its power of ten, or what follows the number. -/
theorem parted_powerText (power : Option Power) (closed : Closed rest) :
    Parted (powerText power ++ rest) := by
  cases power with
  | none => exact fun c first => ⟨(closed c first).1, (closed c first).2.1⟩
  | some power => simp [Parted, powerText]

/-- Where no power of ten is written, none is read. -/
theorem exponent_of_closed (closed : Closed rest) : exponent rest = some (0, rest) := by
  -- Neither letter of an exponent may stand here.
  cases rest with
  | nil => rfl
  | cons c rest =>
    obtain ⟨_, _, lower, upper⟩ := closed c rfl
    unfold exponent
    split
    · rename_i same
      exact absurd (List.cons.inj same).1 lower
    · rename_i same
      exact absurd (List.cons.inj same).1 upper
    · rfl

/-- A sign is read off the digits that follow it. -/
theorem sign_signText (negative : Bool) (run : Digits) :
    Toml.sign (signText negative ++ run.run ++ rest) = (negative, run.run ++ rest) := by
  -- Without a minus the first character is a digit, which is taken for no sign.
  cases negative with
  | true => rfl
  | false =>
    obtain ⟨run, some, digits⟩ := run
    cases run with
    | nil => exact absurd rfl some
    | cons c others =>
      have digit := digits c List.mem_cons_self
      have plus : c ≠ '+' := ne_of_isDigit digit rfl
      have minus : c ≠ '-' := ne_of_isDigit digit rfl
      unfold Toml.sign
      split
      · rename_i same
        exact absurd (List.cons.inj same).1 plus
      · rename_i same
        exact absurd (List.cons.inj same).1 minus
      · rfl

/-- The power of ten of a number is read. -/
theorem exponent_powerText (d : Numeral) (closed : Closed rest) :
    exponent (powerText d.power ++ rest) = some (d.exponent, rest) := by
  rw [Numeral.exponent]
  -- Behind the letter there are a sign and digits, and both are read as written.
  cases d.power with
  | none => exact exponent_of_closed closed
  | some power =>
    have ended : ∀ c ∈ rest.head?, c.isDigit = false := fun c first => (closed c first).1
    have read := digits_append power.digits.digits power.digits.some ended
    show exponent ('e' :: (signText power.negative ++ power.digits.run ++ rest)) = _
    simp only [exponent, sign_signText, read, Option.bind_eq_bind, Option.bind_some]

/-- The places of a number are read. -/
theorem fraction_placesText (places : Option Digits) (parted : Parted rest) :
    fraction (placesText places ++ rest) = some (places.elim [] Digits.run, rest) := by
  -- Without places no point may follow, or it would be read as theirs.
  cases places with
  | none =>
    show fraction rest = some ([], rest)
    unfold fraction
    split
    · exact absurd rfl (parted '.' rfl).2
    · rfl
  | some places => exact digits_append places.digits places.some fun c first => (parted c first).1

/-- A number without a sign is read. -/
theorem magnitude_numeral (d : Numeral) (closed : Closed rest) :
    magnitude (d.whole ++ (placesText d.places ++ powerText d.power) ++ rest) =
      some (scaled d.whole (d.places.elim [] Digits.run) d.exponent, rest) := by
  have parted := parted_powerText d.power closed
  have ended : ∀ c ∈ (placesText d.places ++ (powerText d.power ++ rest)).head?,
      c.isDigit = false := by
    cases d.places with
    | none => exact fun c first => (parted c first).1
    | some places => simp [placesText]
  -- The three parts are read one after the other, each up to where the next one begins.
  rw [List.append_assoc, List.append_assoc, magnitude, wholeDigits_append d.isWhole ended]
  simp only [Option.bind_eq_bind, Option.bind_some, fraction_placesText d.places parted,
    exponent_powerText d closed]

/-- A number begins with a digit, or with a minus in front of one. -/
theorem chars_eq_cons (d : Numeral) :
    ∃ c others, c.isDigit = true ∧ d.chars = signText d.negative ++ c :: others := by
  -- A whole number has at least one digit, be it a zero.
  obtain ⟨c, others, same⟩ : ∃ c others, d.whole = c :: others := by
    rcases d.isWhole.lead with zero | ⟨c, others, same, _⟩
    · exact ⟨'0', [], zero⟩
    · exact ⟨c, others, same⟩
  refine ⟨c, others ++ (placesText d.places ++ powerText d.power), ?_, ?_⟩
  · exact d.isWhole.digits c (same ▸ List.mem_cons_self)
  · rw [Numeral.chars, same, List.cons_append]

/-- A number is read. -/
theorem number_numeral (d : Numeral) (closed : Closed rest) :
    number (d.chars ++ rest) = some (d.value, rest) := by
  have read := magnitude_numeral d closed
  obtain ⟨c, others, digit, start⟩ := chars_eq_cons d
  rw [Numeral.value]
  rw [Numeral.chars] at start ⊢
  -- A minus is looked for first; without one the number begins with a digit.
  cases negative : d.negative with
  | true =>
    show (magnitude (d.whole ++ (placesText d.places ++ powerText d.power) ++ rest)).map _ = _
    rw [read]
    rfl
  | false =>
    rw [negative] at start
    have unsigned : d.whole ++ (placesText d.places ++ powerText d.power) = c :: others := start
    have minus : c ≠ '-' := ne_of_isDigit digit rfl
    show number (d.whole ++ (placesText d.places ++ powerText d.power) ++ rest) = _
    rw [unsigned, List.cons_append] at read ⊢
    unfold number
    split
    · rename_i same
      exact absurd (List.cons.inj same).1 minus
    · exact read

/-- A sign is seen. -/
theorem visible_signText (negative : Bool) : ∀ c ∈ signText negative, 0x20 ≤ c.toNat := by
  cases negative with
  | true => simp [signText]
  | false => simp [signText]

/-- Digits are seen. -/
theorem visible_digits (run : Digits) : ∀ c ∈ run.run, 0x20 ≤ c.toNat :=
  fun c listed => visible_of_isDigit (run.digits c listed)

/-- A number is seen in full. -/
theorem visible_chars (d : Numeral) : ∀ c ∈ d.chars, 0x20 ≤ c.toNat := by
  have places : ∀ c ∈ placesText d.places, 0x20 ≤ c.toNat := by
    cases d.places with
    | none => simp [placesText]
    | some places =>
      rw [placesText, List.forall_mem_cons]
      exact ⟨by decide, visible_digits places⟩
  have power : ∀ c ∈ powerText d.power, 0x20 ≤ c.toNat := by
    cases d.power with
    | none => simp [powerText]
    | some power =>
      rw [powerText, List.forall_mem_cons, List.forall_mem_append]
      exact ⟨by decide, visible_signText power.negative, visible_digits power.digits⟩
  -- A number is made of its sign, its digits, its places and its power.
  rw [Numeral.chars, List.forall_mem_append, List.forall_mem_append, List.forall_mem_append]
  refine ⟨visible_signText d.negative, ?_, places, power⟩
  exact fun c listed => visible_of_isDigit (d.isWhole.digits c listed)

end Read

end MotorLink.Json
