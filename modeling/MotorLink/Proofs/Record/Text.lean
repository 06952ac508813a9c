import Mathlib.Data.List.Forall2
import MotorLink.Proofs.Record.Reader

/-!
Texts in JSON: whatever they hold, they are seen in full, and they are read back.

A text between quotes has an escape for quotes, backslashes and control characters alone.
-/

namespace MotorLink.Json

/-- How a character is written in a text: as it is, by a letter, or by the digits of its number. -/
inductive Escapes : Char → List Char → Prop
  | quote : Escapes '"' ['\\', '"']
  | backslash : Escapes '\\' ['\\', '\\']
  | backspace : Escapes '\x08' ['\\', 'b']
  | formFeed : Escapes '\x0c' ['\\', 'f']
  | newline : Escapes '\n' ['\\', 'n']
  | carriageReturn : Escapes '\r' ['\\', 'r']
  | tab : Escapes '\t' ['\\', 't']
  | control {c : Char} (below : c.toNat < 0x20) :
    Escapes c ['\\', 'u', '0', '0', (c.toNat / 16).digitChar, (c.toNat % 16).digitChar]
  | plain {c : Char} (noControl : 0x20 ≤ c.toNat) (noQuote : c ≠ '"') (noBackslash : c ≠ '\\') :
    Escapes c [c]

/-- A text is written between quotes, character by character. -/
def Quotes (content written : String) : Prop :=
  ∃ codes, List.Forall₂ Escapes content.toList codes ∧
    written.toList = '"' :: (codes.flatten ++ ['"'])

namespace Read

open Toml (fixedDigits)

variable {c : Char} {code : List Char}

/-- As many digits as are asked for are read off whatever follows them. -/
theorem fixedDigits_append (base : Nat) (digits rest : List Char) :
    fixedDigits base digits.length (digits ++ rest) =
      (fixedDigits base digits.length digits).map fun (n, _) => (n, rest) := by
  simp only [fixedDigits, List.take_left, List.take_length, List.drop_left]
  -- What the digits are read as depends on them alone, and the rest is handed on.
  cases digits.mapM (Toml.digitValue? base) with
  | none => rfl
  | some values =>
    dsimp only
    split <;> rfl

/-- The four digits of a control character are seen, and they are those of its number. -/
theorem control_digits : ∀ n < 0x20,
    let digits := ['0', '0', (n / 16).digitChar, (n % 16).digitChar]
    fixedDigits 16 4 digits = some (n, []) ∧ digits.all (fun c => 0x20 ≤ c.toNat) = true := by
  -- There are few control characters, and each of them is checked.
  decide +kernel

/-- The code point of a control character is read back. -/
theorem codePoint_control (control : c.toNat < 0x20) (s : List Char) :
    codePoint (['0', '0', (c.toNat / 16).digitChar, (c.toNat % 16).digitChar] ++ s) =
      some (c, s) := by
  obtain ⟨found, _⟩ := control_digits c.toNat control
  have digits := fixedDigits_append 16
    ['0', '0', (c.toNat / 16).digitChar, (c.toNat % 16).digitChar] s
  have length : ['0', '0', (c.toNat / 16).digitChar, (c.toNat % 16).digitChar].length = 4 := rfl
  rw [length, found] at digits
  -- The four digits give the code point of a character, so it is a valid one.
  have valid : c.toNat.isValidChar := c.valid
  simp only [codePoint, digits, Option.map_some, Option.bind_eq_bind, Option.bind_some,
    if_pos valid, Char.ofNat_toNat]

/-- A character whose escape is read is the next one of a text. -/
theorem characters_of_escaped (code : List Char) {s : List Char}
    (read : escaped (code ++ s) = some (c, s)) (fuel : Nat) :
    characters (fuel + 1) ('\\' :: code ++ s) =
      (characters fuel s).map fun (others, rest) => (c :: others, rest) := by
  rw [List.cons_append, characters, if_neg (by decide), if_pos (by decide), read,
    Option.bind_eq_bind, Option.bind_some]
  dsimp only
  -- Whatever comes of the others, the character is put in front of it.
  cases characters fuel s <;> rfl

/-- However a character is written, it is read back as the next one of a text. -/
theorem characters_of_escapes (escapes : Escapes c code) (fuel : Nat) (s : List Char) :
    characters (fuel + 1) (code ++ s) =
      (characters fuel s).map fun (others, rest) => (c :: others, rest) := by
  cases escapes with
  -- Each short escape has a letter of its own.
  | quote => exact characters_of_escaped ['"'] rfl fuel
  | backslash => exact characters_of_escaped ['\\'] rfl fuel
  | backspace => exact characters_of_escaped ['b'] rfl fuel
  | formFeed => exact characters_of_escaped ['f'] rfl fuel
  | newline => exact characters_of_escaped ['n'] rfl fuel
  | carriageReturn => exact characters_of_escaped ['r'] rfl fuel
  | tab => exact characters_of_escaped ['t'] rfl fuel
  | control below =>
    exact characters_of_escaped ('u' :: ['0', '0', (c.toNat / 16).digitChar,
      (c.toNat % 16).digitChar]) (codePoint_control below s) fuel
  | plain noControl noQuote noBackslash =>
    rw [List.singleton_append, characters, if_neg (by simpa using noQuote),
      if_neg (by simpa using noBackslash), if_neg (Nat.not_lt.mpr noControl)]
    cases characters fuel s <;> rfl

variable {cs : List Char} {codes : List (List Char)}

/-- All characters of a text are read back up to the closing quote. -/
theorem characters_flatten (escapes : List.Forall₂ Escapes cs codes) (rest : List Char) {fuel : Nat}
    (enough : cs.length < fuel) :
    characters fuel (codes.flatten ++ '"' :: rest) = some (cs, rest) := by
  -- Each character takes one step of the fuel, and the closing quote takes the last.
  induction escapes generalizing fuel with
  | nil =>
    obtain ⟨fuel, rfl⟩ := Nat.exists_eq_add_of_lt enough
    rfl
  | @cons c code cs codes first _ ih =>
    rw [List.length_cons] at enough
    obtain ⟨fuel, rfl⟩ := Nat.exists_eq_add_of_lt (Nat.zero_lt_of_lt enough)
    rw [Nat.zero_add, List.flatten_cons, List.append_assoc, characters_of_escapes first,
      ih (by omega)]
    rfl

/-- A character is written in at least one. -/
theorem length_pos_of_escapes (escapes : Escapes c code) : 0 < code.length := by
  cases escapes <;> exact Nat.zero_lt_succ _

/-- A text is not written in fewer characters than it has. -/
theorem length_le_flatten (escapes : List.Forall₂ Escapes cs codes) :
    cs.length ≤ codes.flatten.length := by
  -- No escape is empty, so each character adds at least one.
  induction escapes with
  | nil => exact Nat.le_refl 0
  | cons first _ ih =>
    have some := length_pos_of_escapes first
    rw [List.flatten_cons, List.length_append, List.length_cons]
    omega

/-- A written text is read back. -/
theorem text_of_quotes {content written : String} (quotes : Quotes content written)
    (rest : List Char) : text (written.toList ++ rest) = some (content, rest) := by
  obtain ⟨codes, escapes, same⟩ := quotes
  have shape : written.toList ++ rest = '"' :: (codes.flatten ++ '"' :: rest) := by
    simp [same]
  -- The fuel is the length of what is read, and there are no more characters than that.
  have enough := length_le_flatten escapes
  rw [shape, text, characters_flatten escapes]
  · simp
  · rw [List.length_append]
    omega

/-- What a character is written as is seen in full. -/
theorem visible_of_escapes (escapes : Escapes c code) : ∀ x ∈ code, 0x20 ≤ x.toNat := by
  -- A character that stands for itself is no control, and an escape is made of visible ones.
  cases escapes with
  | control below =>
    obtain ⟨_, visible⟩ := control_digits c.toNat below
    simpa using visible
  | plain noControl _ _ =>
    rw [List.forall_mem_singleton]
    exact noControl
  | _ => simp

/-- What characters are written as is seen in full. -/
theorem visible_flatten (escapes : List.Forall₂ Escapes cs codes) :
    ∀ x ∈ codes.flatten, 0x20 ≤ x.toNat := by
  induction escapes with
  | nil => simp
  | cons first _ ih =>
    rw [List.flatten_cons, List.forall_mem_append]
    exact ⟨visible_of_escapes first, ih⟩

/-- A written text is seen in full. -/
theorem visible_of_quotes {content written : String} (quotes : Quotes content written) :
    ∀ x ∈ written.toList, 0x20 ≤ x.toNat := by
  obtain ⟨codes, escapes, same⟩ := quotes
  rw [same, List.forall_mem_cons, List.forall_mem_append, List.forall_mem_singleton]
  exact ⟨by decide, visible_flatten escapes, by decide⟩

end Read

end MotorLink.Json
