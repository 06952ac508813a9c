import MotorLink.Frame.Command

/-! Special commands: which of them have a code, and how great the codes are. -/

namespace MotorLink.Command

/-- A command with a beep count or a light that there is no code for, and the error it comes to. -/
inductive IsOutOfRange : Command → CommandError → Prop
  | beep {count : Nat} (outside : count < 1 ∨ 5 < count) :
    IsOutOfRange (.beep count) (.beepCount count)
  | led {id : Nat} {enabled : Bool} (outside : 3 < id) :
    IsOutOfRange (.led id enabled) (.ledId id)

variable {command : Command}

/-- The commands without a code are those whose parameter is out of range, which the error names. -/
theorem code_eq_error_iff {error : CommandError} :
    command.code = .error error ↔ command.IsOutOfRange error := by
  constructor
  · intro refused
    unfold code at refused
    -- Only counts and lights are checked at all.
    split at refused <;> try cases refused
    · split at refused <;> cases refused
      exact .beep (by omega)
    · split at refused <;> cases refused
      exact .led (by omega)
  · intro outside
    cases outside with
    | beep outside => exact if_neg (by omega)
    | led outside => exact if_neg (by omega)

/-- Whatever has a code of its own has that of a special command. -/
theorem code_le {code : Nat} (coded : command.code = .ok code) : code ≤ maxCode := by
  unfold Command.code at coded
  unfold maxCode
  -- Counts and lights have a code only in their range, which keeps their codes small.
  split at coded <;> grind

end MotorLink.Command
