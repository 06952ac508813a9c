import MotorLink.Number.Shortest
import MotorLink.Proofs.Number.Rounding

/-! The shortest decimal of a number is zero only for zero. -/

namespace MotorLink.BinaryFormat

variable {format : BinaryFormat} {code : Nat}

/-- A code other than zero has some magnitude. -/
theorem units_pos (some : 0 < code) : 0 < format.units code :=
  Nat.lt_of_le_of_lt (Nat.zero_le _) (format.units_strictMono some)

/-- Zero does not read back as any other code. -/
theorem readsBack_zero (some : 0 < code) {den : Nat} (positive : 0 < den) :
    format.readsBack code 0 den = false := by
  -- The lower end of what reads back lies halfway to the code before, and that is above zero.
  have low : 0 < (format.units (code - 1) + format.units code) * den := by
    apply Nat.mul_pos ?_ positive
    exact Nat.lt_of_lt_of_le (units_pos some) (Nat.le_add_left _ _)
  rw [readsBack]
  split
  · rw [decide_eq_false (Nat.not_le_of_lt low), Bool.false_and]
  · rw [decide_eq_false (Nat.not_lt_of_lt low), Bool.false_and]

/-- What a grid holds for a code other than zero is not zero. -/
theorem onGrid?_pos (some : 0 < code) {tie : DecimalTie} {exponent : Int} {digits : Nat}
    (found : format.onGrid? tie code exponent = .some digits) : 0 < digits := by
  have positive : 0 < Nat.pow 10 (-exponent).toNat := Nat.pow_pos (by decide)
  unfold onGrid? at found
  dsimp only at found
  obtain ⟨below, same⟩ : ∃ below, 2 * format.units code * Nat.pow 10 (-exponent).toNat /
      (2 * format.unitsPerOne * Nat.pow 10 exponent.toNat) = below := ⟨_, rfl⟩
  rw [same] at found
  -- The multiple below is not taken where it is zero, for zero does not read back.
  have taken : format.readsBack code (below * (2 * format.unitsPerOne * Nat.pow 10 exponent.toNat))
      (Nat.pow 10 (-exponent).toNat) = true → 0 < below := by
    intro reads
    apply Nat.pos_of_ne_zero
    intro zero
    rw [zero, Nat.zero_mul, readsBack_zero some positive] at reads
    cases reads
  split at found
  · cases found
  · rename_i reads _
    rw [← Option.some.inj found]
    exact taken reads
  · rw [← Option.some.inj found]
    exact Nat.succ_pos below
  · rename_i reads _
    have nonzero := taken reads
    split_ifs at found
    · rw [← Option.some.inj found]
      exact nonzero
    · rw [← Option.some.inj found]
      exact Nat.succ_pos below
    · split at found <;> rw [← Option.some.inj found] <;> omega

/-- Whichever grid is the first to hold a decimal, it is not zero for a code other than zero. -/
theorem firstGrid_pos (some : 0 < code) (tie : DecimalTie) (steps : Nat) (exponent : Int) :
    0 < (format.firstGrid tie code steps exponent).digits := by
  -- Grid by grid: either this one holds a decimal, or a finer one does, or the code itself is left.
  induction steps generalizing exponent with
  | zero => exact units_pos some
  | succ steps ih =>
    rw [firstGrid]
    cases found : format.onGrid? tie code exponent with
    | none => exact ih (exponent - 1)
    | some digits => exact onGrid?_pos some found

end MotorLink.BinaryFormat
