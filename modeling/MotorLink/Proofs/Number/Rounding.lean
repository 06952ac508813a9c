import Mathlib.Algebra.Order.Ring.Nat
import Mathlib.Data.Nat.Log
import MotorLink.Number.Binary

/-! Rounding: it keeps the order of what is rounded, and leaves what a format has as it is. -/

namespace MotorLink

namespace BinaryFormat

/-- A quotient is rounded to one of the two whole numbers that it lies between. -/
theorem roundHalfEven_bounds (num den : Nat) :
    num / den ≤ roundHalfEven num den ∧ roundHalfEven num den ≤ num / den + 1 := by
  unfold roundHalfEven
  dsimp only
  split
  · omega
  · split <;> omega

/-- A larger quotient is not rounded to a smaller number. -/
theorem roundHalfEven_mono {num num' : Nat} (den : Nat) (le : num ≤ num') :
    roundHalfEven num den ≤ roundHalfEven num' den := by
  have quotients : num / den ≤ num' / den := Nat.div_le_div_right le
  have lower := roundHalfEven_bounds num den
  have upper := roundHalfEven_bounds num' den
  by_cases same : num / den = num' / den
  · -- Between the same two numbers the remainder decides.
    have remainders : num % den ≤ num' % den := by
      have first := Nat.div_add_mod num den
      have second := Nat.div_add_mod num' den
      rw [same] at first
      omega
    simp only [roundHalfEven, same]
    split_ifs <;> omega
  · omega

/-- A whole quotient is not changed by rounding. -/
theorem roundHalfEven_mul {den : Nat} (positive : 0 < den) (whole : Nat) :
    roundHalfEven (whole * den) den = whole := by
  simp [roundHalfEven, Nat.mul_div_cancel whole positive, positive]

/-- A number that ends in zeros loses nothing when fewer of them are cut off. -/
theorem roundHalfEven_shifted {digits shift fewer den : Nat} (positive : 0 < den)
    (enough : fewer ≤ shift) :
    roundHalfEven (digits * 2 ^ shift * den) (den * 2 ^ fewer) * 2 ^ fewer =
      digits * 2 ^ shift := by
  obtain ⟨rest, rfl⟩ := Nat.exists_eq_add_of_le enough
  -- What is cut off is part of the zeros, so the quotient is whole.
  have whole : digits * 2 ^ (fewer + rest) * den = digits * 2 ^ rest * (den * 2 ^ fewer) := by
    rw [Nat.pow_add]
    ac_rfl
  rw [whole, roundHalfEven_mul (Nat.mul_pos positive (Nat.two_pow_pos _)), Nat.pow_add]
  ac_rfl

variable (format : BinaryFormat)

/-- The number of codes that share a shift: one for each content of the fraction field. -/
def step : Nat := 2 ^ format.fractionBits

/-- The fraction field has room for zero. -/
theorem step_pos : 0 < format.step := Nat.two_pow_pos _

/-- Codes below the first step are their own magnitude. -/
theorem units_of_lt {code : Nat} (small : code < format.step) : format.units code = code := by
  rw [step] at small
  rw [units, Nat.shiftLeft_eq, Nat.one_mul]
  exact if_pos small

/-- From the first step on, a code stands for a whole step and its rest, shifted. -/
theorem units_of_rest (shift : Nat) {rest : Nat} (small : rest < format.step) :
    format.units ((shift + 1) * format.step + rest) = (format.step + rest) * 2 ^ shift := by
  have positive := format.step_pos
  -- The shift is one less than the whole steps, and the rest stands behind the hidden bit.
  have quotient : ((shift + 1) * format.step + rest) / format.step = shift + 1 := by
    rw [Nat.add_comm, Nat.add_mul_div_right _ _ positive, Nat.div_eq_of_lt small, Nat.zero_add]
  have remainder : ((shift + 1) * format.step + rest) % format.step = rest := by
    rw [Nat.add_comm, Nat.add_mul_mod_self_right, Nat.mod_eq_of_lt small]
  have above : ¬ (shift + 1) * format.step + rest < format.step := by
    rw [Nat.add_mul]
    omega
  rw [step] at quotient remainder above
  simp only [units, Nat.shiftLeft_eq, Nat.one_mul, step]
  rw [if_neg above, quotient, remainder, Nat.add_sub_cancel]

/--
Some digits are the digits of a shift when they are as many as the fraction field and its mark hold.

Without a shift they may be fewer; one more than all that fit is the first number of the next shift.
-/
structure Fills (shift digits : Nat) : Prop where
  most : digits ≤ 2 * format.step
  least : shift = 0 ∨ format.step ≤ digits

/-- The code of some digits in their shift stands for the digits, shifted. -/
theorem units_of_fills {shift digits : Nat} (fills : format.Fills shift digits) :
    format.units (shift * format.step + digits) = digits * 2 ^ shift := by
  have positive := format.step_pos
  obtain ⟨most, least⟩ := fills
  rcases Nat.lt_or_ge digits format.step with few | enough
  · -- So few digits stand without a shift.
    have none : shift = 0 := by omega
    rw [none, Nat.zero_mul, Nat.zero_add, Nat.pow_zero, Nat.mul_one]
    exact format.units_of_lt few
  · rcases Nat.lt_or_ge digits (2 * format.step) with fit | full
    · -- The digits are a step and a rest.
      have small : digits - format.step < format.step := by omega
      have whole : format.step + (digits - format.step) = digits := by omega
      have magnitude := format.units_of_rest shift small
      rw [Nat.add_mul, Nat.one_mul, Nat.add_assoc, whole] at magnitude
      exact magnitude
    · -- Two steps are one step of the next shift.
      have two : digits = 2 * format.step := by omega
      have next := format.units_of_rest (shift + 1) positive
      rw [Nat.add_zero, Nat.add_zero] at next
      rw [two, ← Nat.add_mul, next, Nat.pow_succ]
      ac_rfl

/-- Every code is that of some digits in their shift, and there is room for one more. -/
theorem exists_fills (code : Nat) :
    ∃ shift digits, code = shift * format.step + digits ∧ format.Fills shift digits ∧
      format.Fills shift (digits + 1) := by
  have positive := format.step_pos
  have parts := Nat.div_add_mod' code format.step
  have below := Nat.mod_lt code positive
  rcases Nat.eq_zero_or_pos (code / format.step) with none | some
  · -- Below the first step the code is the digits.
    rw [none, Nat.zero_mul, Nat.zero_add] at parts
    exact ⟨0, code, by omega, ⟨by omega, .inl rfl⟩, ⟨by omega, .inl rfl⟩⟩
  · -- Each further step is one more shift.
    obtain ⟨shift, above⟩ := Nat.exists_eq_add_of_lt some
    rw [Nat.zero_add] at above
    rw [above, Nat.add_mul, Nat.one_mul] at parts
    exact ⟨shift, format.step + code % format.step, by omega, ⟨by omega, .inr (by omega)⟩,
      ⟨by omega, .inr (by omega)⟩⟩

/-- Greater codes stand for greater magnitudes. -/
theorem units_strictMono : StrictMono format.units := by
  apply strictMono_nat_of_lt_succ
  intro code
  -- The next code has one digit more in the same shift.
  obtain ⟨shift, digits, rfl, fills, more⟩ := format.exists_fills code
  rw [Nat.add_assoc, format.units_of_fills fills, format.units_of_fills more]
  exact Nat.mul_lt_mul_of_pos_right (Nat.lt_succ_self digits) (Nat.two_pow_pos shift)

/-- The shift that a quotient in units needs. -/
def shiftOf (num den : Nat) : Nat := Nat.log2 (num / den) - format.fractionBits

/-- The digits that are left of a quotient in units when it is rounded in its shift. -/
def digitsOf (num den : Nat) : Nat := roundHalfEven num (den * 2 ^ format.shiftOf num den)

/-- The nearest code is that of the rounded digits, unless it would lie beyond infinity. -/
theorem nearestCode_eq (num den : Nat) :
    format.nearestCode num den =
      min (format.shiftOf num den * format.step + format.digitsOf num den) format.infinityCode := by
  simp only [nearestCode, shiftOf, digitsOf, step, Nat.shiftLeft_eq]

/-- The rounded digits of a quotient are digits of its shift. -/
theorem fills_of_quotient (num den : Nat) :
    format.Fills (format.shiftOf num den) (format.digitsOf num den) := by
  have bounds := roundHalfEven_bounds num (den * 2 ^ format.shiftOf num den)
  rw [← Nat.div_div_eq_div_mul] at bounds
  rw [← digitsOf] at bounds
  have below : num / den < 2 ^ (Nat.log2 (num / den) + 1) := Nat.lt_log2_self
  constructor
  · -- The shift is large enough for what the quotient has beyond the field.
    have short : num / den / 2 ^ format.shiftOf num den < 2 * format.step := by
      rw [Nat.div_lt_iff_lt_mul (Nat.two_pow_pos _), step, ← Nat.pow_succ', ← Nat.pow_add]
      apply Nat.lt_of_lt_of_le below
      apply Nat.pow_le_pow_right (by decide)
      rw [shiftOf]
      omega
    omega
  · rcases Nat.eq_zero_or_pos (format.shiftOf num den) with none | some
    · exact .inl none
    · -- A quotient that is shifted has more bits than the field.
      right
      have exact : format.fractionBits + format.shiftOf num den = Nat.log2 (num / den) := by
        rw [shiftOf] at some ⊢
        omega
      have long : format.step ≤ num / den / 2 ^ format.shiftOf num den := by
        rw [Nat.le_div_iff_mul_le (Nat.two_pow_pos _), step, ← Nat.pow_add, exact]
        apply Nat.log2_self_le
        intro zero
        rw [shiftOf, zero] at some
        simp at some
      omega

/-- Rounding keeps order: a greater quotient has no smaller code. -/
theorem nearestCode_mono {num num' : Nat} (den : Nat) (le : num ≤ num') :
    format.nearestCode num den ≤ format.nearestCode num' den := by
  have quotients : num / den ≤ num' / den := Nat.div_le_div_right le
  have shifts : format.shiftOf num den ≤ format.shiftOf num' den := by
    rw [shiftOf, shiftOf, Nat.log2_eq_log_two, Nat.log2_eq_log_two]
    exact Nat.sub_le_sub_right (Nat.log_mono_right quotients) _
  rw [nearestCode_eq, nearestCode_eq]
  apply Nat.le_min_of_le_of_le ?_ (Nat.min_le_right _ _)
  apply Nat.le_trans (Nat.min_le_left _ _)
  rcases Nat.eq_or_lt_of_le shifts with same | further
  · -- In the same shift the digits keep their order.
    have digits : format.digitsOf num den ≤ format.digitsOf num' den := by
      rw [digitsOf, digitsOf, same]
      exact roundHalfEven_mono _ le
    rw [same]
    omega
  · -- The digits of the larger shift start where those of the smaller one end.
    have most := (format.fills_of_quotient num den).most
    have least := (format.fills_of_quotient num' den).least
    have next := Nat.mul_le_mul_right format.step (Nat.succ_le_of_lt further)
    rw [Nat.succ_mul] at next
    omega

/-- Digits that fit in some shift are all there when they are rounded, and nothing is lost. -/
theorem units_of_whole {digits den : Nat} (fit : digits < 2 * format.step) (shift : Nat)
    (positive : 0 < den) :
    let whole := digits * 2 ^ shift
    format.units (format.shiftOf (whole * den) den * format.step +
      format.digitsOf (whole * den) den) = whole := by
  intro whole
  rw [format.units_of_fills (format.fills_of_quotient _ _)]
  -- The digits may need a smaller shift, but no larger one.
  have enough : format.shiftOf (whole * den) den ≤ shift := by
    rw [shiftOf, Nat.mul_div_cancel _ positive]
    rcases Nat.eq_zero_or_pos whole with zero | some
    · rw [zero, Nat.log2_zero]
      omega
    · have short : whole < 2 ^ (format.fractionBits + 1 + shift) := by
        rw [Nat.pow_add, Nat.pow_succ']
        exact Nat.mul_lt_mul_of_pos_right fit (Nat.two_pow_pos shift)
      have bits := (Nat.log2_lt (Nat.ne_of_gt some)).mpr short
      omega
  exact roundHalfEven_shifted positive enough

/-- Every number of few enough digits is the magnitude of a code. -/
theorem exists_units {digits : Nat} (fit : digits < 2 * format.step) (shift : Nat) :
    ∃ code, format.units code = digits * 2 ^ shift :=
  ⟨_, format.units_of_whole fit shift Nat.one_pos⟩

/-- The magnitude of a code is rounded to that code. -/
theorem nearestCode_units (code : Nat) {den : Nat} (positive : 0 < den) :
    format.nearestCode (format.units code * den) den = min code format.infinityCode := by
  -- Written as its digits and their shift, the magnitude is a quotient without remainder.
  obtain ⟨shift, digits, split, fills, more⟩ := format.exists_fills code
  have fit : digits < 2 * format.step := more.most
  have magnitude : format.units code = digits * 2 ^ shift := by
    rw [split, format.units_of_fills fills]
  have same := format.units_of_whole fit shift positive
  dsimp only at same
  rw [← magnitude] at same
  rw [nearestCode_eq, format.units_strictMono.injective same]

end BinaryFormat

namespace Binary

variable {format : BinaryFormat}

/-- A natural number of few enough digits is itself a number of the format. -/
theorem exists_ofNat {n : Nat} (fit : n < 2 * format.step)
    (bounded : n * format.unitsPerOne < format.units format.infinityCode) :
    ∃ code : Fin (format.infinityCode + 1), (ofNat n : Binary format) = .number false code ∧
      format.units code = n * format.unitsPerOne ∧ code.val < format.infinityCode := by
  obtain ⟨code, magnitude⟩ := format.exists_units fit format.unitExponent
  have one : format.unitsPerOne = 2 ^ format.unitExponent := Nat.one_shiftLeft _
  rw [← one] at magnitude
  -- Codes are in the order of their magnitudes, and this one lies below infinity.
  have finite : code < format.infinityCode := by
    rw [← format.units_strictMono.lt_iff_lt, magnitude]
    exact bounded
  have rounded : format.nearestCode (n * format.unitsPerOne) 1 = code := by
    have exact := format.nearestCode_units code Nat.one_pos
    rw [Nat.mul_one, magnitude, Nat.min_eq_left (Nat.le_of_lt finite)] at exact
    exact exact
  refine ⟨⟨code, Nat.lt_succ_of_lt finite⟩, ?_, magnitude, finite⟩
  simp only [ofNat, ofRatio, ofUnits, rounded]

end Binary

end MotorLink
