import MotorLink.Proofs.Number.Rounding

/-! Magnitudes: products and quotients of bounded numbers are up to those of the bounds. -/

namespace MotorLink.Binary

variable {format : BinaryFormat}

/-- A code below that of infinity is another one. -/
theorem ne_last {code : Fin (format.infinityCode + 1)} (finite : code.val < format.infinityCode) :
    code ≠ Fin.last _ := Fin.ne_of_lt finite

/-- The product of finite numbers is their product in units, rounded. -/
theorem mul_of_finite (s t : Bool) {a b : Fin (format.infinityCode + 1)}
    (finite : a.val < format.infinityCode) (finite' : b.val < format.infinityCode) :
    (number s a).mul (number t b) =
      ofUnits (s != t) (format.units a * format.units b) format.unitsPerOne := by
  simp [Binary.mul, ne_last finite, ne_last finite']

/-- The quotient of finite numbers is that of their units, rounded, if the divisor is not zero. -/
theorem div_of_finite (s t : Bool) {a b : Fin (format.infinityCode + 1)}
    (finite : a.val < format.infinityCode) (finite' : b.val < format.infinityCode)
    (divides : 0 < format.units b) :
    (number s a).div (number t b) =
      ofUnits (s != t) (format.units a * format.unitsPerOne) (format.units b) := by
  -- The code zero stands for zero.
  have nonzero : b.val ≠ 0 := by
    intro zero
    rw [zero, format.units_of_lt format.step_pos] at divides
    exact absurd divides (Nat.lt_irrefl 0)
  simp only [Binary.div, ne_last finite, ne_last finite', nonzero, if_false]

/-- A value is a number of either sign whose code is not above a bound. -/
def Within (bound : Nat) (x : Binary format) : Prop :=
  ∃ negative code, x = .number negative code ∧ code.val ≤ bound

variable {x y : Binary format} {bound other : Nat}

/-- A quotient is rounded to within what a greater one is rounded to. -/
theorem Within.ofUnits (negative : Bool) {num num' : Nat} (den : Nat) (le : num ≤ num') :
    (ofUnits negative num den : Binary format).Within (format.nearestCode num' den) :=
  ⟨negative, _, rfl, format.nearestCode_mono den le⟩

/-- A number up to a finite bound is finite. -/
theorem Within.isFinite (within : x.Within bound) (finite : bound < format.infinityCode) :
    x.isFinite = true := by
  obtain ⟨negative, code, rfl, small⟩ := within
  simpa [Binary.isFinite] using ne_last (Nat.lt_of_le_of_lt small finite)

/-- A product is up to the product of the bounds. -/
theorem Within.mul (first : x.Within bound) (second : y.Within other)
    (finite : bound < format.infinityCode) (finite' : other < format.infinityCode) :
    (x.mul y).Within
      (format.nearestCode (format.units bound * format.units other) format.unitsPerOne) := by
  obtain ⟨s, a, rfl, small⟩ := first
  obtain ⟨t, b, rfl, small'⟩ := second
  rw [mul_of_finite s t (Nat.lt_of_le_of_lt small finite) (Nat.lt_of_le_of_lt small' finite')]
  -- The magnitudes multiply, and rounding keeps their order.
  apply Within.ofUnits
  exact Nat.mul_le_mul (format.units_strictMono.monotone small)
    (format.units_strictMono.monotone small')

/-- A quotient by a number is up to the quotient of the bound by it. -/
theorem Within.div (dividend : x.Within bound) (finite : bound < format.infinityCode)
    (t : Bool) {divisor : Fin (format.infinityCode + 1)}
    (finite' : divisor.val < format.infinityCode) (divides : 0 < format.units divisor) :
    (x.div (.number t divisor)).Within
      (format.nearestCode (format.units bound * format.unitsPerOne) (format.units divisor)) := by
  obtain ⟨s, a, rfl, small⟩ := dividend
  rw [div_of_finite s t (Nat.lt_of_le_of_lt small finite) finite' divides]
  -- The divisor is the same on both sides, so the dividends alone are compared.
  apply Within.ofUnits
  exact Nat.mul_le_mul_right _ (format.units_strictMono.monotone small)

/-- A value is an amount when it is a finite number without a sign. -/
def IsAmount (x : Binary format) : Prop :=
  ∃ code, x = .number false code ∧ code.val < format.infinityCode

/-- An amount is finite. -/
theorem IsAmount.isFinite (amount : x.IsAmount) : x.isFinite = true := by
  obtain ⟨code, rfl, finite⟩ := amount
  exact Within.isFinite ⟨false, code, rfl, Nat.le_refl _⟩ finite

/-- The quotient of amounts is one if the bound of the dividend does not give infinity. -/
theorem isAmount_div {a b : Fin (format.infinityCode + 1)} (small : a.val ≤ bound)
    (finite : bound < format.infinityCode) (finite' : b.val < format.infinityCode)
    (divides : 0 < format.units b)
    (fits : format.nearestCode (format.units bound * format.unitsPerOne) (format.units b) <
      format.infinityCode) :
    ((number false a).div (number false b)).IsAmount := by
  have quotient := div_of_finite false false (Nat.lt_of_le_of_lt small finite) finite' divides
  refine ⟨_, quotient, ?_⟩
  -- Rounding keeps order, so the quotient has no greater code than that of the bound.
  have order := format.nearestCode_mono (format.units b)
    (Nat.mul_le_mul_right format.unitsPerOne (format.units_strictMono.monotone small))
  exact Nat.lt_of_le_of_lt order fits

/-- Rounded to a whole number, a number is up to its rounded bound. -/
theorem Within.roundClipped_le (within : x.Within bound) (limit : Nat) :
    x.roundClipped limit ≤
      (2 * format.units bound + format.unitsPerOne) / (2 * format.unitsPerOne) := by
  obtain ⟨negative, code, rfl, small⟩ := within
  -- A number below zero is clipped to zero, which is within any bound.
  cases negative with
  | true => exact Nat.zero_le _
  | false =>
    apply Nat.le_trans (Nat.min_le_left _ _)
    apply Nat.div_le_div_right
    have units := format.units_strictMono.monotone small
    omega

/-- A number from zero to a bound is up to the bound. -/
theorem within_of_signedUnits {value : Int} (known : x.signedUnits? = some value)
    (low : 0 ≤ value) (high : value ≤ format.units bound) : x.Within bound := by
  cases x with
  | nan => cases known
  | number negative code =>
    refine ⟨negative, code, rfl, ?_⟩
    rw [← format.units_strictMono.le_iff_le]
    -- A negative number from zero on is zero.
    have same := Option.some.inj known
    cases negative <;> simp at same <;> omega

/-- Moved into an interval from zero on, a number is up to its upper end. -/
theorem Within.clamp {top : Fin (format.infinityCode + 1)} (known : x.isNaN = false)
    (start : (zero : Binary format).signedUnits? = some 0) :
    (x.clamp zero (.number false top)).Within top := by
  obtain ⟨value, valued⟩ : ∃ value, x.signedUnits? = some value := by
    cases x with
    | nan => cases known
    | number => exact ⟨_, rfl⟩
  -- After the first comparison the value is not below zero, after the second not above the end.
  obtain ⟨raised, same, height, reached, low⟩ : ∃ raised : Binary format,
      (if x.lt zero then zero else x) = raised ∧
        ∃ height, raised.signedUnits? = some height ∧ 0 ≤ height := by
    by_cases below : x.lt zero = true
    · exact ⟨zero, if_pos below, 0, start, Int.le_refl 0⟩
    · refine ⟨x, if_neg below, value, valued, ?_⟩
      simpa [lt, valued, start] using below
  rw [Binary.clamp, same]
  by_cases above : (number false top).lt raised = true
  · rw [if_pos above]
    exact ⟨false, top, rfl, Nat.le_refl _⟩
  · rw [if_neg above]
    apply within_of_signedUnits reached low
    have topped : (number false top).signedUnits? = some (format.units top : Int) := rfl
    simpa [lt, reached, topped] using above

end MotorLink.Binary
