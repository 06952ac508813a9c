import MotorLink.Proofs.Number.Magnitude
import MotorLink.Proofs.Throttle

/-! Throttle scales keep order: more throttle never has a smaller value, from idle to the top. -/

namespace MotorLink

/-- Only numbers are related. -/
theorem Binary.isNaN_of_le {format : BinaryFormat} {x y : Binary format} (below : x.le y = true) :
    x.isNaN = false ∧ y.isNaN = false := by
  -- What is no number has no units to compare.
  cases x with
  | nan => simp [le, signedUnits?] at below
  | number =>
    cases y with
    | nan => simp [le, signedUnits?] at below
    | number => exact ⟨rfl, rfl⟩

/-- Numbers that are not negative are ordered as their magnitudes. -/
theorem Binary.units_le_of_le {format : BinaryFormat} {a b : Fin (format.infinityCode + 1)}
    (below : (number false a).le (number false b) = true) : format.units a ≤ format.units b := by
  have order : (number false a).le (number false b) =
    decide ((format.units a : Int) ≤ format.units b) := rfl
  rw [order, decide_eq_true_eq] at below
  omega

namespace ThrottleScale

open BinaryFormat (single)

/-- The natural numbers that a scale is computed with are numbers of the format. -/
theorem exists_ofNat {n : Nat} (small : n ≤ maxCode) :
    ∃ code : Fin (single.infinityCode + 1), (Binary.ofNat n : Single) = .number false code ∧
      single.units code = n * single.unitsPerOne ∧ code.val < single.infinityCode := by
  have fit : maxCode < 2 * single.step := by decide
  have bounded : maxCode * single.unitsPerOne < single.units single.infinityCode := by
    decide +kernel
  -- Both bounds are those of the greatest code.
  apply Binary.exists_ofNat (Nat.lt_of_le_of_lt small fit)
  exact Nat.lt_of_le_of_lt (Nat.mul_le_mul_right _ small) bounded

/-- The number of steps that a scale of some width has up to a magnitude in units. -/
def stepsUpTo (width magnitude : Nat) : Nat :=
  let one := single.unitsPerOne
  (2 * single.units (single.nearestCode (magnitude * (width * one)) one) + one) / (2 * one)

/-- There are no fewer steps up to a greater magnitude. -/
theorem stepsUpTo_mono (width : Nat) {magnitude magnitude' : Nat} (le : magnitude ≤ magnitude') :
    stepsUpTo width magnitude ≤ stepsUpTo width magnitude' := by
  -- Neither the product nor its two roundings change the order.
  have products := Nat.mul_le_mul_right (width * single.unitsPerOne) le
  have codes := single.nearestCode_mono single.unitsPerOne products
  have rounded := single.units_strictMono.monotone codes
  apply Nat.div_le_div_right
  omega

/-- Up to the number one there are all steps. -/
theorem stepsUpTo_one {width : Nat} (small : width ≤ maxCode) :
    stepsUpTo width single.unitsPerOne = width := by
  have positive : 0 < single.unitsPerOne := by decide
  obtain ⟨code, _, magnitude, finite⟩ := exists_ofNat small
  -- The product is the width itself, which rounding leaves as it is.
  have exact := single.nearestCode_units code.val positive
  rw [Nat.min_eq_left (Nat.le_of_lt finite), magnitude, Nat.mul_comm] at exact
  rw [stepsUpTo, exact, magnitude, Nat.div_eq_iff (by omega)]
  have twice : width * (2 * single.unitsPerOne) = 2 * (width * single.unitsPerOne) := by ac_rfl
  omega

/-- The steps that a throttle lies above the start of a scale, of which one has all. -/
def steps (scale : ThrottleScale) (throttle : Single) : Nat :=
  let limited := if (Binary.ofNat 1).lt throttle then .ofNat 1 else throttle
  (limited.mul (.ofNat (maxCode - scale.minCode))).roundClipped 65535

/-- A number that is not below or at zero is a positive one. -/
theorem eq_of_positive {throttle : Single} (number : throttle.isNaN = false)
    (positive : throttle.le .zero = false) :
    ∃ code, throttle = .number false code := by
  have start : (.zero : Single).signedUnits? = some 0 := by decide
  cases throttle with
  | nan => cases number
  | number negative code =>
    cases negative with
    | false => exact ⟨code, rfl⟩
    | true =>
      -- A negative number would be at zero or below.
      exfalso
      have height : (Binary.number true code : Single).signedUnits? =
        some (-(single.units code : Int)) := rfl
      simp only [Binary.le, height, start, decide_eq_false_iff_not] at positive
      omega

/-- The steps of a positive throttle are those up to its magnitude, or to one if that is less. -/
theorem steps_eq (scale : ThrottleScale) (code : Fin (single.infinityCode + 1)) :
    scale.steps (.number false code) =
      min (stepsUpTo (maxCode - scale.minCode) (min (single.units code) single.unitsPerOne))
        65535 := by
  obtain ⟨one, one_eq, one_units, one_finite⟩ := exists_ofNat (n := 1) (by decide)
  obtain ⟨width, width_eq, width_units, width_finite⟩ :=
    exists_ofNat (Nat.sub_le maxCode scale.minCode)
  rw [Nat.one_mul] at one_units
  -- What is multiplied is the lesser of the throttle and one.
  obtain ⟨limited, limited_eq, limited_units⟩ :
      ∃ limited, (if (Binary.ofNat 1 : Single).lt (.number false code) then .ofNat 1
        else .number false code) = (.number false limited : Single) ∧
        single.units limited = min (single.units code) single.unitsPerOne := by
    have order : (Binary.number false one : Single).lt (.number false code) =
        decide ((single.units one : Int) < single.units code) := rfl
    rw [one_eq, order, one_units]
    by_cases above : single.unitsPerOne < single.units code
    · exact ⟨one, if_pos (by simpa using above), by omega⟩
    · exact ⟨code, if_neg (by simpa using above), by omega⟩
  have limited_finite : limited.val < single.infinityCode := by
    apply Nat.lt_of_le_of_lt _ one_finite
    rw [← single.units_strictMono.le_iff_le, limited_units, one_units]
    exact Nat.min_le_right _ _
  rw [steps, limited_eq, width_eq, Binary.mul_of_finite _ _ limited_finite width_finite,
    limited_units, width_units]
  rfl

/-- A positive throttle has no more steps than its scale is wide. -/
theorem steps_le (scale : ThrottleScale) (code : Fin (single.infinityCode + 1)) :
    scale.steps (.number false code) ≤ maxCode - scale.minCode := by
  have most := stepsUpTo_mono (maxCode - scale.minCode)
    (Nat.min_le_right (single.units code) single.unitsPerOne)
  rw [stepsUpTo_one (Nat.sub_le maxCode scale.minCode)] at most
  rw [steps_eq]
  omega

/-- A throttle of one or more has all steps of its scale. -/
theorem steps_of_one_le (scale : ThrottleScale) {code : Fin (single.infinityCode + 1)}
    (full : single.unitsPerOne ≤ single.units code) :
    scale.steps (.number false code) = maxCode - scale.minCode := by
  have small : maxCode - scale.minCode ≤ 65535 := by
    rw [maxCode]
    omega
  -- A throttle beyond one is cut off at one.
  rw [steps_eq, Nat.min_eq_right full, stepsUpTo_one (Nat.sub_le maxCode scale.minCode),
    Nat.min_eq_left small]

/-- More throttle has no fewer steps. -/
theorem steps_mono (scale : ThrottleScale) {code code' : Fin (single.infinityCode + 1)}
    (le : single.units code ≤ single.units code') :
    scale.steps (.number false code) ≤ scale.steps (.number false code') := by
  have up := stepsUpTo_mono (maxCode - scale.minCode)
    (show min (single.units code) single.unitsPerOne ≤ min (single.units code') single.unitsPerOne
      by omega)
  -- Cutting off at one keeps the order, and so do the two roundings.
  rw [steps_eq, steps_eq]
  omega

/-- What is no number and what is not above zero has the value of the start. -/
theorem encode_of_not_positive (scale : ThrottleScale) {throttle : Single}
    (rests : throttle.isNaN = true ∨ throttle.le .zero = true) :
    scale.encode throttle = scale.minCode := by
  rw [encode, if_pos (by simpa using rests)]

/-- A throttle above zero has the value that lies its steps above the start. -/
theorem encode_of_positive {scale : ThrottleScale} (bounded : scale.minCode ≤ maxCode)
    {throttle : Single} (number : throttle.isNaN = false) (positive : throttle.le .zero = false) :
    scale.encode throttle = scale.minCode + scale.steps throttle ∧
      scale.minCode + scale.steps throttle ≤ maxCode := by
  -- The value is clamped from both sides, but the steps keep it there anyway.
  have value : scale.encode throttle =
      max scale.minCode (min (scale.minCode + scale.steps throttle) maxCode) := by
    rw [encode, number, positive]
    rfl
  obtain ⟨code, rfl⟩ := eq_of_positive number positive
  have few := scale.steps_le code
  omega

/-- No throttle has a value above the greatest. -/
theorem encode_le {scale : ThrottleScale} (bounded : scale.minCode ≤ maxCode) (throttle : Single) :
    scale.encode throttle ≤ maxCode := by
  -- A throttle that is no number or not above zero has the least value.
  by_cases rests : throttle.isNaN = true ∨ throttle.le .zero = true
  · rw [scale.encode_of_not_positive rests]
    exact bounded
  · simp only [not_or, Bool.not_eq_true] at rests
    obtain ⟨value, most⟩ := encode_of_positive bounded rests.1 rests.2
    rw [value]
    exact most

/-- More throttle has no smaller value. -/
theorem encode_mono {scale : ThrottleScale} (bounded : scale.minCode ≤ maxCode) {x y : Single}
    (below : x.le y = true) : scale.encode x ≤ scale.encode y := by
  by_cases rests : x.isNaN = true ∨ x.le .zero = true
  · -- The lesser one has the least value of all.
    rw [scale.encode_of_not_positive rests]
    exact scale.minCode_le_encode y
  · simp only [not_or, Bool.not_eq_true] at rests
    obtain ⟨_, number⟩ := Binary.isNaN_of_le below
    -- What lies above a positive throttle is positive too.
    have positive : y.le .zero = false := by
      rw [← Bool.not_eq_true]
      intro still
      have contrary := Binary.le_trans below still
      rw [rests.2] at contrary
      cases contrary
    obtain ⟨lower, _⟩ := encode_of_positive bounded rests.1 rests.2
    obtain ⟨upper, _⟩ := encode_of_positive bounded number positive
    obtain ⟨code, rfl⟩ := eq_of_positive rests.1 rests.2
    obtain ⟨code', rfl⟩ := eq_of_positive number positive
    have more := scale.steps_mono (Binary.units_le_of_le below)
    omega

/-- Throttles from one on have the greatest value. -/
theorem encode_of_one_le {scale : ThrottleScale} (bounded : scale.minCode ≤ maxCode)
    {throttle : Single} (full : (Binary.ofNat 1).le throttle = true) :
    scale.encode throttle = maxCode := by
  obtain ⟨_, number⟩ := Binary.isNaN_of_le full
  obtain ⟨one, one_eq, one_units, _⟩ := exists_ofNat (n := 1) (by decide)
  have positive : throttle.le .zero = false := by
    rw [← Bool.not_eq_true]
    intro still
    exact absurd (Binary.le_trans full still) (by decide)
  -- One is above zero, and so is every throttle from one on.
  obtain ⟨value, _⟩ := encode_of_positive bounded number positive
  obtain ⟨code, rfl⟩ := eq_of_positive number positive
  rw [one_eq] at full
  have enough := Binary.units_le_of_le full
  rw [one_units, Nat.one_mul] at enough
  rw [value, scale.steps_of_one_le enough]
  omega

/-- Twenty percent of the range are 400 values, and no idle percentage counts for more. -/
theorem minCode_ofIdlePercent_le (percent : Single) : (ofIdlePercent percent).minCode ≤ 448 := by
  obtain ⟨twenty, twenty_eq, twenty_units, twenty_finite⟩ := exists_ofNat (n := 20) (by decide)
  obtain ⟨hundred, hundred_eq, hundred_units, hundred_finite⟩ :=
    exists_ofNat (n := 100) (by decide)
  obtain ⟨width, width_eq, width_units, width_finite⟩ :=
    exists_ofNat (Nat.sub_le maxCode leastCode)
  -- The fraction is up to a fifth, as it is rounded.
  let one := single.unitsPerOne
  let fifth := single.nearestCode (20 * one * one) (100 * one)
  have fraction : (if percent.isNaN then .zero
      else (percent.clamp .zero (.ofNat 20)).div (.ofNat 100) : Single).Within fifth := by
    by_cases none : percent.isNaN = true
    · rw [if_pos none]
      exact ⟨false, _, rfl, by decide +kernel⟩
    · rw [if_neg none, twenty_eq, hundred_eq]
      have clamped : (percent.clamp .zero (.number false twenty)).Within twenty :=
        Binary.Within.clamp (by simpa using none) (by decide)
      have positive : 0 < single.units hundred := by
        rw [hundred_units]
        decide
      have quotient := clamped.div twenty_finite false hundred_finite positive
      rw [twenty_units, hundred_units] at quotient
      exact quotient
  -- A fifth of the width is rounded to 400.
  have product := fraction.mul (⟨false, width, width_eq, Nat.le_refl _⟩ :
    (Binary.ofNat (maxCode - leastCode) : Single).Within width) (by decide +kernel) width_finite
  rw [width_units] at product
  have offset := Nat.le_trans (product.roundClipped_le 65535) (show _ ≤ 400 by decide +kernel)
  rw [ofIdlePercent, ofOffset]
  dsimp only [leastCode] at offset ⊢
  omega

/-- The scales that links have: by an offset, or by an idle percentage. -/
inductive Chosen : ThrottleScale → Prop
  | ofOffset (offset : UInt16) : Chosen (.ofOffset offset.toNat)
  | ofIdlePercent (percent : Single) : Chosen (.ofIdlePercent percent)

/-- A scale starts at a throttle value, however it was chosen. -/
theorem Chosen.minCode_bounds {scale : ThrottleScale} (chosen : scale.Chosen) :
    leastCode ≤ scale.minCode ∧ scale.minCode ≤ maxCode := by
  cases chosen with
  | ofOffset offset => exact minCode_ofOffset _
  | ofIdlePercent percent => exact minCode_ofOffset _

/--
A scale starts at a throttle value, and more throttle never has a smaller value on it.

Throttles up to zero have the value of the start, throttles from one on the greatest of all.
What lies between is reached from the start by adding steps, of which there are never too many.
A scale by an idle percentage starts within the lowest fifth of the range.
-/
theorem encode_keeps_order {scale : ThrottleScale} (chosen : scale.Chosen) :
    (leastCode ≤ scale.minCode ∧ scale.minCode ≤ maxCode) ∧
    (∀ percent, scale = .ofIdlePercent percent → scale.minCode ≤ 448) ∧
    (∀ x y : Single, x.le y = true →
      scale.minCode ≤ scale.encode x ∧ scale.encode x ≤ scale.encode y ∧
        scale.encode y ≤ maxCode) ∧
    (∀ x : Single, x.isNaN = true ∨ x.le .zero = true → scale.encode x = scale.minCode) ∧
    (∀ x : Single, (Binary.ofNat 1).le x = true → scale.encode x = maxCode) ∧
    (∀ x : Single, x.isNaN = false → x.le .zero = false →
      scale.encode x = scale.minCode + scale.steps x ∧
        scale.minCode + scale.steps x ≤ maxCode) := by
  have bounds := chosen.minCode_bounds
  -- How a scale was chosen matters for where it starts and for nothing else.
  refine ⟨bounds, ?_, ?_, fun x => scale.encode_of_not_positive,
    fun x => encode_of_one_le bounds.2, fun x => encode_of_positive bounds.2⟩
  · intro percent same
    rw [same]
    exact minCode_ofIdlePercent_le percent
  · intro x y below
    exact ⟨scale.minCode_le_encode x, encode_mono bounds.2 below, encode_le bounds.2 y⟩

/-- With an idle of ten percent a quarter and a half of full throttle keep their order. -/
theorem encode_keeps_order_of_tenth :
    let scale : ThrottleScale := .ofIdlePercent (.ofNat 10)
    let quarter : Single := .ofRatio false 1 4
    let half : Single := .ofRatio false 1 2
    scale.Chosen ∧ quarter.le half = true ∧ scale.minCode = 248 ∧ scale.encode quarter = 698 ∧
      scale.encode quarter ≤ scale.encode half ∧ scale.encode half ≤ maxCode ∧
      scale.encode .nan = scale.minCode ∧ scale.encode (.infinity false) = maxCode := by
  intro scale quarter half
  have chosen : scale.Chosen := .ofIdlePercent _
  have below : quarter.le half = true := by decide +kernel
  -- The order of the two values follows from that of the throttles.
  obtain ⟨_, _, ordered, rests, full, _⟩ := encode_keeps_order chosen
  obtain ⟨_, more, most⟩ := ordered quarter half below
  exact ⟨chosen, below, by decide +kernel, by decide +kernel, more, most, rests .nan (.inl rfl),
    full (.infinity false) (by decide +kernel)⟩

end ThrottleScale

end MotorLink
