import MotorLink.Throttle

/-! Throttles: numbers are ordered in a chain, and every scale keeps to the throttle values. -/

namespace MotorLink

/-- A number below a second one is below all that the second one is below. -/
theorem Binary.le_trans {format : BinaryFormat} {x y z : Binary format} (below : x.le y = true)
    (above : y.le z = true) : x.le z = true := by
  -- What is related at all is a number, and numbers are ordered as their counts of units.
  unfold le at *
  cases first : x.signedUnits? with
  | none => simp [first] at below
  | some a =>
    cases second : y.signedUnits? with
    | none => simp [second] at above
    | some b =>
      cases third : z.signedUnits? with
      | none => simp [second, third] at above
      | some c =>
        rw [first, second] at below
        rw [second, third] at above
        exact decide_eq_true (Int.le_trans (of_decide_eq_true below) (of_decide_eq_true above))

namespace ThrottleScale

/-- A scale by its offset starts at a throttle value. -/
theorem minCode_ofOffset (offset : Nat) :
    leastCode ≤ (ofOffset offset).minCode ∧ (ofOffset offset).minCode ≤ maxCode := by
  simp only [ofOffset, leastCode, maxCode]
  omega

/-- No throttle has a value below the start of the scale. -/
theorem minCode_le_encode (scale : ThrottleScale) (throttle : Single) :
    scale.minCode ≤ scale.encode throttle := by
  unfold encode
  -- The value is the start itself, or the greater one of the start and something else.
  split
  · exact Nat.le_refl _
  · exact Nat.le_max_left _ _

/-- A scale by an idle percentage gives every throttle a throttle value, whatever the two are. -/
theorem encode_ofIdlePercent (percent throttle : Single) :
    leastCode ≤ (ofIdlePercent percent).encode throttle ∧
      (ofIdlePercent percent).encode throttle ≤ maxCode := by
  -- The scale starts in the range, and steps above the start are cut off at the top.
  unfold ofIdlePercent
  dsimp only
  generalize Binary.roundClipped 65535 _ = offset
  obtain ⟨low, high⟩ := minCode_ofOffset offset
  unfold encode
  split
  · exact ⟨low, high⟩
  · dsimp only
    omega

end ThrottleScale

end MotorLink
