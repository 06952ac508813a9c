import MotorLink.Config.Validate

/-! Settings that pass the check keep every rule. -/

namespace MotorLink.Config

/-- Settings pass the check exactly when they keep every rule. -/
theorem validate_eq_ok_iff {config : Config} :
    config.validate = .ok config ↔ ∀ rule ∈ config.rules, rule.2 = true := by
  -- The check answers with the first broken rule, and there is none when all are kept.
  rw [validate, violation?]
  cases broken : config.rules.find? (fun rule => !rule.2) with
  | none => simpa using List.find?_eq_none.mp broken
  | some rule =>
    have listed := List.mem_of_find?_eq_some broken
    have fails := List.find?_some broken
    simp only [Option.map_some, reduceCtorEq, false_iff]
    intro all
    simp [all rule listed] at fails

/-- A rule that is listed is kept by settings that pass the check. -/
theorem rule_of_validate {config : Config} (valid : config.validate = .ok config)
    (violation : Violation) {kept : Bool} (listed : (violation, kept) ∈ config.rules) :
    kept = true :=
  validate_eq_ok_iff.mp valid _ listed

/-- A number lies in a range when it is between the ends. -/
theorem within_eq_true {n low high : Nat} : within n low high = true ↔ low ≤ n ∧ n ≤ high := by
  simp [within]

/-- The clock of settings that pass the check is between 8 and 160 MHz. -/
theorem clock_of_validate {config : Config} (valid : config.validate = .ok config) :
    8000000 ≤ config.timing.clockHz.toNat ∧ config.timing.clockHz.toNat ≤ 160000000 := by
  -- The rule of the clock is the range of clocks that its error names.
  have kept : within config.timing.clockHz.toNat 8000000 160000000 = true :=
    rule_of_validate valid .clock (by simp [rules])
  exact within_eq_true.mp kept

/-- The idle value of settings that pass the check has room in a frame. -/
theorem idleCode_le_of_validate {config : Config} (valid : config.validate = .ok config) :
    config.motor.idleCode.toNat ≤ ThrottleScale.maxCode := by
  have kept : decide (config.motor.idleCode.toNat ≤ ThrottleScale.maxCode) = true :=
    rule_of_validate valid .idleCode (by simp [rules])
  exact of_decide_eq_true kept

/-- The idle value of settings that pass the check is a command, or a throttle of their scale. -/
theorem idleCode_of_validate {config : Config} (valid : config.validate = .ok config) :
    config.motor.idleCode.toNat ≤ Command.maxCode ∨
      config.minCode ≤ config.motor.idleCode.toNat := by
  -- Values between the commands and the start of the scale would be taken for a throttle.
  have kept : (decide (config.motor.idleCode.toNat ≤ Command.maxCode) ||
      decide (config.minCode ≤ config.motor.idleCode.toNat)) = true :=
    rule_of_validate valid .idleBelowThrottle (by simp [rules])
  simpa using kept

/-- Settings that pass the check name a pool with some channel. -/
theorem poolSize_of_validate {config : Config} (valid : config.validate = .ok config) :
    1 ≤ config.channels.poolSize.toNat := by
  have kept : within config.channels.poolSize.toNat 1 16 = true :=
    rule_of_validate valid .poolSize (by simp [rules])
  exact (within_eq_true.mp kept).1

/-- Settings that pass the check name a pool with two channels if replies are to be received. -/
theorem two_le_poolSize_of_validate {config : Config} (valid : config.validate = .ok config)
    (bidirectional : config.motor.bidirectional = true) :
    2 ≤ config.channels.poolSize.toNat := by
  -- Replies take a channel of their own beside the one that frames go out on.
  have kept : (!config.motor.bidirectional || decide (2 ≤ config.channels.poolSize.toNat)) = true :=
    rule_of_validate valid .bidirectionalPool (by simp [rules])
  simpa [bidirectional] using kept

end MotorLink.Config
