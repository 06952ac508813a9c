import MotorLink.Line.Timing
import MotorLink.Proofs.Config.Validate
import MotorLink.Proofs.Line.Bits

/-! Pulses show the frame that they send, at every clock that leaves three ticks to a bit. -/

namespace MotorLink

namespace BitTiming

/-- Every pulse shows which bit it sends. -/
def Legible (timing : BitTiming) : Prop := ∀ bit, (timing.pulse bit).bit = bit

/-- A frame reads back from its pulses exactly when each of its own bits does. -/
theorem ofPulses?_pulses_eq_some_iff {timing : BitTiming} {frame : Frame} :
    Frame.ofPulses? (timing.pulses frame) = some frame ↔
      ∀ bit ∈ Bits.ofWord frame, (timing.pulse bit).bit = bit := by
  have count : (timing.pulses frame).length = Frame.bitCount := by simp [pulses, Frame.bitCount]
  rw [Frame.ofPulses?, if_pos count, Option.some_inj, pulses, List.map_map]
  constructor
  · intro same bit listed
    -- The word that was read has the bits that were read, and a frame has its own.
    have bits := congrArg Bits.ofWord same
    rw [Bits.ofWord_toWord (by simp)] at bits
    exact List.map_inj_left.mp (bits.trans (List.map_id _).symm) bit listed
  · intro each
    -- Each pulse is read as the bit that it sends, so the bits are those of the frame.
    have bits : (Bits.ofWord frame).map (Pulse.bit ∘ timing.pulse) = Bits.ofWord frame :=
      (List.map_congr_left each).trans (List.map_id _)
    rw [bits, Bits.toWord_ofWord]

/-- A legible timing reads back every frame from its pulses. -/
theorem Legible.ofPulses?_pulses {timing : BitTiming} (legible : timing.Legible) (frame : Frame) :
    Frame.ofPulses? (timing.pulses frame) = some frame :=
  ofPulses?_pulses_eq_some_iff.mpr fun bit _ => legible bit

/-- A timing that reads back every frame is legible. -/
theorem legible_iff_ofPulses?_pulses {timing : BitTiming} :
    timing.Legible ↔ ∀ frame, Frame.ofPulses? (timing.pulses frame) = some frame := by
  refine ⟨fun legible frame => legible.ofPulses?_pulses frame, fun survives bit => ?_⟩
  -- One frame with a zero and a one in it shows both pulses.
  have listed : bit ∈ Bits.ofWord (1 : Frame) := by
    revert bit
    decide
  exact ofPulses?_pulses_eq_some_iff.mp (survives 1) bit listed

/-- A one is legible when it is high for more than half of its bit, a zero when it is not. -/
theorem legible_iff_bounds {timing : BitTiming} (one : timing.oneHigh ≤ timing.bitTicks)
    (zero : timing.zeroHigh ≤ timing.bitTicks) :
    timing.Legible ↔
      timing.bitTicks < 2 * timing.oneHigh ∧ 2 * timing.zeroHigh ≤ timing.bitTicks := by
  rw [Legible, Bool.forall_bool]
  -- The two parts of a pulse fill the bit, so the low part is what the high part leaves of it.
  simp only [pulse, Pulse.bit, oneLow, zeroLow, if_true, Bool.false_eq_true, if_false,
    decide_eq_true_eq, decide_eq_false_iff_not]
  omega

/-- The two parts of a pulse fill the bit, as long as the high part fits into it. -/
theorem high_add_low_of_mem {timing : BitTiming} (one : timing.oneHigh ≤ timing.bitTicks)
    (zero : timing.zeroHigh ≤ timing.bitTicks) {frame : Frame} {pulse : Pulse}
    (listed : pulse ∈ timing.pulses frame) : pulse.high + pulse.low = timing.bitTicks := by
  -- A pulse sends a zero or a one, and its low part is what its high part leaves of the bit.
  obtain ⟨bit, -, rfl⟩ := List.mem_map.mp listed
  cases bit
  · exact Nat.add_sub_of_le zero
  · exact Nat.add_sub_of_le one

/-- Frames with the same pulses are the same where a one is not as long high as a zero. -/
theorem eq_of_pulses {timing : BitTiming} (distinct : timing.oneHigh ≠ timing.zeroHigh)
    {first second : Frame} (same : timing.pulses first = timing.pulses second) :
    first = second := by
  -- The pulses of the two bits differ, and so do those of two words.
  have apart (one other : Bool) (same : timing.pulse one = timing.pulse other) : one = other := by
    have high := congrArg Pulse.high same
    cases one <;> cases other
    · rfl
    · exact absurd high.symm distinct
    · exact absurd high distinct
    · rfl
  exact Bits.ofWord_injective ((List.map_inj_right apart).mp same)

/-- At every clock a one is longer high than a zero, even where no pulse could be told from half. -/
theorem zeroHigh_lt_oneHigh_forClock (clockHz : Nat) :
    (forClock clockHz).zeroHigh < (forClock clockHz).oneHigh := by
  -- With two ticks to a bit it is one tick against none, and more ticks only add to it.
  unfold forClock
  have enough : 2 ≤ max 2 (min ((clockHz + bitRate / 2) / bitRate) 65535) := Nat.le_max_left _ _
  generalize max 2 (min ((clockHz + bitRate / 2) / bitRate) 65535) = bit at enough
  dsimp only
  rcases Nat.eq_or_lt_of_le enough with rfl | more
  · decide
  · omega

/-- At every clock the high part of a one fits into the bit. -/
theorem oneHigh_le_forClock (clockHz : Nat) :
    (forClock clockHz).oneHigh ≤ (forClock clockHz).bitTicks := by
  unfold forClock
  dsimp only
  omega

/-- At every clock the high part of a zero fits into the bit. -/
theorem zeroHigh_le_forClock (clockHz : Nat) :
    (forClock clockHz).zeroHigh ≤ (forClock clockHz).bitTicks :=
  Nat.le_trans (Nat.le_of_lt (zeroHigh_lt_oneHigh_forClock clockHz)) (oneHigh_le_forClock clockHz)

/-- Pulses are legible exactly when there are three ticks to a bit. -/
theorem legible_forClock_iff {clockHz : Nat} :
    (forClock clockHz).Legible ↔ 1500000 ≤ clockHz := by
  rw [legible_iff_bounds (oneHigh_le_forClock clockHz) (zeroHigh_le_forClock clockHz)]
  -- With two ticks a one is high for exactly half of its bit, and with more for longer.
  have ticks : 3 ≤ max 2 (min ((clockHz + bitRate / 2) / bitRate) 65535) ↔ 1500000 ≤ clockHz := by
    simp only [bitRate]
    omega
  have least : 2 ≤ max 2 (min ((clockHz + bitRate / 2) / bitRate) 65535) := Nat.le_max_left _ _
  rw [← ticks]
  unfold forClock
  generalize max 2 (min ((clockHz + bitRate / 2) / bitRate) 65535) = bit at least
  dsimp only
  omega

/-- At least three ticks to a bit make the pulses legible. -/
theorem legible_forClock {clockHz : Nat} (fast : 1500000 ≤ clockHz) :
    (forClock clockHz).Legible :=
  legible_forClock_iff.mpr fast

/--
Every frame reads back exactly where a one is high for more than half of its bit and a zero is not.

The timing of a clock makes it so from 1.5 MHz on, which settings that pass the check exceed.
At slower clocks as well the two parts of each pulse fill its bit.
-/
theorem forall_ofPulses?_pulses_iff :
    (∀ timing : BitTiming, timing.oneHigh ≤ timing.bitTicks → timing.zeroHigh ≤ timing.bitTicks →
      ((∀ frame, Frame.ofPulses? (timing.pulses frame) = some frame) ↔
        timing.bitTicks < 2 * timing.oneHigh ∧ 2 * timing.zeroHigh ≤ timing.bitTicks)) ∧
    (∀ clockHz, let timing := forClock clockHz
      timing.oneHigh ≤ timing.bitTicks ∧ timing.zeroHigh ≤ timing.bitTicks ∧
      (∀ frame, ∀ pulse ∈ timing.pulses frame, pulse.high + pulse.low = timing.bitTicks) ∧
      ((∀ frame, Frame.ofPulses? (timing.pulses frame) = some frame) ↔ 1500000 ≤ clockHz)) ∧
    ∀ config : Config, config.validate = .ok config → ∀ frame,
      let timing := forClock config.timing.clockHz.toNat
      Frame.ofPulses? (timing.pulses frame) = some frame := by
  refine ⟨fun timing one zero => ?_, fun clockHz => ?_, fun config valid frame => ?_⟩
  · rw [← legible_iff_ofPulses?_pulses]
    exact legible_iff_bounds one zero
  · have one := oneHigh_le_forClock clockHz
    have zero := zeroHigh_le_forClock clockHz
    refine ⟨one, zero, fun frame pulse => high_add_low_of_mem one zero, ?_⟩
    rw [← legible_iff_ofPulses?_pulses]
    exact legible_forClock_iff
  · -- The slowest clock that the check admits is well above the limit.
    have slowest := (Config.clock_of_validate valid).1
    exact (legible_forClock (Nat.le_trans (by decide) slowest)).ofPulses?_pulses frame

/-- Three ticks to a bit are enough, and so is the clock of the standard settings. -/
theorem ofPulses?_pulses_of_three_ticks :
    (2 ≤ 3 ∧ 1 ≤ 3 ∧
      ∀ frame, Frame.ofPulses? (BitTiming.pulses ⟨3, 2, 1, 2⟩ frame) = some frame) ∧
    ({} : Config).validate = .ok {} ∧
      ∀ frame, Frame.ofPulses? ((forClock 40000000).pulses frame) = some frame := by
  have valid : ({} : Config).validate = .ok {} :=
    Config.validate_eq_ok_iff.mpr (by decide +kernel)
  -- A one is high for two ticks and a zero for one, which is enough to tell them apart.
  have three := (forall_ofPulses?_pulses_iff.1 ⟨3, 2, 1, 2⟩ (by decide) (by decide)).mpr (by decide)
  exact ⟨⟨by decide, by decide, three⟩, valid, forall_ofPulses?_pulses_iff.2.2 {} valid⟩

/-- Just below 1.5 MHz ones are read as zeros. -/
example : Frame.ofPulses? ((forClock 1499999).pulses 0xFFFF) = some 0 := by decide

end BitTiming

end MotorLink
