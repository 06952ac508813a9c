import Mathlib.Algebra.Order.Floor.Div
import Mathlib.Order.Bounds.Defs
import MotorLink.Line.Basic
import MotorLink.Proofs.Line.Timing

/-! How long a frame is on the line: sixteen bits, rounded up to whole microseconds. -/

namespace MotorLink.BitTiming

/-- Whatever frame they send, pulses last sixteen bits. -/
theorem sum_pulses {timing : BitTiming} (one : timing.oneHigh ≤ timing.bitTicks)
    (zero : timing.zeroHigh ≤ timing.bitTicks) (frame : Frame) :
    ((timing.pulses frame).map fun pulse => pulse.high + pulse.low).sum =
      16 * timing.bitTicks := by
  -- Each of the sixteen pulses fills its bit.
  have full : ∀ ticks ∈ (timing.pulses frame).map fun pulse => pulse.high + pulse.low,
      ticks = timing.bitTicks := by
    intro ticks listed
    obtain ⟨pulse, sent, rfl⟩ := List.mem_map.mp listed
    exact high_add_low_of_mem one zero sent
  rw [List.eq_replicate_of_mem full, List.sum_replicate_nat, List.length_map, pulses,
    List.length_map, Bits.length_ofWord]

/-- At every clock a frame takes fewer microseconds than thirty-two bits can count. -/
theorem ticks_le_forClock (clockHz : Nat) :
    16 * (forClock clockHz).bitTicks * 1000000 ≤ max clockHz 1 * 4294967295 := by
  -- The two ticks of the slowest bit make 32 seconds at one tick per second.
  simp only [forClock, bitRate]
  omega

/-- A frame takes no more than some microseconds exactly if all of its ticks fit into them. -/
theorem frameDuration_le_iff (clockHz duration : Nat) :
    (forClock clockHz).frameDuration clockHz ≤ duration ↔
      16 * (forClock clockHz).bitTicks * 1000000 ≤ duration * max clockHz 1 := by
  have running : 0 < max clockHz 1 := by omega
  have ticks : (forClock clockHz).bitTicks * Frame.bitCount = 16 * (forClock clockHz).bitTicks :=
    Nat.mul_comm ..
  have rounded (limit : Nat) := ceilDiv_le_iff_le_mul running
    (b := 16 * (forClock clockHz).bitTicks * 1000000) (c := limit)
  -- The microseconds, rounded up, are few enough to be kept as they are.
  have kept : 16 * (forClock clockHz).bitTicks * 1000000 ⌈/⌉ max clockHz 1 < UInt32.size :=
    Nat.lt_succ_of_le ((rounded 4294967295).mpr (ticks_le_forClock clockHz))
  rw [Nat.ceilDiv_eq_add_pred_div] at kept
  rw [frameDuration, ticks, Nat.mod_eq_of_lt kept, ← Nat.ceilDiv_eq_add_pred_div, rounded,
    Nat.mul_comm duration]

/-- A frame takes the fewest microseconds that all of its ticks fit into. -/
theorem isLeast_frameDuration (clockHz : Nat) :
    IsLeast {duration | 16 * (forClock clockHz).bitTicks * 1000000 ≤ duration * max clockHz 1}
      ((forClock clockHz).frameDuration clockHz) :=
  ⟨(frameDuration_le_iff clockHz _).mp (Nat.le_refl _),
    fun duration fits => (frameDuration_le_iff clockHz duration).mpr fits⟩

/-- At every clock that settings may name a frame takes 26 to 28 microseconds. -/
theorem frameDuration_bounds {clockHz : Nat} (slowest : 8000000 ≤ clockHz)
    (fastest : clockHz ≤ 160000000) :
    26 ≤ (forClock clockHz).frameDuration clockHz ∧
      (forClock clockHz).frameDuration clockHz ≤ 28 := by
  have longer := frameDuration_le_iff clockHz 25
  have shorter := frameDuration_le_iff clockHz 28
  -- Rounding changes a bit by half a tick at most, of the thirteen that the slowest clock makes.
  simp only [forClock, bitRate] at longer shorter ⊢
  omega

end MotorLink.BitTiming
