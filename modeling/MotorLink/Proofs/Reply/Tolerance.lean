import MotorLink.Line.Timing
import MotorLink.Proofs.Reply.Decode

/-! Replies decode in spite of jitter, up to half a bit per run, and at the rate of any clock. -/

namespace MotorLink

open GroupCode (encodeWord)
open LineCode (bitRuns padding captureReply)

namespace Capture

/-- A capture is near bit counts: each run is less than half a bit off, the last may be longer. -/
structure Near (capture : Capture) (bitTicks : Nat) (counts : List Nat) : Prop where
  highs : (counts.length + 1) / 2 ≤ capture.highs.length
  lows : (counts.length + 1) / 2 ≤ capture.lows.length
  inner : ∀ index (inside : index < counts.length), index + 1 < counts.length →
    2 * ((capture.run index : Int) - counts[index] * bitTicks).natAbs < bitTicks
  last : ∀ index (inside : index < counts.length), index + 1 = counts.length →
    2 * ((counts[index] * bitTicks : Int) - capture.run index) < bitTicks

/-- A capture near positive bit counts spells them. -/
theorem Near.spells {capture : Capture} {bitTicks : Nat} {counts : List Nat}
    (near : capture.Near bitTicks counts) (positive : 0 < bitTicks)
    (lasting : ∀ count ∈ counts, 0 < count) : capture.Spells bitTicks counts := by
  -- The number of entries on both sides is enough for all runs that count.
  have highs := near.highs
  have lows := near.lows
  refine ⟨by simp only [length]; omega, fun index inside more => ?_, fun index inside ends => ?_⟩
  · -- Rounding adds half a bit, so it undoes any error below that on either side.
    have error := near.inner index inside more
    refine bitsInRun_eq (lasting _ (List.getElem_mem inside)) (by omega) ?_
    rw [Nat.succ_mul]
    omega
  · have error := near.last index inside ends
    exact le_bitsInRun positive (by omega)

/-- A capture measures bit counts at a clock: each run is within a tick of its nominal length. -/
structure Measures (capture : Capture) (clockHz : Nat) (counts : List Nat) : Prop where
  highs : (counts.length + 1) / 2 ≤ capture.highs.length
  lows : (counts.length + 1) / 2 ≤ capture.lows.length
  -- A reply has five bits for every four of a command, so 750000 in a second.
  near : ∀ index (inside : index < counts.length),
    ((750000 * capture.run index : Int) - counts[index] * clockHz).natAbs < 750000

/-- The length of a reply bit, rounded twice, still counts up to three nominal bits rightly. -/
theorem bitsInRun_of_nominal {clockHz run count : Nat} (slowest : 8000000 ≤ clockHz)
    (fastest : clockHz ≤ 160000000) (lasting : 0 < count) (short : count ≤ 3)
    (near : ((750000 * run : Int) - count * clockHz).natAbs < 750000) :
    bitsInRun (BitTiming.forClock clockHz).replyBitTicks run = count := by
  have ticks : (BitTiming.forClock clockHz).replyBitTicks =
      (clockHz + 300000) / 600000 * 4 / 5 := by
    simp only [BitTiming.forClock, BitTiming.bitRate]
    omega
  have cases : count = 1 ∨ count = 2 ∨ count = 3 := by omega
  rw [ticks]
  -- The error of the bit length counts once for each bit, and three bits stay below half a bit.
  refine bitsInRun_eq lasting ?_ ?_ <;> rcases cases with rfl | rfl | rfl <;> omega

/-- A capture that measures short runs at a clock spells them at the length of its reply bit. -/
theorem Measures.spells {capture : Capture} {clockHz : Nat} {counts : List Nat}
    (measures : capture.Measures clockHz counts) (slowest : 8000000 ≤ clockHz)
    (fastest : clockHz ≤ 160000000) (lasting : ∀ count ∈ counts, 0 < count)
    (short : ∀ count ∈ counts, count ≤ 3) :
    capture.Spells (BitTiming.forClock clockHz).replyBitTicks counts := by
  -- All runs but for the padding are measured, so even the last one is exact.
  have highs := measures.highs
  have lows := measures.lows
  have exact : ∀ index (inside : index < counts.length),
      bitsInRun (BitTiming.forClock clockHz).replyBitTicks (capture.run index) = counts[index] :=
    fun index inside => bitsInRun_of_nominal slowest fastest
      (lasting _ (List.getElem_mem inside)) (short _ (List.getElem_mem inside))
      (measures.near index inside)
  exact ⟨by simp only [length]; omega, fun index inside _ => exact index inside,
    fun index inside _ => Nat.le_of_eq (exact index inside).symm⟩

/-- A capture that spells the runs of the reply to a payload sends the payload. -/
theorem Spells.sends {capture : Capture} {bitTicks : Nat} {payload : BitVec 12}
    (spells : capture.Spells bitTicks (bitRuns (encodeWord (Checked.ofPayload payload))))
    (positive : 0 < bitTicks) : capture.Sends bitTicks payload :=
  sends_iff.mpr (LineCode.lineWord_eq_lineOf spells positive)

end Capture

namespace Reading

/-- The capture of a reply holds the reading of its payload. -/
theorem ofCapture_captureReply (payload : BitVec 12) {bitTicks : Nat} (positive : 0 < bitTicks) :
    ofCapture (captureReply (Checked.ofPayload payload) bitTicks) bitTicks =
      .ok (classify payload (MotorLink.checksum payload).toNat) :=
  ((LineCode.spells_capture _ positive).sends positive).ofCapture_eq

/--
A reply decodes whatever each run is off by, up to half a bit either way.

The runs are those of the capture that the reply makes at the same bit length, less the padding.
-/
theorem ofCapture_of_near {payload : BitVec 12} {bitTicks : Nat} {capture : Capture}
    (positive : 0 < bitTicks)
    (near : capture.Near bitTicks (bitRuns (encodeWord (Checked.ofPayload payload)))) :
    ofCapture capture bitTicks = .ok (classify payload (MotorLink.checksum payload).toNat) ∧
    ofCapture (captureReply (Checked.ofPayload payload) bitTicks) bitTicks =
      .ok (classify payload (MotorLink.checksum payload).toNat) ∧
    (bitRuns (encodeWord (Checked.ofPayload payload))).sum = 21 ∧
    (captureReply (Checked.ofPayload payload) bitTicks).runs =
      (bitRuns (encodeWord (Checked.ofPayload payload)) ++
        padding (encodeWord (Checked.ofPayload payload))).map (· * bitTicks) := by
  -- The last conjunct only says which runs the counts are the counts of.
  have spells := near.spells positive fun _ listed => LineCode.bitRuns_pos listed
  refine ⟨(spells.sends positive).ofCapture_eq, ofCapture_captureReply payload positive,
    LineCode.sum_bitRuns _, ?_⟩
  rw [captureReply, LineCode.runs_capture, LineCode.paddedRuns_eq]

/-- A temperature decodes although no run has its nominal length and the last one goes on. -/
theorem ofCapture_jittered_temperature :
    let capture : Capture := ⟨[14, 26, 24, 6, 16, 700], [34, 16, 34, 24, 6, 1]⟩
    0 < 10 ∧ capture.Near 10 (bitRuns (encodeWord (Checked.ofPayload 0x2A3))) ∧
      ofCapture capture 10 = .ok ⟨.temperature, 0x2A3, 0xB, 0xA3⟩ := by
  intro capture
  have runs : bitRuns (encodeWord (Checked.ofPayload 0x2A3)) =
      [1, 3, 3, 2, 2, 3, 1, 2, 2, 1, 1] := by decide
  -- Every run is within half a bit of its length, and the last one may be longer.
  have near : capture.Near 10 (bitRuns (encodeWord (Checked.ofPayload 0x2A3))) := by
    rw [runs]
    exact ⟨by decide, by decide, by decide, by decide⟩
  have reading : classify 0x2A3 (MotorLink.checksum 0x2A3).toNat =
      ⟨.temperature, 0x2A3, 0xB, 0xA3⟩ := by decide
  exact ⟨by decide, near, reading ▸ (ofCapture_of_near (by decide) near).1⟩

/-- A reply at the nominal rate decodes at every clock that settings may name. -/
theorem ofCapture_of_measures {clockHz : Nat} {payload : BitVec 12} {capture : Capture}
    (slowest : 8000000 ≤ clockHz) (fastest : clockHz ≤ 160000000)
    (measures : capture.Measures clockHz (bitRuns (encodeWord (Checked.ofPayload payload)))) :
    ofCapture capture (BitTiming.forClock clockHz).replyBitTicks =
      .ok (classify payload (MotorLink.checksum payload).toNat) := by
  -- No run of a coded reply is longer than the three bits that the rounding allows.
  have positive : 0 < (BitTiming.forClock clockHz).replyBitTicks := by
    simp only [BitTiming.forClock, BitTiming.bitRate]
    omega
  have spells := measures.spells slowest fastest (fun _ listed => LineCode.bitRuns_pos listed)
    fun _ listed => LineCode.bitRuns_encodeWord_le listed
  exact (spells.sends positive).ofCapture_eq

/-- A motor period decodes at the slowest clock, where no run is a whole number of ticks but one. -/
theorem ofCapture_slowest_clock :
    let capture : Capture := ⟨[10, 21, 22, 21, 32, 22], [22, 11, 21, 22, 21, 3]⟩
    8000000 ≤ 8000000 ∧ 8000000 ≤ 160000000 ∧
      capture.Measures 8000000 (bitRuns (encodeWord (Checked.ofPayload 0x55A))) ∧
      ofCapture capture (BitTiming.forClock 8000000).replyBitTicks =
        .ok ⟨.erpm, 0x55A, 0xA, 43352⟩ := by
  intro capture
  have runs : bitRuns (encodeWord (Checked.ofPayload 0x55A)) =
      [1, 2, 2, 1, 2, 2, 2, 2, 3, 2, 2] := by decide
  -- A bit lasts ten ticks and two thirds, and each run is within one tick of its length.
  have measures : capture.Measures 8000000 (bitRuns (encodeWord (Checked.ofPayload 0x55A))) := by
    rw [runs]
    exact ⟨by decide, by decide, by decide⟩
  have reading : classify 0x55A (MotorLink.checksum 0x55A).toNat = ⟨.erpm, 0x55A, 0xA, 43352⟩ := by
    decide
  exact ⟨by decide, by decide, measures,
    reading ▸ ofCapture_of_measures (by decide) (by decide) measures⟩

end Reading

end MotorLink
