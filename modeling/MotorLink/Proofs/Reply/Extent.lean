import MotorLink.Proofs.Reply.Bijection
import MotorLink.Proofs.Reply.Threshold

/-! How far a reply extends: its code bits, its runs and its ticks keep within the room for them. -/

namespace MotorLink

namespace GroupCode

/-- A group that is shifted in from below stands behind the bits that came before it. -/
theorem shiftLeft_or_setWidth {width : Nat} (sent : BitVec width) (code : BitVec 5) :
    sent.setWidth 32 <<< 5 ||| code.setWidth 32 = (sent ++ code).setWidth 32 := by
  ext index inside
  -- The five bits below are those of the group, and what finds no room is lost on both sides.
  simp only [BitVec.getElem_or, BitVec.getElem_shiftLeft, BitVec.getElem_setWidth,
    BitVec.getLsbD_append]
  grind

/-- The codes of a word, shifted one after the other into thirty-two bits. -/
def shiftIn (word : BitVec 16) : BitVec 32 :=
  (List.range 4).foldl
    (fun sent index => sent <<< 5 ||| (encode (nibble word index)).setWidth 32) 0

/-- Shifted in one by one the codes make up the coded word, and nothing stands above it. -/
theorem shiftIn_eq (word : BitVec 16) : shiftIn word = (encodeWord word).setWidth 32 := by
  -- The first code meets an empty word, and each later one makes it five bits longer.
  show (((0#32 ||| _) <<< 5 ||| _) <<< 5 ||| _) <<< 5 ||| _ = _
  rw [BitVec.zero_or, shiftLeft_or_setWidth, shiftLeft_or_setWidth, shiftLeft_or_setWidth]
  rfl

/-- The codes of a word leave the upper twelve of thirty-two bits empty. -/
theorem toNat_shiftIn_lt (word : BitVec 16) : (shiftIn word).toNat < 2 ^ 20 := by
  rw [shiftIn_eq, BitVec.toNat_setWidth_of_le (by decide)]
  exact (encodeWord word).isLt

end GroupCode

namespace LineCode

open GroupCode (encodeWord shiftIn)

/-- Bits that keep within the room for zeros do not begin with more zeros than that. -/
theorem not_replicate_prefix {bits : List Bool} {most room left : Nat}
    (kept : roomAfter most room bits = some left) :
    ¬List.replicate (room + 1) false <+: bits := by
  -- The induction follows the automaton, which loses one place of its room for each zero.
  fun_induction roomAfter most room bits with
  | case1 room => simp [List.replicate_succ]
  | case2 room rest => simp [List.replicate_succ]
  | case3 room rest ih =>
    rw [List.replicate_succ, List.cons_prefix_cons]
    exact fun zeros => ih kept zeros.2
  | case4 => cases kept

/-- Bits that keep within the room for zeros hold no more zeros in a row than may follow a one. -/
theorem not_consecutive_zeros {bits : List Bool} {most room left : Nat}
    (kept : roomAfter most room bits = some left) (within : room ≤ most) :
    ¬List.replicate (most + 1) false <:+: bits := by
  -- So many zeros would be at the start, where there is no room for them, or further on.
  induction bits generalizing room with
  | nil => simp [List.replicate_succ]
  | cons bit rest ih =>
    rw [List.infix_cons_iff]
    rintro (start | later)
    · have zeros : List.replicate (room + 1) false <+: List.replicate (most + 1) false :=
        (List.prefix_replicate_iff).mpr ⟨by simp; omega, by simp⟩
      exact not_replicate_prefix kept (zeros.trans start)
    · cases bit with
      | true => exact ih kept (Nat.le_refl most) later
      | false =>
        cases room with
        | zero => simp [roomAfter] at kept
        | succ room =>
          exact ih (show roomAfter most room rest = some left from kept) (by omega) later

/-- A run of a reply lasts one, two or three bits, and so does the one that completes a pair. -/
theorem bounds_of_mem_paddedRuns {word : BitVec 16} {count : Nat}
    (listed : count ∈ paddedRuns (encodeWord word)) : 1 ≤ count ∧ count ≤ 3 := by
  rw [paddedRuns_eq, List.mem_append] at listed
  rcases listed with own | added
  · exact ⟨bitRuns_pos own, bitRuns_encodeWord_le own⟩
  · rw [eq_one_of_mem_padding added]
    decide

/-- The runs of a coded word last twenty-one bits, and one more where the last pair is completed. -/
theorem sum_paddedRuns (coded : BitVec 20) :
    (paddedRuns coded).sum = if (bitRuns coded).length % 2 = 0 then 21 else 22 := by
  have own : (bitRuns coded).sum = 21 := sum_bitRuns coded
  rw [paddedRuns_eq, List.sum_append, own, padding]
  split <;> rfl

/-- The runs of both levels of a captured word last as long as its padded runs. -/
theorem sum_capture (coded : BitVec 20) (bitTicks : Nat) :
    (capture coded bitTicks).highs.sum + (capture coded bitTicks).lows.sum =
      (paddedRuns coded).sum * bitTicks := by
  -- All runs of the capture are those of both levels, and each is its bits at their length.
  have both := (Capture.perm_runs (length_lows_capture coded bitTicks)).sum_eq
  rw [List.sum_append, runs_capture, List.sum_map_mul_right, List.map_id'] at both
  exact both.symm

/-- At every clock that thirty-two bits can name a reply bit lasts between 1 and 5726 ticks. -/
theorem replyBitTicks_bounds (clockHz : UInt32) :
    1 ≤ (BitTiming.forClock clockHz.toNat).replyBitTicks ∧
      (BitTiming.forClock clockHz.toNat).replyBitTicks ≤ 5726 := by
  -- The fastest clock makes 7158 ticks of a command bit, and the slowest one two.
  have fastest : clockHz.toNat < 4294967296 := clockHz.toNat_lt
  simp only [BitTiming.forClock, BitTiming.bitRate]
  omega

/--
Whatever the clock and the word, a reply has room for its code bits, its runs and its ticks.

Its codes fill twenty bits, begin with at most one zero and hold no three zeros in a row.
So each run lasts one, two or three bits, and no product with the length of a bit is cut.
All of its runs are kept, and together they last twenty-one bits, or one more with the padding.
-/
theorem captureReply_extent (clockHz : UInt32) (word : BitVec 16) :
    let timing : BitTiming := .forClock clockHz.toNat
    let bitTicks := timing.replyBitTicks
    let coded := encodeWord word
    let sample := captureReply word bitTicks
    (1 ≤ bitTicks ∧ bitTicks ≤ 5726) ∧
    ((shiftIn word).toNat < 2 ^ 20 ∧ (shiftIn word).setWidth 20 = coded) ∧
    (¬[false, false, false] <:+: Bits.ofWord coded ∧ ¬[false, false] <+: Bits.ofWord coded) ∧
    (∀ run, run ∈ sample.highs ∨ run ∈ sample.lows →
      run = bitTicks ∨ run = 2 * bitTicks ∨ run = 3 * bitTicks) ∧
    (∀ count ∈ paddedRuns coded,
      (UInt16.ofNat count * UInt16.ofNat bitTicks).toNat = count * bitTicks) ∧
    (sample.runs = (paddedRuns coded).map (· * bitTicks) ∧
      sample.lows.length = sample.highs.length ∧ sample.highs.length ≤ 11) ∧
    sample.highs.sum + sample.lows.sum =
      if (bitRuns coded).length % 2 = 0 then 21 * bitTicks else 22 * bitTicks := by
  intro timing bitTicks coded sample
  obtain ⟨lasts, short⟩ := replyBitTicks_bounds clockHz
  -- The code bits leave room for zeros, whatever the word.
  obtain ⟨left, kept⟩ : ∃ left, roomAfter 2 1 (Bits.ofWord coded) = some left :=
    (roomAfter_encodeWord word).elim (⟨1, ·⟩) (⟨2, ·⟩)
  have runs : sample.runs = (paddedRuns coded).map (· * bitTicks) := runs_capture coded bitTicks
  have complete : sample.lows.length = sample.highs.length := length_lows_capture coded bitTicks
  refine ⟨⟨lasts, short⟩, ⟨GroupCode.toNat_shiftIn_lt word, ?_⟩,
    ⟨not_consecutive_zeros kept (by decide), not_replicate_prefix kept⟩, ?_, ?_,
    ⟨runs, complete, length_highs_capture_le coded bitTicks⟩, ?_⟩
  · rw [GroupCode.shiftIn_eq, BitVec.setWidth_setWidth_of_le _ (by decide), BitVec.setWidth_eq]
  · intro run listed
    rw [← Capture.mem_runs_iff complete, runs, List.mem_map] at listed
    obtain ⟨count, counted, rfl⟩ := listed
    obtain ⟨some, few⟩ := bounds_of_mem_paddedRuns counted
    -- A run lasts at least one bit and at most three.
    have bits : count = 1 ∨ count = 2 ∨ count = 3 := by omega
    rcases bits with rfl | rfl | rfl
    · exact .inl (Nat.one_mul _)
    · exact .inr (.inl rfl)
    · exact .inr (.inr rfl)
  · intro count counted
    -- Three times 5726 ticks are 17178, which is far below the limit.
    have product := Nat.mul_le_mul (bounds_of_mem_paddedRuns counted).2 short
    exact toNat_mul_of_lt (Nat.lt_of_le_of_lt product (by decide))
  · have total : sample.highs.sum + sample.lows.sum = (paddedRuns coded).sum * bitTicks :=
      sum_capture coded bitTicks
    rw [total, sum_paddedRuns]
    split <;> rfl

end LineCode

end MotorLink
