import Mathlib.Algebra.BigOperators.Ring.List
import Mathlib.Algebra.Group.Nat.Even
import MotorLink.Proofs.Reply.LineCode

/-! The line code is a bijection: coded words and the line bits of captures determine each other. -/

namespace MotorLink

namespace Capture

/-- Where no run lacks the other one of its pair, the runs are those of both levels. -/
theorem perm_runs {capture : Capture} (complete : capture.lows.length = capture.highs.length) :
    capture.runs.Perm (capture.highs ++ capture.lows) := by
  -- Both lists are what the complete pairs have first and second.
  have highs : (capture.highs.zip capture.lows).map Prod.fst = capture.highs :=
    List.map_fst_zip (Nat.le_of_eq complete.symm)
  have lows : (capture.highs.zip capture.lows).map Prod.snd = capture.lows :=
    List.map_snd_zip (Nat.le_of_eq complete)
  rw [runs]
  generalize capture.highs.zip capture.lows = pairs at highs lows ⊢
  rw [← highs, ← lows]
  clear highs lows
  induction pairs with
  | nil => exact .nil
  | cons pair rest ih =>
    -- The second run of the first pair moves behind the first runs of all others.
    simp only [List.flatMap_cons, List.map_cons, List.cons_append, List.nil_append]
    exact .cons _ ((List.Perm.cons _ ih).trans List.perm_middle.symm)

/-- Where no run lacks the other one of its pair, the runs are all lengths of both levels. -/
theorem mem_runs_iff {capture : Capture} (complete : capture.lows.length = capture.highs.length)
    {run : Nat} : run ∈ capture.runs ↔ run ∈ capture.highs ∨ run ∈ capture.lows := by
  rw [(perm_runs complete).mem_iff, List.mem_append]

/-- The line bits of a reply leave the top bit of their word unused. -/
theorem toNat_lt_of_lineWord {capture : Capture} {bitTicks : Nat} {line : BitVec 21}
    (read : capture.lineWord bitTicks = .ok line) : line.toNat < 2 ^ 20 := by
  -- The bit that is sent first is low, and it is the most significant one.
  have low : line.msb = false := by
    have first := head?_of_lineWord read
    rw [List.head?_eq_getElem?, List.getElem?_eq_getElem (by simp), Bits.getElem_ofWord,
      ← BitVec.msb_eq_getMsbD_zero] at first
    exact Option.some.inj first
  have half := BitVec.msb_eq_false_iff_two_mul_lt.mp low
  omega

end Capture

namespace LineCode

/-- A line has one run more than its bits have ones, since each one begins a new run. -/
theorem length_runLengths_levels (start : Bool) (bits : List Bool) :
    (runLengths (levels start bits)).length = bits.count true + 1 := by
  -- A zero makes the first run longer, and only a one makes a run of its own.
  induction bits generalizing start with
  | nil => rfl
  | cons bit rest ih =>
    obtain ⟨run, runs, counted, spelled⟩ := runLengths_levels_cons start bit rest
    have tail := ih (start != bit)
    rw [counted] at tail
    rw [spelled]
    cases bit
    · simpa using tail
    · simpa using tail

/-- The last pair has to be completed exactly when the ones of the coded word are even in number. -/
theorem padding_ne_nil_iff (coded : BitVec 20) :
    padding coded ≠ [] ↔ Even ((Bits.ofWord coded).count true) := by
  -- One run more than there are ones is odd in number when these are even.
  have length := length_runLengths_levels false (Bits.ofWord coded)
  rw [padding, bitRuns, length, Nat.even_iff]
  split
  · simp only [ne_eq, not_true_eq_false, false_iff]
    omega
  · simp only [ne_eq, List.cons_ne_self, not_false_eq_true, true_iff]
    omega

/-- The run that completes the last pair lasts a single bit. -/
theorem eq_one_of_mem_padding {coded : BitVec 20} {run : Nat} (listed : run ∈ padding coded) :
    run = 1 := by
  -- There is at most this one run, if any at all.
  unfold padding at listed
  split at listed
  · simp at listed
  · exact List.mem_singleton.mp listed

/-- No capture of a coded word lacks the other run of a pair. -/
theorem length_lows_capture (coded : BitVec 20) (bitTicks : Nat) :
    (capture coded bitTicks).lows.length = (capture coded bitTicks).highs.length := by
  simp [capture, Capture.ofPairs]

/-- A capture of a coded word has at most eleven pairs. -/
theorem length_highs_capture_le (coded : BitVec 20) (bitTicks : Nat) :
    (capture coded bitTicks).highs.length ≤ 11 := by
  -- The padded runs are at most twenty-two, and each pair takes two of them.
  have even := length_lows_capture coded bitTicks
  have runs := congrArg List.length (runs_capture coded bitTicks)
  have most := (length_paddedRuns coded).2
  rw [Capture.length_runs, List.length_map, Capture.length, even, Nat.min_self] at runs
  omega

/-- Every run of a capture of a coded word lasts a whole number of bits, and at least one. -/
theorem exists_bits_of_mem_capture {coded : BitVec 20} {bitTicks run : Nat}
    (listed : run ∈ (capture coded bitTicks).highs ∨ run ∈ (capture coded bitTicks).lows) :
    ∃ bits, 0 < bits ∧ run = bits * bitTicks := by
  rw [← Capture.mem_runs_iff (length_lows_capture coded bitTicks), runs_capture,
    List.mem_map] at listed
  obtain ⟨bits, counted, rfl⟩ := listed
  refine ⟨bits, ?_, rfl⟩
  -- A run is one of the word itself, or it completes the last pair and lasts one bit.
  rw [paddedRuns_eq, List.mem_append] at counted
  rcases counted with own | added
  · exact bitRuns_pos own
  · rw [eq_one_of_mem_padding added]
    exact Nat.one_pos

/-- The runs of a coded word together last the ticks of twenty-one bits. -/
theorem sum_bitRuns_mul (coded : BitVec 20) (bitTicks : Nat) :
    ((bitRuns coded).map (· * bitTicks)).sum = 21 * bitTicks := by
  have total : (bitRuns coded).sum = 21 := sum_bitRuns coded
  rw [List.sum_map_mul_right, List.map_id', total]

/-- The line bits of any capture are those of the coded word that is read off them. -/
theorem lineWord_capture_changes {sample : Capture} {bitTicks : Nat} {line : BitVec 21}
    (read : sample.lineWord bitTicks = .ok line) {ticks : Nat} (positive : 0 < ticks) :
    (capture (changes line) ticks).lineWord ticks = .ok line := by
  -- Both line words begin low, so their level changes decide them.
  rw [lineWord_capture _ positive, lineOf_changes (Capture.head?_of_lineWord read)]

/--
The line code is a bijection between words of twenty bits and the line bits of captures.

Of a longer word only the low twenty bits are sent.
Their runs are whole numbers of bits and together as long as a line word.
One more run of a single bit completes the last pair where the ones are even in number.
Whatever a capture reads as is what the coded word read off it is sent as.
-/
theorem capture_bijective :
    (∀ (word : BitVec 32) (bitTicks : Nat), 0 < bitTicks →
      let coded : BitVec 20 := word.setWidth 20
      let sample := capture coded bitTicks
      sample.lows.length = sample.highs.length ∧ sample.highs.length ≤ 11 ∧
      (∀ run, run ∈ sample.highs ∨ run ∈ sample.lows → ∃ bits, 0 < bits ∧ run = bits * bitTicks) ∧
      (∃ runs pad, sample.runs = runs ++ pad ∧ runs.sum = 21 * bitTicks ∧
        (pad = [] ∨ pad = [bitTicks]) ∧ (pad ≠ [] ↔ Even ((Bits.ofWord coded).count true))) ∧
      ∃ line : BitVec 21, sample.lineWord bitTicks = .ok line ∧ line.toNat < 2 ^ 20 ∧
        (line ^^^ line >>> 1).setWidth 20 = coded) ∧
    ∀ (sample : Capture) (bitTicks : Nat) (line : BitVec 21),
      sample.lineWord bitTicks = .ok line →
        (capture ((line ^^^ line >>> 1).setWidth 20) 1).lineWord 1 = .ok line := by
  refine ⟨fun word bitTicks positive => ?_, fun sample bitTicks line read =>
    lineWord_capture_changes read Nat.one_pos⟩
  intro coded sample
  -- The runs are those of the coded word in ticks, and the padding is all that comes after them.
  have read := lineWord_capture coded positive
  refine ⟨length_lows_capture coded bitTicks, length_highs_capture_le coded bitTicks,
    fun run => exists_bits_of_mem_capture,
    ⟨(bitRuns coded).map (· * bitTicks), (padding coded).map (· * bitTicks), ?_,
      sum_bitRuns_mul coded bitTicks, ?_, ?_⟩,
    lineOf coded, read, Capture.toNat_lt_of_lineWord read, changes_lineOf coded⟩
  · rw [← List.map_append, ← paddedRuns_eq]
    exact runs_capture coded bitTicks
  · -- The run that completes the last pair lasts a single bit.
    unfold padding
    split
    · exact .inl rfl
    · exact .inr (by simp)
  · rw [ne_eq, List.map_eq_nil_iff]
    exact padding_ne_nil_iff coded

/-- A word without ones is one run, and what stretched runs read as is sent as it was read. -/
theorem capture_bijective_of_single_run :
    0 < 3120 ∧ capture 0 3120 = ⟨[21 * 3120], [3120]⟩ ∧
    (∃ line : BitVec 21, (capture 0 3120).lineWord 3120 = .ok line ∧ line.toNat < 2 ^ 20 ∧
      (line ^^^ line >>> 1).setWidth 20 = 0#20) ∧
    let stretched : Capture := ⟨160 :: List.replicate 8 53, 95 :: List.replicate 8 53⟩
    stretched.lineWord 53 = .ok 0x35555 ∧ (capture 0x2FFFF 1).lineWord 1 = .ok 0x35555 := by
  obtain ⟨-, -, -, -, single⟩ := capture_bijective.1 0 3120 (by decide)
  have read : Capture.lineWord ⟨160 :: List.replicate 8 53, 95 :: List.replicate 8 53⟩ 53 =
      .ok 0x35555 := by decide
  exact ⟨by decide, by decide, single, read, capture_bijective.2 _ 53 0x35555 read⟩

end LineCode

end MotorLink
