import Mathlib.Algebra.Order.Round
import Mathlib.Data.Rat.Floor
import Mathlib.Tactic.FieldSimp
import Mathlib.Tactic.Linarith
import MotorLink.Proofs.Line.Capture

/-! Expansion: the line bits of a capture are the first that its runs spell, each in its place. -/

namespace MotorLink.Capture

/-- The bits that a run lasts, to the nearest whole number, a half going up, and at least one. -/
def nearestBits (bitTicks run : Nat) : Nat := max 1 (round ((run : ℚ) / bitTicks)).toNat

/-- The bits that the first runs of a capture stand for, zeros and ones by turns. -/
def spelling (capture : Capture) (bitTicks count : Nat) : List Bool :=
  (List.range count).flatMap fun place =>
    List.replicate (nearestBits bitTicks (capture.run place)) (decide (place % 2 = 1))

/-- Adding half a divisor before a whole division rounds to the nearest, odd divisors included. -/
theorem div_add_half_eq_round {bitTicks : Nat} (positive : 0 < bitTicks) (run : Nat) :
    (((run + bitTicks / 2) / bitTicks : Nat) : ℤ) = round ((run : ℚ) / bitTicks) := by
  -- The sum lies between the multiple of the quotient and the next one.
  have low : (run + bitTicks / 2) / bitTicks * bitTicks ≤ run + bitTicks / 2 :=
    Nat.div_mul_le_self _ _
  have high : run + bitTicks / 2 < ((run + bitTicks / 2) / bitTicks + 1) * bitTicks :=
    (Nat.div_lt_iff_lt_mul positive).mp (Nat.lt_succ_self _)
  generalize (run + bitTicks / 2) / bitTicks = whole at low high
  -- Twice the sum leaves no half, but for the tick that an odd divisor lost.
  have below : whole * (2 * bitTicks) ≤ 2 * run + bitTicks := by
    have halves : 2 * (bitTicks / 2) ≤ bitTicks := Nat.mul_div_le _ _
    linarith
  have above : 2 * run + bitTicks < (whole + 1) * (2 * bitTicks) := by
    have halves : bitTicks ≤ 2 * (bitTicks / 2) + 1 := by omega
    linarith
  have split : (run : ℚ) / bitTicks + 1 / 2 =
      (2 * run + bitTicks : Nat) / (2 * bitTicks : Nat) := by
    have apart : (bitTicks : ℚ) ≠ 0 := Nat.cast_ne_zero.mpr (Nat.ne_of_gt positive)
    push_cast
    field_simp
  have twice : (0 : ℚ) < (2 * bitTicks : Nat) := Nat.cast_pos.mpr (by omega)
  rw [round_eq, split, eq_comm, Int.floor_eq_iff, le_div_iff₀ twice, div_lt_iff₀ twice]
  exact_mod_cast And.intro below above

/-- A run stands for the nearest number of bits that it lasts. -/
theorem bitsInRun_eq_nearestBits {bitTicks : Nat} (positive : 0 < bitTicks) (run : Nat) :
    bitsInRun bitTicks run = nearestBits bitTicks run := by
  rw [bitsInRun, nearestBits, ← div_add_half_eq_round positive, Int.toNat_natCast]

/-- Half a bit goes up, and any less of it down. -/
example : nearestBits 2 5 = 3 ∧ nearestBits 5 12 = 2 := by decide +kernel

/-- Alternating runs put the starting level in the even places and the other one in the odd ones. -/
theorem alternate_map_range (level : Bool) (lasts : Nat → Nat) (count : Nat) :
    alternate level ((List.range count).map lasts) = (List.range count).flatMap fun place =>
      List.replicate (lasts place) (level ^^ decide (place % 2 = 1)) := by
  -- Past the first run every place is one less, and starts from the other level.
  induction count generalizing level lasts with
  | zero => rfl
  | succ count ih =>
    have odd (place : Nat) :
        (level ^^ decide ((place + 1) % 2 = 1)) = (!level ^^ decide (place % 2 = 1)) := by
      rcases Nat.mod_two_eq_zero_or_one place with even | odd
      · rw [Nat.add_mod, even]; simp
      · rw [Nat.add_mod, odd]; simp
    rw [List.range_succ_eq_map, List.map_cons, List.map_map, alternate, ih, List.flatMap_cons,
      List.flatMap_map]
    simp [odd]

variable (capture : Capture) {bitTicks : Nat}

/-- The runs of the complete pairs are those of the capture by their places. -/
theorem runs_eq_map : capture.runs = (List.range (2 * capture.length)).map capture.run := by
  -- The two lists are compared place by place, also past their common end.
  apply List.ext_getElem?
  intro place
  rw [List.getElem?_map]
  by_cases inside : place < 2 * capture.length
  · rw [getElem?_runs capture inside, List.getElem?_range inside, Option.map_some]
  · rw [List.getElem?_eq_none (by rw [length_runs]; omega),
      List.getElem?_eq_none (by rw [List.length_range]; omega), Option.map_none]

/-- The alternating levels of the runs of a capture are what all of them spell. -/
theorem alternate_runs (positive : 0 < bitTicks) :
    alternate false (capture.runs.map (bitsInRun bitTicks)) =
      capture.spelling bitTicks (2 * capture.length) := by
  rw [runs_eq_map, List.map_map, alternate_map_range, spelling]
  simp only [Function.comp_apply, bitsInRun_eq_nearestBits positive, Bool.false_xor]

/-- More runs spell what fewer do, and then more. -/
theorem spelling_add (bitTicks count more : Nat) : ∃ rest,
    capture.spelling bitTicks (count + more) = capture.spelling bitTicks count ++ rest := by
  rw [spelling, List.range_add, List.flatMap_append]
  exact ⟨_, rfl⟩

/-- Runs spell at least one bit each. -/
theorem le_length_spelling (bitTicks count : Nat) :
    count ≤ (capture.spelling bitTicks count).length := by
  -- The last run is taken off, and spells no fewer bits than the one place that it takes.
  induction count with
  | zero => exact Nat.zero_le _
  | succ count ih =>
    have least : 1 ≤ nearestBits bitTicks (capture.run count) := Nat.le_max_left _ _
    unfold spelling at ih ⊢
    rw [List.range_succ, List.flatMap_append, List.length_append, List.flatMap_singleton,
      List.length_replicate]
    omega

/-- The same runs spell the same. -/
theorem spelling_congr {capture other : Capture} (bitTicks : Nat) {count : Nat}
    (agree : ∀ place < count, other.run place = capture.run place) :
    other.spelling bitTicks count = capture.spelling bitTicks count := by
  refine List.flatMap_congr fun place listed => ?_
  rw [agree place (List.mem_range.mp listed)]

/-- Complete runs that spell enough bits decide the line bits, whatever comes after them. -/
theorem lineWord_of_spelling {capture : Capture} {count : Nat} (positive : 0 < bitTicks)
    (complete : count ≤ 2 * capture.length)
    (enough : replyBits ≤ (capture.spelling bitTicks count).length) :
    capture.lineWord bitTicks =
      .ok (Bits.toWord 21 ((capture.spelling bitTicks count).take replyBits)) := by
  -- What all runs spell goes on from what these do, and the cut comes before that.
  obtain ⟨rest, more⟩ := capture.spelling_add bitTicks count (2 * capture.length - count)
  rw [Nat.add_sub_cancel' complete] at more
  rw [lineWord_eq capture positive]
  dsimp only
  rw [alternate_runs capture positive, more, if_neg (by rw [List.length_append]; omega),
    List.take_append_of_le_length enough]

/-- Captures that agree in runs which spell enough bits have the same line bits. -/
theorem lineWord_congr {capture other : Capture} (bitTicks count : Nat)
    (complete : count ≤ 2 * capture.length) (alike : count ≤ 2 * other.length)
    (agree : ∀ place < count, other.run place = capture.run place)
    (enough : replyBits ≤ (capture.spelling bitTicks count).length) :
    other.lineWord bitTicks = capture.lineWord bitTicks := by
  rcases Nat.eq_zero_or_pos bitTicks with rfl | positive
  · -- Without a bit length neither has any line bits.
    rfl
  · have same := spelling_congr bitTicks agree
    rw [lineWord_of_spelling positive complete enough,
      lineWord_of_spelling positive alike (same ▸ enough), same]

/-- Cutting a capture does not change its line bits, as enough of its runs are left. -/
theorem lineWord_ofPairs (pairs : List (Nat × Nat)) (bitTicks : Nat) :
    (ofPairs pairs).lineWord bitTicks =
      (⟨pairs.map Prod.fst, pairs.map Prod.snd⟩ : Capture).lineWord bitTicks := by
  rcases Nat.lt_or_ge maxPairs pairs.length with long | short
  · -- Each of the runs that are left spells some bit, and there are more of them than line bits.
    refine lineWord_congr bitTicks (2 * maxPairs) ?_ ?_ (fun place inside => ?_) ?_
    · simp only [length, List.length_map]
      omega
    · simp only [length, ofPairs, List.length_map, List.length_take]
      omega
    · have half : place / 2 < maxPairs := by omega
      simp only [run, ofPairs, List.map_take, List.getD_eq_getElem?_getD,
        List.getElem?_take_of_lt half]
    · exact Nat.le_trans (by decide) (le_length_spelling _ _ _)
  · rw [ofPairs, List.take_of_length_le short]

/-- The capture of pairs of runs keeps the first sixty-four of them, each with both of its runs. -/
theorem zip_ofPairs (pairs : List (Nat × Nat)) :
    (ofPairs pairs).highs.zip (ofPairs pairs).lows = pairs.take 64 ∧
      (ofPairs pairs).highs.length = (ofPairs pairs).lows.length := by
  rw [ofPairs, List.length_map, List.length_map]
  exact ⟨(List.zip_of_prod rfl rfl).symm, rfl⟩

/--
The line bits of any capture are the first that its runs spell, if these are enough for a reply.

A run in an even place stands for zeros and one in an odd place for ones, as many as bits fit in it
to the nearest whole number, and at least one.
The first bit spelled is the most significant one, and is zero; too few bits are counted instead,
and without a bit length there are none.
No run after the last line bit matters, and so neither does the cut that captures are made with,
which leaves the first sixty-four pairs.
-/
theorem lineWord_eq_spelling (capture : Capture) (bitTicks : Nat) :
    let bits := capture.spelling bitTicks (2 * capture.length)
    (bitTicks = 0 → capture.lineWord bitTicks = .error 0) ∧
    (0 < bitTicks → bits.length < replyBits → capture.lineWord bitTicks = .error bits.length) ∧
    (0 < bitTicks → replyBits ≤ bits.length → ∃ word, capture.lineWord bitTicks = .ok word ∧
      (∀ place ≤ 20, bits[place]? = some (word.getLsbD (20 - place))) ∧
      word.getLsbD 20 = false) ∧
    (∀ (other : Capture) (count : Nat), count ≤ 2 * capture.length → count ≤ 2 * other.length →
      (∀ place < count, other.run place = capture.run place) →
      replyBits ≤ (capture.spelling bitTicks count).length →
      other.lineWord bitTicks = capture.lineWord bitTicks) ∧
    ∀ pairs,
      ((ofPairs pairs).highs.zip (ofPairs pairs).lows = pairs.take 64 ∧
        (ofPairs pairs).highs.length = (ofPairs pairs).lows.length) ∧
      (ofPairs pairs).lineWord bitTicks =
        (⟨pairs.map Prod.fst, pairs.map Prod.snd⟩ : Capture).lineWord bitTicks := by
  intro bits
  refine ⟨fun lacking => by rw [lineWord, if_pos lacking], fun positive few => ?_,
    fun positive enough => ?_, fun other count complete alike agree enough =>
      lineWord_congr bitTicks count complete alike agree enough,
    fun pairs => ⟨zip_ofPairs pairs, lineWord_ofPairs pairs bitTicks⟩⟩
  · rw [lineWord_eq capture positive, alternate_runs capture positive]
    exact if_pos few
  · have read := lineWord_of_spelling positive (Nat.le_refl _) enough
    have full : (bits.take replyBits).length = 21 := by
      rw [List.length_take]
      exact Nat.min_eq_left enough
    have shown {place : Nat} (inside : place ≤ 20) := Bits.getElem?_of_toWord full
      (show place < 21 by omega)
    refine ⟨_, read, fun place inside => ?_, ?_⟩
    · have within : place < replyBits := by unfold replyBits; omega
      rw [← List.getElem?_take_of_lt within]
      exact shown inside
    · -- The first bit comes from the first run, which is high and stands for zeros.
      have first := head?_of_lineWord read
      rw [Bits.ofWord_toWord full, List.head?_eq_getElem?, shown (Nat.zero_le _)] at first
      exact Option.some.inj first

end MotorLink.Capture
