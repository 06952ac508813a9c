import Mathlib.Algebra.Order.Ring.Nat
import MotorLink.Line.Capture
import MotorLink.Proofs.Line.Bits

/-! The bits that a capture stands for are the copies of its run levels, cut at a reply's length. -/

namespace MotorLink.Capture

/-- The levels of alternating runs, each lasting a number of bits. -/
def alternate : Bool → List Nat → List Bool
  | _, [] => []
  | level, count :: rest => List.replicate count level ++ alternate (!level) rest

/-- Alternating runs last as many bits as their lengths add up to. -/
@[simp] theorem length_alternate (level : Bool) (counts : List Nat) :
    (alternate level counts).length = counts.sum := by
  -- The starting level turns over at each run, so it stays general.
  induction counts generalizing level with
  | nil => rfl
  | cons count rest ih => simp [alternate, ih]

/-- Filling up a limited room takes the first levels of the alternating runs. -/
theorem levelsFrom_eq_take (bitTicks room : Nat) (level : Bool) (runs : List Nat) :
    levelsFrom bitTicks room level runs =
      (alternate level (runs.map (bitsInRun bitTicks))).take room := by
  -- Each run uses up some room, and only what remains is left to the later runs.
  induction runs generalizing room level with
  | nil => simp [levelsFrom, alternate]
  | cons run rest ih =>
    rw [levelsFrom, ih, List.map_cons, alternate, List.take_append, List.take_replicate,
      List.length_replicate]
    congr 2
    · exact Nat.min_comm _ _
    -- A run that does not fit leaves no room, just as one that fills the room does.
    · omega

/-- Every run stands for some bit. -/
theorem bitsInRun_pos (bitTicks run : Nat) : 0 < bitsInRun bitTicks run := by
  unfold bitsInRun
  omega

/-- A run of no less than a number of bits, less half a bit, stands for at least that number. -/
theorem le_bitsInRun {bitTicks run count : Nat} (positive : 0 < bitTicks)
    (long : count * bitTicks ≤ run + bitTicks / 2) : count ≤ bitsInRun bitTicks run := by
  have whole : count ≤ (run + bitTicks / 2) / bitTicks := (Nat.le_div_iff_mul_le positive).mpr long
  unfold bitsInRun
  omega

/-- A run within half a bit of a positive number of bits stands for exactly that number. -/
theorem bitsInRun_eq {bitTicks run count : Nat} (positive : 0 < count)
    (long : count * bitTicks ≤ run + bitTicks / 2)
    (short : run + bitTicks / 2 < (count + 1) * bitTicks) : bitsInRun bitTicks run = count := by
  have whole : (run + bitTicks / 2) / bitTicks = count :=
    Nat.div_eq_of_lt_le long short
  unfold bitsInRun
  omega

/-- The length of a run of a capture in the order of time, the first one being high. -/
def run (capture : Capture) (index : Nat) : Nat :=
  if index % 2 = 0 then capture.highs.getD (index / 2) 0 else capture.lows.getD (index / 2) 0

/-- Two runs stand in each complete pair. -/
@[simp] theorem length_runs (capture : Capture) : capture.runs.length = 2 * capture.length := by
  simp [runs, length, List.length_flatMap, List.map_const', Nat.mul_comm]

/-- Pairs laid out one after the other keep the order within each pair. -/
theorem getElem?_flatten_pairs (pairs : List (Nat × Nat)) (index : Nat) :
    (pairs.flatMap fun pair => [pair.1, pair.2])[index]? =
      (pairs[index / 2]?).map fun pair => if index % 2 = 0 then pair.1 else pair.2 := by
  -- A step in the list of pairs is a step of two in the flat list.
  induction pairs generalizing index with
  | nil => simp
  | cons pair rest ih =>
    rw [List.flatMap_cons]
    match index with
    | 0 => simp
    | 1 => simp
    -- Past the first pair both sides look two positions back.
    | later + 2 =>
      have half : (later + 2) / 2 = later / 2 + 1 := by omega
      simp [ih, half]

/-- The runs of the complete pairs are those of the capture. -/
theorem getElem?_runs (capture : Capture) {index : Nat} (inside : index < 2 * capture.length) :
    capture.runs[index]? = some (capture.run index) := by
  -- Of the two lists the shorter one decides how many pairs are complete.
  have half : index / 2 < min capture.highs.length capture.lows.length := by
    unfold length at inside
    omega
  have high : index / 2 < capture.highs.length := by omega
  have low : index / 2 < capture.lows.length := by omega
  rw [runs, getElem?_flatten_pairs]
  simp [run, List.zip, high, low]

/-- Runs that agree with lengths up to the last, which they may exceed, begin with their levels. -/
theorem take_alternate {counts found : List Nat} (level : Bool)
    (enough : counts.length ≤ found.length)
    (inner : ∀ index, index + 1 < counts.length → found[index]? = counts[index]?)
    (last : ∀ index count bits, index + 1 = counts.length → counts[index]? = some count →
      found[index]? = some bits → count ≤ bits) :
    (alternate level found).take counts.sum = alternate level counts := by
  -- Both lists are walked together, a run at a time, and the level turns over with each.
  induction counts generalizing level found with
  | nil => simp [alternate]
  | cons count rest ih =>
    match found with
    | [] => simp at enough
    | bits :: more =>
      match rest with
      | [] =>
        -- What the last run has too much of is cut off with everything after it.
        have long : count ≤ bits := last 0 count bits rfl rfl rfl
        simp [alternate, List.take_append, List.take_replicate, Nat.min_eq_left long,
          Nat.sub_eq_zero_of_le long]
      | next :: rest =>
        have same : bits = count := by simpa using inner 0 (by simp)
        subst same
        have tail : (alternate (!level) more).take (next :: rest).sum =
            alternate (!level) (next :: rest) :=
          ih (!level) (by simpa using enough)
            (fun index inside => by simpa using inner (index + 1) (by simpa using inside))
            (fun index count bits ends => by
              simpa using last (index + 1) count bits (by simpa using ends))
        rw [List.sum_cons, alternate, alternate, List.take_append, List.length_replicate,
          List.take_of_length_le (by simp), Nat.add_sub_cancel_left, tail]

/-- The line bits of a reply are the first levels that the runs stand for, if these are enough. -/
theorem lineWord_eq (capture : Capture) {bitTicks : Nat} (positive : 0 < bitTicks) :
    capture.lineWord bitTicks =
      let bits := alternate false (capture.runs.map (bitsInRun bitTicks))
      if bits.length < replyBits then .error bits.length
      else .ok (Bits.toWord 21 (bits.take replyBits)) := by
  -- With a bit length the runs do stand for bits, and filling up the room is a cut.
  simp only [lineWord, levelsFrom_eq_take, if_neg (by omega : bitTicks ≠ 0), List.length_take]
  -- Below the limit nothing is cut, so both lengths are the same.
  split <;> rename_i few
  · rw [if_pos (by omega), Nat.min_eq_right (by omega)]
  · rw [if_neg (by omega)]

/-- The first line bit of a reply is low, since the first run is and stands for some bit. -/
theorem head?_of_lineWord {capture : Capture} {bitTicks : Nat} {line : BitVec 21}
    (read : capture.lineWord bitTicks = .ok line) : (Bits.ofWord line).head? = some false := by
  have positive : 0 < bitTicks := by
    apply Nat.pos_of_ne_zero
    rintro rfl
    simp [lineWord] at read
  rw [lineWord_eq capture positive] at read
  dsimp only at read
  split at read
  · simp at read
  · rename_i enough
    injection read with word
    -- The word holds exactly the bits that are not cut off.
    have width : ((alternate false (capture.runs.map (bitsInRun bitTicks))).take replyBits).length =
        21 := by
      simp only [List.length_take, replyBits] at enough ⊢
      omega
    rw [← word, Bits.ofWord_toWord width, List.head?_take, if_neg (by decide)]
    cases listed : capture.runs with
    | nil => simp [listed, alternate, replyBits] at enough
    | cons first rest =>
      obtain ⟨more, spelled⟩ := Nat.exists_eq_add_of_lt (bitsInRun_pos bitTicks first)
      simp [alternate, spelled, List.replicate_succ]

/-- A capture spells bit counts: each run stands for its own, the last one for no fewer. -/
structure Spells (capture : Capture) (bitTicks : Nat) (counts : List Nat) : Prop where
  enough : counts.length ≤ 2 * capture.length
  inner : ∀ index (inside : index < counts.length), index + 1 < counts.length →
    bitsInRun bitTicks (capture.run index) = counts[index]
  last : ∀ index (inside : index < counts.length), index + 1 = counts.length →
    counts[index] ≤ bitsInRun bitTicks (capture.run index)

/-- A capture that spells the bit counts of a reply reads as their alternating levels. -/
theorem Spells.lineWord_eq {capture : Capture} {bitTicks : Nat} {counts : List Nat}
    (spells : capture.Spells bitTicks counts) (positive : 0 < bitTicks)
    (total : counts.sum = replyBits) :
    capture.lineWord bitTicks = .ok (Bits.toWord 21 (alternate false counts)) := by
  -- What the capture itself has in each place is known from its complete pairs.
  have found : ∀ index, index < counts.length →
      (capture.runs.map (bitsInRun bitTicks))[index]? =
        some (bitsInRun bitTicks (capture.run index)) := by
    intro index inside
    rw [List.getElem?_map, capture.getElem?_runs (Nat.lt_of_lt_of_le inside spells.enough)]
    rfl
  -- The runs begin with the levels of the counts, and these already make up the whole reply.
  have cut : (alternate false (capture.runs.map (bitsInRun bitTicks))).take counts.sum =
      alternate false counts := by
    refine take_alternate false (by simpa using spells.enough) ?_ ?_
    · intro index inside
      rw [found index (by omega), List.getElem?_eq_getElem (by omega),
        spells.inner index (by omega) inside]
    · intro index count bits ends counted read
      obtain ⟨inside, rfl⟩ := List.getElem?_eq_some_iff.mp counted
      rw [found index inside] at read
      injection read with read
      exact read ▸ spells.last index inside ends
  have long := congrArg List.length cut
  rw [List.length_take, length_alternate false counts] at long
  rw [capture.lineWord_eq positive]
  dsimp only
  rw [if_neg (by rw [← total]; omega), ← total, cut]

end MotorLink.Capture
