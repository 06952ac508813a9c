import Mathlib.Algebra.BigOperators.Group.List.Basic
import MotorLink.Proofs.Line.Capture
import MotorLink.Proofs.Reply.GroupCode

/-! The line code writes each coded word as one line word, in runs of at most three bits. -/

namespace MotorLink.LineCode

open Capture (alternate)

/-- The levels of a line begin with the one that it starts at. -/
theorem levels_eq_cons (start : Bool) (bits : List Bool) :
    ∃ rest, levels start bits = start :: rest := by
  cases bits <;> exact ⟨_, rfl⟩

/-- There is one level more than there are bits. -/
@[simp] theorem length_levels (start : Bool) (bits : List Bool) :
    (levels start bits).length = bits.length + 1 := by
  -- Each bit leads to one more level, whichever level it starts from.
  induction bits generalizing start with
  | nil => rfl
  | cons bit rest ih => simp [levels, ih]

/-- The changes between successive levels. -/
def differences (levels : List Bool) : List Bool := levels.zipWith (· != ·) levels.tail

/-- The changes between the levels of a line are its bits. -/
@[simp] theorem differences_levels (start : Bool) (bits : List Bool) :
    differences (levels start bits) = bits := by
  -- The first change is between the starting level and the one that the first bit leads to.
  induction bits generalizing start with
  | nil => rfl
  | cons bit rest ih =>
    obtain ⟨later, spelled⟩ := levels_eq_cons (start != bit) rest
    have tail := ih (start != bit)
    simp only [differences, levels, spelled, List.tail_cons, List.zipWith_cons_cons] at tail ⊢
    rw [tail]
    simp

/-- Levels are those of their changes from the first one on. -/
theorem levels_differences (start : Bool) (rest : List Bool) :
    levels start (differences (start :: rest)) = start :: rest := by
  -- Each difference leads from one level to the next one in the list.
  induction rest generalizing start with
  | nil => rfl
  | cons next rest ih =>
    have tail := ih next
    simp only [differences, List.tail_cons, List.zipWith_cons_cons, levels] at tail ⊢
    simp [tail]

/-- The ones of the coded word of a line mark the changes between its bits. -/
theorem ofWord_changes (line : BitVec 21) :
    Bits.ofWord (changes line) = differences (Bits.ofWord line) := by
  -- The coded word drops the first line bit, which has none before it to differ from.
  apply List.ext_getElem
  · simp [differences]
  · intro index inside within
    have bound : index < 20 := by simpa using inside
    simp [differences, changes, BitVec.getMsbD_eq_getLsbD]
    grind

/-- The line word of a coded word, which begins low. -/
def lineOf (coded : BitVec 20) : BitVec 21 := Bits.toWord 21 (levels false (Bits.ofWord coded))

/-- The bits of a line word are the levels that the coded word leads through. -/
theorem ofWord_lineOf (coded : BitVec 20) :
    Bits.ofWord (lineOf coded) = levels false (Bits.ofWord coded) :=
  Bits.ofWord_toWord (by simp)

/-- Every coded word is read back off its line word. -/
@[simp] theorem changes_lineOf (coded : BitVec 20) : changes (lineOf coded) = coded := by
  -- Two coded words with the same bits are the same.
  apply Bits.ofWord_injective
  rw [ofWord_changes, ofWord_lineOf, differences_levels]

/-- A line word that begins low is that of the coded word read off it. -/
theorem lineOf_changes {line : BitVec 21} (low : (Bits.ofWord line).head? = some false) :
    lineOf (changes line) = line := by
  -- The line word begins with the level that the walk through its changes starts at.
  apply Bits.ofWord_injective
  obtain ⟨rest, spelled⟩ := List.head?_eq_some_iff.mp low
  rw [ofWord_lineOf, ofWord_changes, spelled, levels_differences]

/-- Levels have a first run. -/
theorem runLengths_eq_cons (first : Bool) (rest : List Bool) :
    ∃ run runs, runLengths (first :: rest) = run :: runs := by
  -- A level makes a run of its own or joins the first run of the rest.
  cases rest with
  | nil => exact ⟨1, [], rfl⟩
  | cons next rest =>
    rw [runLengths]
    split
    · exact ⟨1, [], rfl⟩
    · split <;> exact ⟨_, _, rfl⟩

/-- A first bit that is one makes a run of its own; a zero makes the first run longer. -/
theorem runLengths_levels_cons (start bit : Bool) (rest : List Bool) :
    ∃ run runs, runLengths (levels (start != bit) rest) = run :: runs ∧
      runLengths (levels start (bit :: rest)) =
        if bit then 1 :: run :: runs else (run + 1) :: runs := by
  obtain ⟨later, spelled⟩ := levels_eq_cons (start != bit) rest
  obtain ⟨run, runs, counted⟩ := runLengths_eq_cons (start != bit) later
  refine ⟨run, runs, by rw [spelled, counted], ?_⟩
  -- The level stays the same exactly when the bit is zero.
  rw [levels, spelled, runLengths, counted]
  cases bit <;> cases start <;> rfl

/-- The alternating runs of a line give its levels back. -/
theorem alternate_runLengths (start : Bool) (bits : List Bool) :
    alternate start (runLengths (levels start bits)) = levels start bits := by
  -- A bit either begins a run or makes the first run of the rest longer by one.
  induction bits generalizing start with
  | nil => rfl
  | cons bit rest ih =>
    obtain ⟨run, runs, counted, spelled⟩ := runLengths_levels_cons start bit rest
    have tail := ih (start != bit)
    rw [counted] at tail
    rw [spelled, levels, ← tail]
    cases bit <;> simp [alternate, List.replicate_succ]

/-- Every run of a line lasts some bit. -/
theorem runLengths_levels_pos (start : Bool) (bits : List Bool) :
    ∀ run ∈ runLengths (levels start bits), 0 < run := by
  -- A new run lasts one bit, and a run that grows lasts more than before.
  induction bits generalizing start with
  | nil => simp [levels, runLengths]
  | cons bit rest ih =>
    obtain ⟨run, runs, counted, spelled⟩ := runLengths_levels_cons start bit rest
    have tail := ih (start != bit)
    rw [counted] at tail
    rw [spelled]
    cases bit
    · simpa using fun other listed => tail other (List.mem_cons_of_mem run listed)
    · simpa using tail

/-- The room for zeros after some bits, where so many may follow a one; none once exceeded. -/
def roomAfter (most : Nat) : Nat → List Bool → Option Nat
  | room, [] => some room
  | _, true :: rest => roomAfter most most rest
  | room + 1, false :: rest => roomAfter most room rest
  | 0, false :: _ => none

/-- The room after a list of bits is what the rest of the bits begins with. -/
theorem roomAfter_append (most room : Nat) (first second : List Bool) :
    roomAfter most room (first ++ second) =
      (roomAfter most room first).bind (roomAfter most · second) := by
  -- The induction follows the automaton, whose state is the room that is left.
  fun_induction roomAfter most room first with
  | case1 => rfl
  | case2 _ _ ih => simpa [roomAfter] using ih
  | case3 _ _ ih => simpa [roomAfter] using ih
  | case4 => simp [roomAfter]

/-- A code begins with at most one zero, holds no three together and ends with at most one. -/
theorem roomAfter_encode (nibble : BitVec 4) {room : Nat} (before : room = 1 ∨ room = 2) :
    roomAfter 2 room (Bits.ofWord (GroupCode.encode nibble)) = some 1 ∨
      roomAfter 2 room (Bits.ofWord (GroupCode.encode nibble)) = some 2 := by
  -- Sixteen codes, each after a group that ends in a one or in a zero.
  rcases before with rfl | rfl <;> revert nibble <;> decide

/-- Codes after a group that leaves room keep within it and leave room again. -/
theorem roomAfter_append_encode {bits : List Bool} (nibble : BitVec 4)
    (before : roomAfter 2 1 bits = some 1 ∨ roomAfter 2 1 bits = some 2) :
    roomAfter 2 1 (bits ++ Bits.ofWord (GroupCode.encode nibble)) = some 1 ∨
      roomAfter 2 1 (bits ++ Bits.ofWord (GroupCode.encode nibble)) = some 2 := by
  -- Either state that the earlier bits leave is one that a code may start in.
  rw [roomAfter_append]
  rcases before with left | left <;> rw [left]
  · exact roomAfter_encode nibble (.inl rfl)
  · exact roomAfter_encode nibble (.inr rfl)

/-- The bits of a coded word begin with at most one zero and hold no three together. -/
theorem roomAfter_encodeWord (word : BitVec 16) :
    roomAfter 2 1 (Bits.ofWord (GroupCode.encodeWord word)) = some 1 ∨
      roomAfter 2 1 (Bits.ofWord (GroupCode.encodeWord word)) = some 2 := by
  simp only [GroupCode.encodeWord, Bits.ofWord_append]
  -- The room that one group leaves is enough for the start of the next.
  refine roomAfter_append_encode _ (roomAfter_append_encode _ (roomAfter_append_encode _ ?_))
  exact roomAfter_encode _ (.inl rfl)

/-- Bits that keep within the room for zeros make runs that are longer by one bit at most. -/
theorem runLengths_levels_le {most room left : Nat} {bits : List Bool}
    (kept : roomAfter most room bits = some left) (within : room ≤ most) (start : Bool) :
    ∃ run runs, runLengths (levels start bits) = run :: runs ∧ run ≤ room + 1 ∧
      ∀ later ∈ runs, later ≤ most + 1 := by
  -- The first run may still grow by a bit for each zero that there is room for.
  induction bits generalizing room start with
  | nil => exact ⟨1, [], rfl, by omega, by simp⟩
  | cons bit rest ih =>
    obtain ⟨run, runs, counted, spelled⟩ := runLengths_levels_cons start bit rest
    cases bit with
    | true =>
      obtain ⟨first, others, same, short, later⟩ := ih kept (Nat.le_refl most) (start != true)
      rw [counted] at same
      injection same with first_eq others_eq
      subst first_eq others_eq
      refine ⟨1, run :: runs, by simpa using spelled, by omega, ?_⟩
      simpa using ⟨short, later⟩
    | false =>
      match room with
      | 0 => simp [roomAfter] at kept
      | room + 1 =>
        have kept : roomAfter most room rest = some left := kept
        obtain ⟨first, others, same, short, later⟩ := ih kept (by omega) (start != false)
        rw [counted] at same
        injection same with first_eq others_eq
        subst first_eq others_eq
        exact ⟨run + 1, runs, by simpa using spelled, by omega, later⟩

/-- The runs of a coded word in bits, without the one that completes the last pair. -/
def bitRuns (coded : BitVec 20) : List Nat := runLengths (levels false (Bits.ofWord coded))

/-- The levels of a coded word are its alternating runs. -/
theorem alternate_bitRuns (coded : BitVec 20) :
    alternate false (bitRuns coded) = levels false (Bits.ofWord coded) :=
  alternate_runLengths false _

/-- The runs of a coded word last as many bits as a line word has. -/
theorem sum_bitRuns (coded : BitVec 20) : (bitRuns coded).sum = Capture.replyBits := by
  -- A line word has one bit more than the coded word, and its runs cover all of them.
  rw [← Capture.length_alternate false, alternate_bitRuns, length_levels, Bits.length_ofWord]
  rfl

/-- Every run of a coded word lasts some bit. -/
theorem bitRuns_pos {coded : BitVec 20} {run : Nat} (listed : run ∈ bitRuns coded) : 0 < run :=
  runLengths_levels_pos false _ run listed

/-- A word whose bits keep within the room for zeros has no run that is longer by two bits. -/
theorem bitRuns_le {most room left : Nat} {coded : BitVec 20}
    (kept : roomAfter most room (Bits.ofWord coded) = some left) (within : room ≤ most) {run : Nat}
    (listed : run ∈ bitRuns coded) : run ≤ most + 1 := by
  obtain ⟨first, others, spelled, short, later⟩ := runLengths_levels_le kept within false
  rw [bitRuns, spelled, List.mem_cons] at listed
  -- The first run may have begun before, and each later one begins with a change.
  rcases listed with rfl | listed
  · omega
  · exact later run listed

/-- No coded reply makes a run of more than three bits. -/
theorem bitRuns_encodeWord_le {word : BitVec 16} {run : Nat}
    (listed : run ∈ bitRuns (GroupCode.encodeWord word)) : run ≤ 3 := by
  -- The first run has room for one zero, since the line starts low as if after a change.
  rcases roomAfter_encodeWord word with kept | kept <;> exact bitRuns_le kept (by decide) listed

/-- A capture that spells the runs of a coded word reads as its line word. -/
theorem lineWord_eq_lineOf {capture : Capture} {bitTicks : Nat} {coded : BitVec 20}
    (spells : capture.Spells bitTicks (bitRuns coded)) (positive : 0 < bitTicks) :
    capture.lineWord bitTicks = .ok (lineOf coded) := by
  rw [spells.lineWord_eq positive (sum_bitRuns coded), alternate_bitRuns, lineOf]

/-- An even number of elements laid out in pairs is the list again. -/
theorem flatMap_pairs {runs : List Nat} (even : runs.length % 2 = 0) :
    (pairs runs).flatMap (fun pair => [pair.1, pair.2]) = runs := by
  -- The pairing takes two elements at a time, and so does the induction.
  fun_induction pairs runs with
  | case1 first second rest ih =>
    simp only [List.length_cons] at even
    simpa using ih (by omega)
  | case2 rest odd =>
    -- What is no two elements and more is empty, since one element is odd.
    match rest with
    | [] => rfl
    | [_] => simp at even
    | first :: second :: rest => exact absurd rfl (odd first second rest)

/-- Each pair takes two elements. -/
theorem two_mul_length_pairs_le (runs : List Nat) : 2 * (pairs runs).length ≤ runs.length := by
  -- Each step of the pairing uses up two elements for one pair.
  fun_induction pairs runs with
  | case1 first second rest ih =>
    simp only [List.length_cons]
    omega
  | case2 => simp

/-- The capture of no more than the greatest number of pairs has their runs in order. -/
theorem runs_ofPairs {pairs : List (Nat × Nat)} (few : pairs.length ≤ Capture.maxPairs) :
    (Capture.ofPairs pairs).runs = pairs.flatMap fun pair => [pair.1, pair.2] := by
  rw [Capture.runs, Capture.ofPairs, List.take_of_length_le few, List.zip_map']
  simp

/-- The run that completes the last pair of a coded word, if its runs are odd in number. -/
def padding (coded : BitVec 20) : List Nat := if (bitRuns coded).length % 2 = 0 then [] else [1]

/-- The padding comes after all runs of a coded word. -/
theorem paddedRuns_eq (coded : BitVec 20) : paddedRuns coded = bitRuns coded ++ padding coded := by
  -- Both sides look at whether the runs are odd in number.
  unfold paddedRuns padding
  change (if (bitRuns coded).length % 2 = 0 then bitRuns coded else bitRuns coded ++ [1]) = _
  split <;> simp

/-- The padded runs of a coded word are even in number and at most twenty-two. -/
theorem length_paddedRuns (coded : BitVec 20) :
    (paddedRuns coded).length % 2 = 0 ∧ (paddedRuns coded).length ≤ 22 := by
  -- Twenty-one bits make at most as many runs, and the padding makes these even.
  have few : (bitRuns coded).length ≤ 21 := by
    have sum := List.length_le_sum_of_one_le (bitRuns coded) fun run listed => bitRuns_pos listed
    rwa [sum_bitRuns] at sum
  rw [paddedRuns_eq, padding]
  split
  · simp
    omega
  · simp
    omega

/-- The runs of the capture of a coded word are its padded runs at the length of a bit. -/
theorem runs_capture (coded : BitVec 20) (bitTicks : Nat) :
    (capture coded bitTicks).runs = (paddedRuns coded).map (· * bitTicks) := by
  -- Few enough pairs are all kept, and an even list in pairs is the list again.
  obtain ⟨even, few⟩ := length_paddedRuns coded
  have within := two_mul_length_pairs_le (paddedRuns coded)
  rw [capture, runs_ofPairs (by simp only [List.length_map, Capture.maxPairs]; omega),
    List.flatMap_map, ← flatMap_pairs even, List.map_flatMap, flatMap_pairs even]
  rfl

/-- A product of bits and ticks that has room in sixteen bits is not cut there. -/
theorem toNat_mul_of_lt {count bitTicks : Nat} (room : count * bitTicks < UInt16.size) :
    (UInt16.ofNat count * UInt16.ofNat bitTicks).toNat = count * bitTicks := by
  rw [← UInt16.ofNat_mul]
  exact UInt16.toNat_ofNat_of_lt' room

/-- The capture of a coded word spells the runs of the word. -/
theorem spells_capture (coded : BitVec 20) {bitTicks : Nat} (positive : 0 < bitTicks) :
    (capture coded bitTicks).Spells bitTicks (bitRuns coded) := by
  have pairs := congrArg List.length (runs_capture coded bitTicks)
  rw [Capture.length_runs, List.length_map, paddedRuns_eq, List.length_append] at pairs
  -- Each run is a whole number of bits long, so it stands for just these.
  have exact : ∀ index (inside : index < (bitRuns coded).length),
      Capture.bitsInRun bitTicks ((capture coded bitTicks).run index) = (bitRuns coded)[index] := by
    intro index inside
    have found := (capture coded bitTicks).getElem?_runs
      (show index < 2 * (capture coded bitTicks).length by omega)
    rw [runs_capture, paddedRuns_eq, List.getElem?_map,
      List.getElem?_append_left inside, List.getElem?_eq_getElem inside] at found
    have length : (bitRuns coded)[index] * bitTicks = (capture coded bitTicks).run index :=
      Option.some.inj found
    rw [← length]
    refine Capture.bitsInRun_eq (bitRuns_pos (List.getElem_mem inside)) (by omega) ?_
    rw [Nat.succ_mul]
    omega
  exact ⟨by omega, fun index inside _ => exact index inside,
    fun index inside _ => Nat.le_of_eq (exact index inside).symm⟩

/-- The capture of a coded word reads as its line word. -/
theorem lineWord_capture (coded : BitVec 20) {bitTicks : Nat} (positive : 0 < bitTicks) :
    (capture coded bitTicks).lineWord bitTicks = .ok (lineOf coded) :=
  lineWord_eq_lineOf (spells_capture coded positive) positive

end MotorLink.LineCode
