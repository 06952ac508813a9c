import MotorLink.Line.Bits

/-! A word and its bits in the order of transmission determine each other. -/

namespace MotorLink.Bits

/-- A word has as many bits as its width. -/
@[simp] theorem length_ofWord {width : Nat} (word : BitVec width) :
    (ofWord word).length = width := by
  simp [ofWord]

/-- The bits of a word stand in the order of transmission. -/
@[simp] theorem getElem_ofWord {width : Nat} (word : BitVec width) (index : Nat)
    (inside : index < (ofWord word).length) : (ofWord word)[index] = word.getMsbD index := by
  simp [ofWord]

/-- The bits of two words put together are those of the high word, then those of the low one. -/
theorem ofWord_append {high low : Nat} (first : BitVec high) (second : BitVec low) :
    ofWord (first ++ second) = ofWord first ++ ofWord second := by
  -- The lists have one length, so they are compared position by position.
  apply List.ext_getElem
  · simp
  · intro index inside within
    rw [getElem_ofWord, BitVec.getMsbD_append]
    -- A position past the high word is counted from the start of the low one.
    by_cases early : index < high
    · rw [List.getElem_append_left (by simpa using early), getElem_ofWord,
        if_neg (by omega)]
    · rw [List.getElem_append_right (by simpa using early), getElem_ofWord,
        if_pos (by omega), length_ofWord]

/-- Words of one width with the same bits are the same. -/
theorem ofWord_injective {width : Nat} {first second : BitVec width}
    (same : ofWord first = ofWord second) : first = second := by
  -- Equal lists agree at every position, and the positions cover the word.
  apply BitVec.eq_of_getMsbD_eq
  intro index inside
  have agree : (ofWord first)[index]? = (ofWord second)[index]? := by rw [same]
  simpa [List.getElem?_eq_getElem, inside] using agree

/-- Bits that shift in push the earlier ones up; a position past them still shows the old word. -/
theorem getLsbD_foldl_shiftConcat {width : Nat} (bits : List Bool) (word : BitVec width)
    (index : Nat) (inside : index < width) :
    (bits.foldl BitVec.shiftConcat word).getLsbD index =
      bits.reverse.getD index (word.getLsbD (index - bits.length)) := by
  -- The first bit to shift in ends up below the old word and above all later bits.
  induction bits generalizing word with
  | nil => simp
  | cons bit rest ih =>
    have bounded : index - rest.length < width := by omega
    rw [List.foldl_cons, ih, BitVec.getLsbD_shiftConcat, List.getD_eq_getElem?_getD,
      List.getD_eq_getElem?_getD, List.reverse_cons, List.getElem?_append, List.length_reverse,
      decide_eq_true bounded, Bool.true_and]
    rcases Nat.lt_trichotomy index rest.length with below | rfl | above
    · have within : index < rest.reverse.length := by simpa using below
      have present : rest.reverse[index]? = some rest.reverse[index] :=
        List.getElem?_eq_getElem within
      rw [if_pos below, present, Option.getD_some, Option.getD_some]
    · simp
    · -- Past both the bits and the new one it is the old word that shows.
      have absent : rest.reverse[index]? = none := List.getElem?_eq_none (by simp; omega)
      have past : [bit][index - rest.length]? = none := List.getElem?_eq_none (by simp; omega)
      rw [if_neg (by omega), if_neg (by omega), absent, past, Option.getD_none, Option.getD_none,
        List.length_cons, Nat.sub_sub]

/-- The word that as many bits as it is wide shift into has exactly those bits. -/
theorem ofWord_toWord {width : Nat} {bits : List Bool} (exact : bits.length = width) :
    ofWord (toWord width bits) = bits := by
  -- Both lists have one length, so they are compared position by position.
  apply List.ext_getElem
  · simp [exact]
  · intro index inside within
    -- The bit sent first is the most significant one.
    rw [getElem_ofWord, BitVec.getMsbD_eq_getLsbD, toWord,
      getLsbD_foldl_shiftConcat _ _ _ (by omega)]
    have early : index < width := by omega
    have reversed : width - 1 - index < bits.reverse.length := by simp; omega
    have place : bits.length - 1 - (width - 1 - index) = index := by omega
    rw [List.getD_eq_getElem?_getD, List.getElem?_eq_getElem reversed, Option.getD_some,
      List.getElem_reverse]
    simp [place, early]

/-- Of as many bits as a word is wide, the first one to shift in ends up at its top. -/
theorem getElem?_of_toWord {width : Nat} {bits : List Bool} (exact : bits.length = width)
    {place : Nat} (inside : place < width) :
    bits[place]? = some ((toWord width bits).getLsbD (width - 1 - place)) := by
  have shown : (ofWord (toWord width bits))[place]? = bits[place]? := by rw [ofWord_toWord exact]
  rw [← shown, List.getElem?_eq_getElem (by simpa using inside), getElem_ofWord,
    BitVec.getMsbD_eq_getLsbD, decide_eq_true inside, Bool.true_and]

/-- Shifting in the bits of a word gives the word back. -/
@[simp] theorem toWord_ofWord {width : Nat} (word : BitVec width) :
    toWord width (ofWord word) = word :=
  ofWord_injective (ofWord_toWord (length_ofWord word))

end MotorLink.Bits
