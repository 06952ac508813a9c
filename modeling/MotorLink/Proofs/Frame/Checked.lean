import MotorLink.Frame.Checked

/-! A checked word is valid exactly when it is the one built from its own payload. -/

namespace MotorLink.Checked

/-- A word carries the payload that it was built from. -/
@[simp] theorem payload_ofPayload (payload : BitVec 12) : (ofPayload payload).payload = payload :=
  BitVec.extractLsb'_append_eq_left

/-- A word that was built from a payload states its checksum. -/
@[simp] theorem stated_ofPayload (payload : BitVec 12) :
    (ofPayload payload).stated = checksum payload :=
  BitVec.extractLsb'_append_eq_right

/-- A word that was built from a payload is valid. -/
@[simp] theorem isValid_ofPayload (payload : BitVec 12) : (ofPayload payload).isValid = true := by
  simp [isValid]

/-- A valid word is the one built from its payload. -/
theorem ofPayload_payload {word : Checked} (valid : word.isValid = true) :
    ofPayload word.payload = word := by
  have same : checksum word.payload = word.stated := by simpa [isValid] using valid
  -- The payload and the stated checksum are all sixteen bits.
  rw [ofPayload, same]
  exact BitVec.extractLsb'_append_extractLsb'

/-- What the checksum of a word's payload and the one that the word states differ in. -/
def syndrome (word : Checked) : BitVec 4 := checksum word.payload ^^^ word.stated

/-- A word is valid when the two checksums do not differ. -/
theorem isValid_iff_syndrome {word : Checked} : word.isValid = true ↔ word.syndrome = 0#4 := by
  rw [isValid, beq_iff_eq, syndrome, BitVec.xor_eq_zero_iff]

/-- The checksums differ in the exclusive or of all four nibbles of the word. -/
theorem syndrome_eq_xor (word : Checked) :
    word.syndrome = word.extractLsb' 12 4 ^^^ word.extractLsb' 8 4 ^^^ word.extractLsb' 4 4 ^^^
      word.extractLsb' 0 4 := by
  -- The payload is the upper three nibbles, and the stated checksum is the last one.
  ext index inside
  simp only [syndrome, checksum, payload, stated, BitVec.getElem_xor, BitVec.getElem_extractLsb',
    BitVec.getLsbD_extractLsb']
  grind

/-- Words laid over each other have their syndromes laid over each other. -/
theorem syndrome_xor (word other : Checked) :
    syndrome (word ^^^ other) = word.syndrome ^^^ other.syndrome := by
  -- Each nibble is laid over its counterpart, and the order of all eight does not matter.
  simp only [syndrome_eq_xor, BitVec.extractLsb'_xor]
  ac_rfl

/-- An error leaves a valid word valid exactly when its own nibbles cancel each other out. -/
theorem isValid_xor_iff {word : Checked} (valid : word.isValid = true) (error : Checked) :
    isValid (word ^^^ error) = true ↔ error.syndrome = 0#4 := by
  rw [isValid_iff_syndrome, syndrome_xor, isValid_iff_syndrome.mp valid, BitVec.zero_xor]

/-- A bit of the syndrome tells whether an odd number of the bits in its column are set. -/
theorem getLsbD_syndrome (word : Checked) {column : Nat} (inside : column < 4) :
    word.syndrome.getLsbD column = (word.getLsbD (12 + column) ^^ word.getLsbD (8 + column) ^^
      word.getLsbD (4 + column) ^^ word.getLsbD column) := by
  simp [syndrome_eq_xor, inside]

/-- A set bit that is alone in its column of the nibbles shows in the syndrome. -/
theorem syndrome_ne_zero_of_alone {word : Checked} {place : Nat}
    (set : word.getLsbD place = true)
    (alone : ∀ other, other % 4 = place % 4 → other ≠ place → word.getLsbD other = false) :
    word.syndrome ≠ 0#4 := by
  intro silent
  have inside : place < 16 := BitVec.lt_of_getLsbD set
  have even := word.getLsbD_syndrome (Nat.mod_lt place (by decide : 4 > 0))
  rw [silent, BitVec.getLsbD_zero] at even
  -- The bit is in one of the four rows of its column, and the other three are clear.
  obtain ⟨column, at_column⟩ : ∃ column, place % 4 = column := ⟨_, rfl⟩
  have row : place = 12 + column ∨ place = 8 + column ∨ place = 4 + column ∨ place = column := by
    omega
  rw [at_column] at even
  rcases row with rfl | rfl | rfl | rfl
  all_goals
    simp (disch := omega) only [set, alone] at even
    cases even

/-- Errors that all lie within four adjacent places show, across nibbles as well. -/
theorem syndrome_ne_zero_of_burst {error : Checked} (hits : error ≠ 0#16) {low : Nat}
    (narrow : ∀ place, error.getLsbD place = true → low ≤ place ∧ place < low + 4) :
    error.syndrome ≠ 0#4 := by
  intro silent
  apply hits
  apply BitVec.eq_of_getLsbD_eq
  intro place _
  rw [BitVec.getLsbD_zero]
  cases set : error.getLsbD place with
  | false => rfl
  | true =>
    -- The rest of its column is four places away or more, which is out of reach.
    refine absurd silent (syndrome_ne_zero_of_alone set fun other column apart => ?_)
    cases also : error.getLsbD other with
    | false => rfl
    | true =>
      have first := narrow place set
      have second := narrow other also
      omega

end MotorLink.Checked
