import Mathlib.Logic.Function.Basic
import MotorLink.Proofs.Reply.Bijection
import MotorLink.Proofs.Reply.Decode

/-! Detection: a reply with one group replaced is refused, whatever code stands in its place. -/

namespace MotorLink

namespace GroupCode

/-- A coded word with another code in one of its groups. -/
def replaceGroup (coded : BitVec 20) (index : Nat) (code : BitVec 5) : BitVec 20 :=
  let groups := Function.update (group coded) index code
  groups 0 ++ groups 1 ++ groups 2 ++ groups 3

/-- A word with another value in one of its nibbles. -/
def replaceNibble (word : BitVec 16) (index : Nat) (value : BitVec 4) : BitVec 16 :=
  let nibbles := Function.update (nibble word) index value
  nibbles 0 ++ nibbles 1 ++ nibbles 2 ++ nibbles 3

/-- The replaced group is the new code, and the other groups stay as they are. -/
theorem group_replaceGroup (coded : BitVec 20) (index : Nat) (code : BitVec 5) {place : Nat}
    (inside : place < 4) :
    group (replaceGroup coded index code) place =
      if place = index then code else group coded place := by
  rw [← Function.update_apply]
  exact extractLsb'_append_parts _ inside

/-- The replaced nibble is the new value, and the other nibbles stay as they are. -/
theorem nibble_replaceNibble (word : BitVec 16) (index : Nat) (value : BitVec 4) {place : Nat}
    (inside : place < 4) :
    nibble (replaceNibble word index value) place =
      if place = index then value else nibble word place := by
  rw [← Function.update_apply]
  exact nibble_append _ inside

/-- A group replaced by the code of a value sends the word with that value for the nibble. -/
theorem replaceGroup_encode (word : BitVec 16) (index : Nat) (value : BitVec 4) :
    replaceGroup (encodeWord word) index (encode value) =
      encodeWord (replaceNibble word index value) := by
  -- The groups are compared one by one, and each is the code of the nibble in its place.
  refine (encodeWord_eq_iff.mpr fun place inside => ?_).symm
  rw [nibble_replaceNibble _ _ _ inside, group_replaceGroup _ _ _ inside,
    group_encodeWord _ inside]
  split <;> rfl

/-- What is no code is the first such group where all others are codes. -/
theorem firstInvalid_replaceGroup (word : BitVec 16) {index : Nat} {code : BitVec 5}
    (inside : index < 4) (invalid : ¬IsCode code) :
    FirstInvalid (replaceGroup (encodeWord word) index code) index where
  inside := inside
  earlier place before := by
    -- The groups before it are still those of the word.
    rw [group_replaceGroup _ _ _ (Nat.lt_trans before inside), if_neg (Nat.ne_of_lt before),
      group_encodeWord _ (Nat.lt_trans before inside)]
    exact isCode_iff.mpr ⟨_, rfl⟩
  invalid := by rwa [group_replaceGroup _ _ _ inside, if_pos rfl]

/-- The exclusive or of four nibbles. -/
def parity (nibbles : Nat → BitVec 4) : BitVec 4 :=
  nibbles 0 ^^^ nibbles 1 ^^^ nibbles 2 ^^^ nibbles 3

/-- The checksums of a word differ in the exclusive or of its nibbles. -/
theorem syndrome_eq_parity (word : Checked) : word.syndrome = parity (nibble word) :=
  word.syndrome_eq_xor

/-- The exclusive or of four nibbles changes by just what one of them changes by. -/
theorem parity_update (nibbles : Nat → BitVec 4) {index : Nat} (inside : index < 4)
    (value : BitVec 4) : parity (Function.update nibbles index value) =
      parity nibbles ^^^ (nibbles index ^^^ value) := by
  unfold parity
  ext bit within
  match index, inside with
  | 0, _ | 1, _ | 2, _ | 3, _ =>
    simp only [BitVec.getElem_xor, Function.update_apply, Nat.reduceEqDiff, if_true, if_false]
    -- The replaced bit occurs twice on the right, and the five bits are arbitrary.
    generalize (nibbles 0)[bit] = first, (nibbles 1)[bit] = second, (nibbles 2)[bit] = third,
      (nibbles 3)[bit] = fourth, value[bit] = new
    revert first second third fourth new
    decide

/-- A replaced nibble shows in the checksums as what it differs by from the one it replaces. -/
theorem syndrome_replaceNibble (word : Checked) {index : Nat} (inside : index < 4)
    (value : BitVec 4) : Checked.syndrome (replaceNibble word index value) =
      word.syndrome ^^^ (nibble word index ^^^ value) := by
  -- Nothing but the four nibbles of the word counts, and these are as they were put together.
  have parts {place : Nat} (within : place < 4) : nibble (replaceNibble word index value) place =
      Function.update (nibble word) index value place := nibble_append _ within
  have same : parity (nibble (replaceNibble word index value)) =
      parity (Function.update (nibble word) index value) := by
    rw [parity, parts (by decide), parts (by decide), parts (by decide), parts (by decide), parity]
  rw [syndrome_eq_parity, same, parity_update _ inside, syndrome_eq_parity]

/-- A valid word with one nibble replaced by another value is not valid any more. -/
theorem isValid_replaceNibble {word : Checked} (valid : word.isValid = true) {index : Nat}
    (inside : index < 4) {value : BitVec 4} (differs : value ≠ nibble word index) :
    Checked.isValid (replaceNibble word index value) = false := by
  -- Nothing but the replaced nibble is left of the difference, and it is not zero.
  rw [Bool.eq_false_iff, ne_eq, Checked.isValid_iff_syndrome, syndrome_replaceNibble word inside,
    Checked.isValid_iff_syndrome.mp valid, BitVec.zero_xor, BitVec.xor_eq_zero_iff]
  exact fun same => differs same.symm

end GroupCode

open GroupCode

namespace LineCode

/-- Bits that leave room for some more zeros, of which no more than seven stand in a row. -/
def LeavesRoom (least : Nat) (bits : List Bool) : Prop :=
  ∃ room, least ≤ room ∧ room ≤ 7 ∧ roomAfter 7 6 bits = some room

/-- Bits that leave much room leave some. -/
theorem LeavesRoom.mono {least less : Nat} {bits : List Bool} (leaves : LeavesRoom least bits)
    (fewer : less ≤ least) : LeavesRoom less bits := by
  obtain ⟨room, enough, within, kept⟩ := leaves
  exact ⟨room, Nat.le_trans fewer enough, within, kept⟩

/-- A code needs room for one zero, and leaves room for six. -/
theorem LeavesRoom.append_encode {bits : List Bool} (leaves : LeavesRoom 1 bits)
    (nibble : BitVec 4) : LeavesRoom 6 (bits ++ Bits.ofWord (encode nibble)) := by
  obtain ⟨room, enough, within, kept⟩ := leaves
  -- Sixteen codes, each after any room that there may be.
  have codes : ∀ room < 8, 1 ≤ room → ∀ nibble, ∃ later < 8, 6 ≤ later ∧
      roomAfter 7 room (Bits.ofWord (encode nibble)) = some later := by decide
  obtain ⟨later, inside, much, left⟩ := codes room (by omega) enough nibble
  refine ⟨later, much, by omega, ?_⟩
  rw [roomAfter_append, kept, Option.bind_some, left]

/-- Five bits of any kind need room for five zeros, and then leave room for one. -/
theorem LeavesRoom.append {bits : List Bool} (leaves : LeavesRoom 6 bits) (code : BitVec 5) :
    LeavesRoom 1 (bits ++ Bits.ofWord code) := by
  obtain ⟨room, enough, within, kept⟩ := leaves
  -- Thirty-two words of five bits, each where there is room for six zeros or for seven.
  have words : ∀ room < 8, 6 ≤ room → ∀ code : BitVec 5, ∃ later < 8, 1 ≤ later ∧
      roomAfter 7 room (Bits.ofWord code) = some later := by decide
  obtain ⟨later, inside, some, left⟩ := words room (by omega) enough code
  refine ⟨later, some, by omega, ?_⟩
  rw [roomAfter_append, kept, Option.bind_some, left]

/-- A coded word with a group replaced has no more than seven zeros in a row. -/
theorem leavesRoom_replaceGroup (word : BitVec 16) {index : Nat} (inside : index < 4)
    (code : BitVec 5) :
    LeavesRoom 1 (Bits.ofWord (replaceGroup (encodeWord word) index code)) := by
  -- A place needs room for six zeros, unless the replaced group is right before it.
  let need (place : Nat) : Nat := if place = index + 1 then 1 else 6
  have most (place : Nat) : 1 ≤ need place ∧ need place ≤ 6 := by
    simp only [need]
    split <;> decide
  have step {place : Nat} (within : place < 4) {bits : List Bool}
      (leaves : LeavesRoom (need place) bits) :
      LeavesRoom (need (place + 1))
        (bits ++ Bits.ofWord (Function.update (group (encodeWord word)) index code place)) := by
    by_cases here : place = index
    · subst here
      have apart : need place = 6 := if_neg (by omega)
      rw [Function.update_self]
      exact (leaves.mono (Nat.le_of_eq apart.symm)).append code |>.mono (by simp [need])
    · rw [Function.update_of_ne here, group_encodeWord word within]
      exact ((leaves.mono (most place).1).append_encode _).mono (most _).2
  have start : LeavesRoom (need 0) [] := ⟨6, (most 0).2, by decide, rfl⟩
  simp only [replaceGroup, Bits.ofWord_append]
  exact (step (by decide) (step (by decide) (step (by decide) (step (by decide) start)))).mono
    (most 4).1

/-- A coded word with a group replaced has no run of more than eight bits. -/
theorem le_of_mem_paddedRuns_replaceGroup (word : BitVec 16) {index : Nat} (inside : index < 4)
    (code : BitVec 5) {count : Nat}
    (listed : count ∈ paddedRuns (replaceGroup (encodeWord word) index code)) : count ≤ 8 := by
  obtain ⟨room, _, _, kept⟩ := leavesRoom_replaceGroup word inside code
  rw [paddedRuns_eq, List.mem_append] at listed
  -- A run is one of the word itself, or the single bit that pads it.
  rcases listed with own | added
  · exact bitRuns_le kept (by decide) own
  · rw [eq_one_of_mem_padding added]
    decide

end LineCode

namespace Reading

/-- A reply with a group replaced by what is no code is refused at that group. -/
theorem ofCapture_replaceGroup_of_not_isCode (word : Checked) {index bitTicks : Nat}
    {code : BitVec 5} (inside : index < 4) (positive : 0 < bitTicks) (invalid : ¬IsCode code) :
    ofCapture (LineCode.capture (replaceGroup (encodeWord word) index code) bitTicks) bitTicks =
      .error (.invalidGroup index code.toNat) := by
  -- The line bits give the coded word back, and all groups before the replaced one are codes.
  have read := LineCode.lineWord_capture (replaceGroup (encodeWord word) index code) positive
  have first := firstInvalid_replaceGroup word inside invalid
  rw [← LineCode.changes_lineOf (replaceGroup (encodeWord word) index code)] at first
  rw [ofCapture_of_firstInvalid read first, LineCode.changes_lineOf,
    group_replaceGroup _ _ _ inside, if_pos rfl]

/-- A valid reply with a group replaced by another code is refused for its checksum. -/
theorem ofCapture_replaceGroup_encode {word : Checked} (valid : word.isValid = true)
    {index bitTicks : Nat} {value : BitVec 4} (inside : index < 4) (positive : 0 < bitTicks)
    (differs : value ≠ nibble word index) :
    let found : Checked := replaceNibble word index value
    ofCapture (LineCode.capture (replaceGroup (encodeWord word) index (encode value)) bitTicks)
        bitTicks =
      .error (.checksumMismatch (MotorLink.checksum found.payload).toNat found.stated.toNat) := by
  -- The capture is that of the word with the other nibble, which is not valid.
  have read := LineCode.lineWord_capture (encodeWord (replaceNibble word index value)) positive
  rw [replaceGroup_encode, ofCapture_of_codes read (LineCode.changes_lineOf _).symm,
    ofWord_of_invalid (isValid_replaceNibble valid inside differs)]

/--
No reply is read with a wrong code in one of its groups.

What is no code is refused in its place.
A code of another nibble changes the checksum by what the nibbles differ by, so it is refused too.
With up to 8191 ticks for each bit no run of such a reply is cut to sixteen bits.
-/
theorem ofCapture_of_replaced_group (payload : BitVec 12) {index bitTicks : Nat} {code : BitVec 5}
    (inside : index < 4) (positive : 0 < bitTicks)
    (differs : code ≠ group (encodeWord (Checked.ofPayload payload)) index) :
    let sent := Checked.ofPayload payload
    let received := LineCode.capture (replaceGroup (encodeWord sent) index code) bitTicks
    (¬IsCode code → ofCapture received bitTicks = .error (.invalidGroup index code.toNat)) ∧
    (IsCode code → ∃ value, encode value = code ∧
      let found : Checked := replaceNibble sent index value
      ofCapture received bitTicks =
        .error (.checksumMismatch (MotorLink.checksum found.payload).toNat found.stated.toNat)) ∧
    ofCapture? received bitTicks = none ∧
    (bitTicks ≤ 8191 → ∀ count ∈ LineCode.paddedRuns (replaceGroup (encodeWord sent) index code),
      (UInt16.ofNat count * UInt16.ofNat bitTicks).toNat = count * bitTicks) := by
  intro sent received
  have uncut (short : bitTicks ≤ 8191) :
      ∀ count ∈ LineCode.paddedRuns (replaceGroup (encodeWord sent) index code),
        (UInt16.ofNat count * UInt16.ofNat bitTicks).toNat = count * bitTicks := by
    intro count counted
    -- Eight times 8191 ticks are 65528, which is just below the limit.
    have few := LineCode.le_of_mem_paddedRuns_replaceGroup sent inside code counted
    have product := Nat.mul_le_mul few short
    exact LineCode.toNat_mul_of_lt (Nat.lt_of_le_of_lt product (by decide))
  by_cases coded : IsCode code
  · obtain ⟨value, rfl⟩ := isCode_iff.mp coded
    -- Another code is that of another nibble.
    have other : value ≠ nibble sent index := by
      rintro rfl
      exact differs (group_encodeWord sent inside).symm
    have refused :=
      ofCapture_replaceGroup_encode (Checked.isValid_ofPayload payload) inside positive other
    refine ⟨fun invalid => absurd coded invalid, fun _ => ⟨value, rfl, refused⟩, ?_, uncut⟩
    rw [ofCapture?, refused]
    rfl
  · have refused := ofCapture_replaceGroup_of_not_isCode sent inside positive coded
    refine ⟨fun _ => refused, fun valid => absurd valid coded, ?_, uncut⟩
    rw [ofCapture?, refused]
    rfl

/-- A first group with the code of another nibble turns all later levels over and is found out. -/
theorem ofCapture_of_replaced_first_group :
    let coded := encodeWord (Checked.ofPayload 0x55A)
    0 < 4 ∧ 0 < 53 ∧ 0x09 ≠ group coded 0 ∧ IsCode 0x09 ∧
      ofCapture (LineCode.capture (replaceGroup coded 0 0x09) 53) 53 =
        .error (.checksumMismatch 0x6 0xA) := by
  have differs : 0x09 ≠ group (encodeWord (Checked.ofPayload 0x55A)) 0 := by decide
  have valid : IsCode 0x09 := by decide
  obtain ⟨value, encoded, answer⟩ :=
    (ofCapture_of_replaced_group 0x55A (by decide) (show 0 < 53 by decide) differs).2.1 valid
  -- The code is that of nine, and the reply would have begun with five.
  obtain rfl : value = 0x9 := encode_injective (encoded.trans (by decide))
  exact ⟨by decide, by decide, differs, valid, answer⟩

end Reading

end MotorLink
