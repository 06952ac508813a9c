import MotorLink.Reply.Decode

/-! The group code assigns distinct codes, and its decoder reports the first group that is none. -/

namespace MotorLink.GroupCode

/-- Nibbles with the same code are the same. -/
theorem encode_injective {first second : BitVec 4} (same : encode first = encode second) :
    first = second := by
  -- Sixteen codes, compared two at a time.
  revert first second
  decide

/-- A code is one of the sixteen that nibbles have. -/
def IsCode (code : BitVec 5) : Prop := code ∈ table.toList

instance (code : BitVec 5) : Decidable (IsCode code) :=
  inferInstanceAs (Decidable (code ∈ table.toList))

/-- The codes of the table are those of the nibbles. -/
theorem isCode_iff {code : BitVec 5} : IsCode code ↔ ∃ nibble, encode nibble = code := by
  -- Thirty-two words of five bits, sixteen of them codes.
  revert code
  decide

/-- The table has a place for every word of five bits. -/
@[simp] theorem length_entered (count : Nat) : (entered count).length = 32 := by
  induction count with
  | zero => rfl
  | succ count ih => simpa [entered, List.range_succ] using ih

/-- Before any nibble is entered nothing is assigned. -/
theorem getD_entered_zero (code : BitVec 5) :
    (entered 0).getD code.toNat unassigned = unassigned := by
  rw [entered, List.range_zero, List.foldl_nil, List.getD_eq_getElem?_getD,
    List.getElem?_replicate_of_lt code.isLt, Option.getD_some]

/-- One more nibble is entered at the place that its code gives, and no other place changes. -/
theorem getD_entered_succ (count : Nat) (code : BitVec 5) :
    (entered (count + 1)).getD code.toNat unassigned =
      if encode (BitVec.ofNat 4 count) = code then count
      else (entered count).getD code.toNat unassigned := by
  have next : entered (count + 1) =
      (entered count).set (encode (BitVec.ofNat 4 count)).toNat count := by
    simp [entered, List.range_succ]
  -- A code is a place of the table, so setting it is seen there and nowhere else.
  rw [next, List.getD_eq_getElem?_getD, List.getElem?_set, length_entered, if_pos (encode _).isLt]
  simp only [BitVec.toNat_inj]
  split
  · rw [Option.getD_some]
  · rw [List.getD_eq_getElem?_getD]

/-- The entry for the code of one of the first nibbles is that nibble. -/
theorem getD_entered_encode {count : Nat} (within : count ≤ 16) {nibble : BitVec 4}
    (first : nibble.toNat < count) :
    (entered count).getD (encode nibble).toNat unassigned = nibble.toNat := by
  -- The nibble entered last is either this one or one with another code.
  induction count with
  | zero => cases first
  | succ count ih =>
    have last : (BitVec.ofNat 4 count).toNat = count := Nat.mod_eq_of_lt (by omega)
    rw [getD_entered_succ]
    split
    · next same => rw [← encode_injective same, last]
    · next apart =>
      have other : nibble.toNat ≠ count := by
        rintro rfl
        exact apart (congrArg encode (BitVec.eq_of_toNat_eq last))
      exact ih (by omega) (by omega)

/-- A place that no nibble has for its code stays unassigned. -/
theorem getD_entered_of_forall_ne {code : BitVec 5} (strange : ∀ nibble, encode nibble ≠ code)
    (count : Nat) : (entered count).getD code.toNat unassigned = unassigned := by
  induction count with
  | zero => exact getD_entered_zero code
  | succ count ih => rw [getD_entered_succ, if_neg (strange _), ih]

/-- The code of a nibble decodes to it. -/
theorem decode?_encode (nibble : BitVec 4) : decode? (encode nibble) = some nibble := by
  -- The whole table has all sixteen nibbles entered, and none of them reads as unassigned.
  have entry : inverseTable.getD (encode nibble).toNat unassigned = nibble.toNat :=
    getD_entered_encode (Nat.le_refl 16) nibble.isLt
  have assigned : nibble.toNat ≠ unassigned :=
    Nat.ne_of_lt (Nat.lt_of_lt_of_le nibble.isLt (by decide))
  rw [decode?, entry, if_neg assigned, BitVec.ofNat_toNat, BitVec.setWidth_eq]

/-- What no nibble has for its code does not decode. -/
theorem decode?_of_forall_ne {code : BitVec 5} (strange : ∀ nibble, encode nibble ≠ code) :
    decode? code = none :=
  if_pos (getD_entered_of_forall_ne strange 16)

/-- A code decodes to the nibble that has it. -/
theorem decode?_eq_some_iff {code : BitVec 5} {nibble : BitVec 4} :
    decode? code = some nibble ↔ encode nibble = code := by
  constructor
  · intro found
    -- A code that no nibble has is not decoded at all.
    by_cases coded : ∃ other, encode other = code
    · obtain ⟨other, rfl⟩ := coded
      rw [decode?_encode] at found
      rw [Option.some.inj found]
    · rw [decode?_of_forall_ne fun other same => coded ⟨other, same⟩] at found
      cases found
  · rintro rfl
    exact decode?_encode nibble

/-- What is no code does not decode. -/
theorem decode?_eq_none_iff {code : BitVec 5} : decode? code = none ↔ ¬IsCode code := by
  rw [isCode_iff, Option.eq_none_iff_forall_ne_some]
  simp [decode?_eq_some_iff]

/-- One of the four nibbles of a word, the most significant being the first. -/
def nibble (word : BitVec 16) (index : Nat) : BitVec 4 := word.extractLsb' (12 - 4 * index) 4

/-- A slice of four parts at the place of one of them, and as wide, is that part. -/
theorem extractLsb'_append_parts {width : Nat} (parts : Nat → BitVec width) {index : Nat}
    (inside : index < 4) :
    (parts 0 ++ parts 1 ++ parts 2 ++ parts 3).extractLsb' (3 * width - width * index) width =
      parts index := by
  have whole (part : BitVec width) {start : Nat} (low : start = 0) :
      part.extractLsb' start width = part := by
    rw [low, BitVec.extractLsb'_eq_self]
  -- The parts below the slice are cut off, and so are those above it.
  match index, inside with
  | 0, _ =>
    simp (disch := omega) only [BitVec.extractLsb'_append_eq_of_le]
    exact whole _ (by omega)
  | 1, _ | 2, _ =>
    simp (disch := omega) only [BitVec.extractLsb'_append_eq_of_le,
      BitVec.extractLsb'_append_eq_of_add_le]
    exact whole _ (by omega)
  | 3, _ =>
    simp (disch := omega) only [BitVec.extractLsb'_append_eq_of_add_le]
    exact whole _ (by omega)

/-- The nibbles of four put together are these four. -/
theorem nibble_append (values : Nat → BitVec 4) {index : Nat} (inside : index < 4) :
    nibble (values 0 ++ values 1 ++ values 2 ++ values 3) index = values index :=
  extractLsb'_append_parts values inside

/-- A word is its four nibbles put together. -/
theorem append_nibbles (word : BitVec 16) :
    nibble word 0 ++ nibble word 1 ++ nibble word 2 ++ nibble word 3 = word := by
  -- Neighbouring slices join to a wider one, the last of which is the whole word.
  simp only [nibble, BitVec.extractLsb'_append_extractLsb'_eq_extractLsb']
  exact BitVec.extractLsb'_eq_self

/-- A coded word is its four groups put together. -/
theorem append_groups (coded : BitVec 20) :
    group coded 0 ++ group coded 1 ++ group coded 2 ++ group coded 3 = coded := by
  simp only [group, BitVec.extractLsb'_append_extractLsb'_eq_extractLsb']
  exact BitVec.extractLsb'_eq_self

/-- Each group of a coded word is the code of the nibble in its place. -/
theorem group_encodeWord (word : BitVec 16) {index : Nat} (inside : index < 4) :
    group (encodeWord word) index = encode (nibble word index) :=
  extractLsb'_append_parts (fun index => encode (nibble word index)) inside

/-- A word is coded as the groups that are the codes of its nibbles. -/
theorem encodeWord_eq_iff {word : BitVec 16} {coded : BitVec 20} :
    encodeWord word = coded ↔ ∀ index < 4, encode (nibble word index) = group coded index := by
  -- A coded word is determined by its groups, and so is a word by its nibbles.
  constructor
  · rintro rfl index inside
    exact (group_encodeWord word inside).symm
  · intro same
    rw [← append_groups coded, ← same 0 (by decide), ← same 1 (by decide), ← same 2 (by decide),
      ← same 3 (by decide)]
    rfl

/-- A group decodes to the nibble whose code it is. -/
theorem decodeGroup_eq_ok_iff {coded : BitVec 20} {index : Nat} {value : BitVec 4} :
    decodeGroup coded index = .ok value ↔ encode value = group coded index := by
  rw [← decode?_eq_some_iff]
  cases found : decode? (group coded index) <;> simp [decodeGroup, found]

/-- A group that is no code is reported with its place. -/
theorem decodeGroup_eq_error_iff {coded : BitVec 20} {index : Nat} {error : DecodeError} :
    decodeGroup coded index = .error error ↔
      ¬IsCode (group coded index) ∧ error = .invalidGroup index (group coded index).toNat := by
  rw [← decode?_eq_none_iff]
  cases found : decode? (group coded index) <;> simp [decodeGroup, found, eq_comm]

/-- The first group of a coded word that is no code. -/
structure FirstInvalid (coded : BitVec 20) (index : Nat) : Prop where
  inside : index < 4
  earlier : ∀ before < index, IsCode (group coded before)
  invalid : ¬IsCode (group coded index)

/-- A coded word decodes to the word that it codes. -/
theorem decodeWord_encodeWord (word : BitVec 16) : decodeWord (encodeWord word) = .ok word := by
  -- Every group of the coded word is the code of its nibble, so none is refused.
  have decoded : ∀ index < 4,
      decodeGroup (encodeWord word) index = .ok (nibble word index) := fun index inside =>
    decodeGroup_eq_ok_iff.mpr (group_encodeWord word inside).symm
  -- Put together, the four nibbles are the word again.
  simp [decodeWord, decoded, Bind.bind, Except.bind, Pure.pure, Except.pure, append_nibbles]

/-- A coded word with a group that is no code is refused at the first of these. -/
theorem FirstInvalid.decodeWord_eq {coded : BitVec 20} {index : Nat}
    (first : FirstInvalid coded index) :
    decodeWord coded = .error (.invalidGroup index (group coded index).toNat) := by
  -- The groups are decoded in order, and the first failure ends the decoding.
  have passed : ∀ before < index, ∃ value, decodeGroup coded before = .ok value := by
    intro before earlier
    obtain ⟨value, same⟩ := isCode_iff.mp (first.earlier before earlier)
    exact ⟨value, decodeGroup_eq_ok_iff.mpr same⟩
  have refused := decodeGroup_eq_error_iff.mpr ⟨first.invalid, rfl⟩
  -- All groups before it decode, so the first failure is its own.
  match index, first.inside with
  | 0, _ => simp [decodeWord, refused, Bind.bind, Except.bind]
  | 1, _ =>
    obtain ⟨_, zero⟩ := passed 0 (by decide)
    simp [decodeWord, zero, refused, Bind.bind, Except.bind]
  | 2, _ =>
    obtain ⟨_, zero⟩ := passed 0 (by decide)
    obtain ⟨_, one⟩ := passed 1 (by decide)
    simp [decodeWord, zero, one, refused, Bind.bind, Except.bind]
  | 3, _ =>
    obtain ⟨_, zero⟩ := passed 0 (by decide)
    obtain ⟨_, one⟩ := passed 1 (by decide)
    obtain ⟨_, two⟩ := passed 2 (by decide)
    simp [decodeWord, zero, one, two, refused, Bind.bind, Except.bind]

/-- Either some leading groups are all codes or there is a first group that is none. -/
theorem leading_codes_or_firstInvalid (coded : BitVec 20) {count : Nat} (within : count ≤ 4) :
    (∀ index < count, IsCode (group coded index)) ∨ ∃ index, FirstInvalid coded index := by
  -- One more group is either a code as well or the first that is none.
  induction count with
  | zero => exact .inl (by simp)
  | succ count ih =>
    rcases ih (by omega) with codes | found
    · by_cases next : IsCode (group coded count)
      · refine .inl fun index inside => ?_
        rcases Nat.lt_succ_iff_lt_or_eq.mp inside with before | rfl
        · exact codes index before
        · exact next
      · exact .inr ⟨count, by omega, codes, next⟩
    · exact .inr found

/-- Every coded word codes some word or has a first group that is no code. -/
theorem codes_or_firstInvalid (coded : BitVec 20) :
    (∃ word, encodeWord word = coded) ∨ ∃ index, FirstInvalid coded index := by
  -- Where all groups are codes, the nibbles that they stand for make up the word.
  rcases leading_codes_or_firstInvalid coded (Nat.le_refl 4) with codes | found
  · let values (index : Nat) : BitVec 4 := (decode? (group coded index)).getD 0
    have same : ∀ index < 4, encode (values index) = group coded index := by
      intro index inside
      obtain ⟨value, coded⟩ := isCode_iff.mp (codes index inside)
      simp [values, decode?_eq_some_iff.mpr coded, coded]
    refine .inl ⟨values 0 ++ values 1 ++ values 2 ++ values 3, encodeWord_eq_iff.mpr ?_⟩
    intro index inside
    rw [nibble_append values inside, same index inside]
  · exact .inr found

end MotorLink.GroupCode
