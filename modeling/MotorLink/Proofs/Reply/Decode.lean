import MotorLink.Proofs.Frame.Checked
import MotorLink.Proofs.Reply.LineCode

/-! Decoding accepts exactly the captures of checked payloads and says what is wrong with others. -/

namespace MotorLink

open GroupCode (encode encodeWord group nibble FirstInvalid)

namespace Reading

/-- A capture with too few bits is refused with their number. -/
theorem ofCapture_of_short {capture : Capture} {bitTicks collected : Nat}
    (short : capture.lineWord bitTicks = .error collected) :
    ofCapture capture bitTicks = .error (.insufficientBits collected) := by
  simp [ofCapture, short]

/-- A capture of a word with a group that is no code is refused at the first of these. -/
theorem ofCapture_of_firstInvalid {capture : Capture} {bitTicks index : Nat} {line : BitVec 21}
    (read : capture.lineWord bitTicks = .ok line)
    (first : FirstInvalid (LineCode.changes line) index) :
    ofCapture capture bitTicks =
      .error (.invalidGroup index (group (LineCode.changes line) index).toNat) := by
  simp [ofCapture, read, first.decodeWord_eq, Bind.bind, Except.bind]

/-- The capture of a coded word holds whatever the word does. -/
theorem ofCapture_of_codes {capture : Capture} {bitTicks : Nat} {line : BitVec 21} {word : Checked}
    (read : capture.lineWord bitTicks = .ok line)
    (codes : encodeWord word = LineCode.changes line) :
    ofCapture capture bitTicks = ofWord word := by
  simp [ofCapture, read, ← codes, GroupCode.decodeWord_encodeWord, Bind.bind, Except.bind]

/-- A valid word holds the reading of its payload. -/
theorem ofWord_of_valid {word : Checked} (valid : word.isValid = true) :
    ofWord word = .ok (classify word.payload (MotorLink.checksum word.payload).toNat) := by
  have same : MotorLink.checksum word.payload = word.stated := by
    simpa [Checked.isValid] using valid
  rw [ofWord, if_pos valid, same]

/-- An invalid word is refused with both checksums. -/
theorem ofWord_of_invalid {word : Checked} (invalid : word.isValid = false) :
    ofWord word =
      .error (.checksumMismatch (MotorLink.checksum word.payload).toNat word.stated.toNat) := by
  rw [ofWord, if_neg (by simp [invalid])]

/-- A word is invalid when the two checksums differ as numbers. -/
theorem isValid_eq_false_iff {word : Checked} :
    word.isValid = false ↔ (MotorLink.checksum word.payload).toNat ≠ word.stated.toNat := by
  rw [Checked.isValid, beq_eq_false_iff_ne, ne_eq, ne_eq, BitVec.toNat_inj]

/-- A reading keeps the payload that it was read from. -/
@[simp] theorem payload_classify (payload : BitVec 12) (checksum : Nat) :
    (classify payload checksum).payload = payload := by
  unfold classify
  split <;> rfl

/-- A reading keeps the checksum that it was read with. -/
@[simp] theorem checksum_classify (payload : BitVec 12) (checksum : Nat) :
    (classify payload checksum).checksum = checksum := by
  unfold classify
  split <;> rfl

/-- A reading that is no speed says a byte. -/
theorem value_classify_lt {payload : BitVec 12} {checksum : Nat}
    (extended : (classify payload checksum).kind ≠ .erpm) :
    (classify payload checksum).value < 256 := by
  -- Without the ninth bit the value is the low byte of the payload.
  unfold classify at extended ⊢
  split at extended
  · exact absurd rfl extended
  · next clear =>
    rw [if_neg clear]
    exact BitVec.isLt _

end Reading

namespace Capture

/-- A capture reads as the same line bits as the reply that sends a payload at one tick a bit. -/
def Sends (capture : Capture) (bitTicks : Nat) (payload : BitVec 12) : Prop :=
  capture.lineWord bitTicks =
    (LineCode.captureReply (Checked.ofPayload payload) 1).lineWord 1

/-- A capture sends a payload when it reads as the line word of its checked word. -/
theorem sends_iff {capture : Capture} {bitTicks : Nat} {payload : BitVec 12} :
    capture.Sends bitTicks payload ↔ capture.lineWord bitTicks =
      .ok (LineCode.lineOf (encodeWord (Checked.ofPayload payload))) := by
  rw [Sends, LineCode.captureReply, LineCode.lineWord_capture _ Nat.one_pos]

/-- A capture that sends a payload holds its reading. -/
theorem Sends.ofCapture_eq {capture : Capture} {bitTicks : Nat} {payload : BitVec 12}
    (sends : capture.Sends bitTicks payload) :
    Reading.ofCapture capture bitTicks =
      .ok (Reading.classify payload (checksum payload).toNat) := by
  -- The line word is that of the checked word, which is valid and carries the payload.
  rw [Reading.ofCapture_of_codes (sends_iff.mp sends) (LineCode.changes_lineOf _).symm,
    Reading.ofWord_of_valid (Checked.isValid_ofPayload payload), Checked.payload_ofPayload]

/-- A capture whose line word codes a valid word sends the payload of the word. -/
theorem sends_of_codes {capture : Capture} {bitTicks : Nat} {line : BitVec 21} {word : Checked}
    (read : capture.lineWord bitTicks = .ok line)
    (codes : encodeWord word = LineCode.changes line) (valid : word.isValid = true) :
    capture.Sends bitTicks word.payload := by
  -- The first line bit is low, so the coded word fixes all of them.
  rw [sends_iff, Checked.ofPayload_payload valid, codes,
    LineCode.lineOf_changes (head?_of_lineWord read), read]

/-- A capture sends at most one payload. -/
theorem Sends.unique {capture : Capture} {bitTicks : Nat} {first second : BitVec 12}
    (here : capture.Sends bitTicks first) (there : capture.Sends bitTicks second) :
    first = second := by
  -- Both payloads are the one that the reading of the capture keeps.
  have same := here.ofCapture_eq.symm.trans there.ofCapture_eq
  injection same with same
  simpa using congrArg Reading.payload same

end Capture

/-- What can come of decoding a capture, each case with all that is known in it. -/
inductive Diagnosis (capture : Capture) (bitTicks : Nat) : Except DecodeError Reading → Prop
  | short {collected : Nat} (short : capture.lineWord bitTicks = .error collected) :
    Diagnosis capture bitTicks (.error (.insufficientBits collected))
  | invalid {line : BitVec 21} {index : Nat} (read : capture.lineWord bitTicks = .ok line)
    (first : FirstInvalid (LineCode.changes line) index) :
    Diagnosis capture bitTicks
      (.error (.invalidGroup index (group (LineCode.changes line) index).toNat))
  | mismatch {line : BitVec 21} {word : Checked} (read : capture.lineWord bitTicks = .ok line)
    (codes : encodeWord word = LineCode.changes line) (invalid : word.isValid = false) :
    Diagnosis capture bitTicks
      (.error (.checksumMismatch (checksum word.payload).toNat word.stated.toNat))
  | accepted {line : BitVec 21} {payload : BitVec 12} (read : capture.lineWord bitTicks = .ok line)
    (sends : capture.Sends bitTicks payload) :
    Diagnosis capture bitTicks (.ok (Reading.classify payload (checksum payload).toNat))

/-- Every capture has a diagnosis, which is what decoding answers. -/
theorem diagnosis (capture : Capture) (bitTicks : Nat) :
    Diagnosis capture bitTicks (Reading.ofCapture capture bitTicks) := by
  -- Each stage of decoding either passes its result on or names the reason it does not.
  cases read : capture.lineWord bitTicks with
  | error collected =>
    rw [Reading.ofCapture_of_short read]
    exact .short read
  | ok line =>
    rcases GroupCode.codes_or_firstInvalid (LineCode.changes line) with
      ⟨word, codes⟩ | ⟨index, first⟩
    · cases valid : Checked.isValid word with
      | true =>
        have sends := Capture.sends_of_codes read codes valid
        rw [sends.ofCapture_eq]
        exact .accepted read sends
      | false =>
        rw [Reading.ofCapture_of_codes read codes, Reading.ofWord_of_invalid valid]
        exact .mismatch read codes valid
    · rw [Reading.ofCapture_of_firstInvalid read first]
      exact .invalid read first

/-- A reading that a capture holds says a byte unless it is a speed. -/
theorem Reading.value_lt_of_ofCapture? {capture : Capture} {bitTicks : Nat} {reading : Reading}
    (read : ofCapture? capture bitTicks = some reading) (extended : reading.kind ≠ .erpm) :
    reading.value < 256 := by
  -- Whatever is accepted is the reading of a payload.
  have answer := diagnosis capture bitTicks
  unfold ofCapture? at read
  generalize ofCapture capture bitTicks = result at answer read
  cases answer with
  | short | invalid | mismatch => cases read
  | accepted =>
    cases read
    exact value_classify_lt extended

/--
Decoding names the reason for which a capture is refused and accepts the reply language.

The reasons come in order: too few bits, the first group that is no code, a wrong checksum.
-/
theorem Reading.ofCapture_exact (capture : Capture) (bitTicks : Nat) :
    (∀ collected, ofCapture capture bitTicks = .error (.insufficientBits collected) ↔
      capture.lineWord bitTicks = .error collected) ∧
    (∀ line, capture.lineWord bitTicks = .ok line →
      let coded : BitVec 20 := (line ^^^ line >>> 1).setWidth 20
      (∀ index code, ofCapture capture bitTicks = .error (.invalidGroup index code) ↔
        FirstInvalid coded index ∧ code = (group coded index).toNat) ∧
      (∀ expected received,
        ofCapture capture bitTicks = .error (.checksumMismatch expected received) ↔
          ∃ word : Checked, (∀ index < 4, encode (nibble word index) = group coded index) ∧
            received = word.stated.toNat ∧ expected = (MotorLink.checksum word.payload).toNat ∧
            expected ≠ received)) ∧
    (∀ reading, ofCapture capture bitTicks = .ok reading ↔
      ∃ payload, capture.Sends bitTicks payload ∧
        reading = classify payload (MotorLink.checksum payload).toNat) ∧
    (∀ payload reading, capture.Sends bitTicks payload → ofCapture capture bitTicks = .ok reading →
      (∀ other, capture.Sends bitTicks other → other = payload) ∧
        reading.payload = payload ∧ reading.checksum = (MotorLink.checksum payload).toNat) := by
  -- The diagnosis of the answer tells the reason, and the reason fixes the answer.
  have answer := diagnosis capture bitTicks
  refine ⟨fun collected => ⟨?_, ofCapture_of_short⟩, fun line read => ⟨fun index code => ⟨?_, ?_⟩,
    fun expected received => ⟨?_, ?_⟩⟩, fun reading => ⟨?_, ?_⟩,
    fun payload reading sends found => ?_⟩
  · intro refused
    rw [refused] at answer
    cases answer with
    | short short => exact short
  · intro refused
    rw [refused] at answer
    cases answer with
    | invalid found first =>
      obtain rfl : line = _ := Except.ok.inj (read.symm.trans found)
      exact ⟨first, rfl⟩
  · rintro ⟨first, rfl⟩
    exact ofCapture_of_firstInvalid read first
  · intro refused
    rw [refused] at answer
    cases answer with
    | @mismatch _ word found codes invalid =>
      obtain rfl : line = _ := Except.ok.inj (read.symm.trans found)
      exact ⟨word, GroupCode.encodeWord_eq_iff.mp codes, rfl, rfl, isValid_eq_false_iff.mp invalid⟩
  · rintro ⟨word, codes, rfl, rfl, differ⟩
    rw [ofCapture_of_codes read (GroupCode.encodeWord_eq_iff.mpr codes),
      ofWord_of_invalid (isValid_eq_false_iff.mpr differ)]
  · intro found
    rw [found] at answer
    cases answer with
    | accepted _ sends => exact ⟨_, sends, rfl⟩
  · rintro ⟨payload, sends, rfl⟩
    exact sends.ofCapture_eq
  · -- The reading keeps what it was made from.
    obtain rfl : reading = _ := Except.ok.inj (found.symm.trans sends.ofCapture_eq)
    exact ⟨fun other there => there.unique sends, payload_classify _ _, checksum_classify _ _⟩

end MotorLink
