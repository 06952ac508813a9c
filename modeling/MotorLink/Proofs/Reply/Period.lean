import Mathlib.Data.Nat.Log
import Mathlib.Order.Bounds.Defs
import MotorLink.Proofs.Reply.Tolerance

/-! Motor periods are sent cut to nine bits, and read as a speed that is never too low. -/

namespace MotorLink

namespace Payload

/-- The exponent of a payload that says a motor period, in its upper three bits. -/
def exponent (payload : BitVec 12) : Nat := payload.toNat >>> 9

/-- The mantissa of a payload that says a motor period, in its lower nine bits. -/
def mantissa (payload : BitVec 12) : Nat := payload.toNat &&& 0x1FF

/-- The mantissa is what the exponent leaves of the payload. -/
theorem toNat_eq (payload : BitVec 12) :
    payload.toNat = exponent payload * 512 + mantissa payload := by
  rw [exponent, mantissa, Nat.shiftRight_eq_div_pow, Nat.and_two_pow_sub_one_eq_mod _ 9]
  omega

/-- An exponent has three bits. -/
theorem exponent_lt (payload : BitVec 12) : exponent payload < 8 := by
  have width := payload.isLt
  rw [exponent, Nat.shiftRight_eq_div_pow]
  omega

/-- A mantissa has nine bits. -/
theorem mantissa_le (payload : BitVec 12) : mantissa payload ≤ 511 := Nat.and_le_right

/-- The marked payloads are those whose mantissa has all of its nine bits. -/
theorem getLsbD_eight_iff {payload : BitVec 12} :
    payload.getLsbD 8 = true ↔ 256 ≤ mantissa payload := by
  -- The mark is the top bit of the mantissa.
  rw [BitVec.getLsbD, Nat.testBit_eq_decide_div_mod_eq, decide_eq_true_eq, mantissa,
    Nat.and_two_pow_sub_one_eq_mod _ 9]
  omega

/-- Payloads with the same exponent and mantissa are the same. -/
theorem eq_of_parts {first second : BitVec 12} (exponents : exponent first = exponent second)
    (mantissas : mantissa first = mantissa second) : first = second := by
  apply BitVec.eq_of_toNat_eq
  rw [toNat_eq, toNat_eq, exponents, mantissas]

/-- An exponent and a mantissa that fit are found again in the payload made of them. -/
theorem parts_append {shift digits : Nat} (small : shift < 8) (short : digits ≤ 511) :
    exponent (BitVec.ofNat 3 shift ++ BitVec.ofNat 9 digits) = shift ∧
      mantissa (BitVec.ofNat 3 shift ++ BitVec.ofNat 9 digits) = digits := by
  -- Neither part is cut to its width, and the upper one counts in units of the lower one's.
  have whole : (BitVec.ofNat 3 shift ++ BitVec.ofNat 9 digits).toNat = shift * 512 + digits := by
    rw [BitVec.toNat_append, BitVec.toNat_ofNat, BitVec.toNat_ofNat, Nat.mod_eq_of_lt small,
      Nat.mod_eq_of_lt (by omega), ← Nat.shiftLeft_add_eq_or_of_lt (by omega),
      Nat.shiftLeft_eq]
  rw [exponent, mantissa, whole, Nat.shiftRight_eq_div_pow, Nat.and_two_pow_sub_one_eq_mod _ 9]
  omega

/-- Cut by an exponent, a period has so many bits fewer. -/
theorem shiftRight_lt_iff (period shift bits : Nat) (positive : 0 < bits) :
    period >>> shift < 2 ^ bits ↔ Nat.log 2 period < shift + bits := by
  rw [Nat.shiftRight_eq_div_pow, Nat.div_lt_iff_lt_mul (Nat.two_pow_pos shift), ← Nat.pow_add,
    Nat.add_comm]
  constructor
  · intro short
    -- The logarithm of no period at all is zero as well.
    rcases Nat.eq_zero_or_pos period with rfl | running
    · rw [Nat.log_zero_right]
      omega
    · exact Nat.log_lt_of_lt_pow (Nat.ne_of_gt running) short
  · exact Nat.lt_pow_of_log_lt (by decide)

/-- An exponent cuts a period to exactly nine bits when the period has that many more in all. -/
theorem fits_iff_log {period shift : Nat} :
    256 ≤ period >>> shift ∧ period >>> shift ≤ 511 ↔ Nat.log 2 period = shift + 8 := by
  have eight := shiftRight_lt_iff period shift 8 (by decide)
  have nine := shiftRight_lt_iff period shift 9 (by decide)
  -- Nine bits are less than the next power of two and no less than the one before.
  omega

/-- The exponent of a period is the one that fits, of which there is no more than one. -/
theorem ofPeriod?_eq_some_iff_exists {period : Nat} {payload : BitVec 12} :
    ofPeriod? period = some payload ↔ ∃ shift < 8, Nat.log 2 period = shift + 8 ∧
      BitVec.ofNat 3 shift ++ BitVec.ofNat 9 (period >>> shift) = payload := by
  simp only [ofPeriod?, Option.map_eq_some_iff, List.find?_range_eq_some, Bool.and_eq_true,
    decide_eq_true_eq, fits_iff_log, List.mem_range, Bool.not_eq_true']
  constructor
  · rintro ⟨shift, ⟨fits, small, -⟩, made⟩
    exact ⟨shift, small, fits, made⟩
  · rintro ⟨shift, small, fits, made⟩
    refine ⟨shift, ⟨fits, small, fun before earlier => ?_⟩, made⟩
    -- A smaller exponent leaves the period more bits than nine.
    rw [← Bool.not_eq_true, Bool.and_eq_true, decide_eq_true_eq, decide_eq_true_eq, fits_iff_log]
    omega

/-- A period is sent by the payload with all nine bits whose mantissa is the period cut to them. -/
theorem ofPeriod?_eq_some_iff {period : Nat} {payload : BitVec 12} :
    ofPeriod? period = some payload ↔
      256 ≤ mantissa payload ∧ mantissa payload = period >>> exponent payload := by
  rw [ofPeriod?_eq_some_iff_exists]
  constructor
  · rintro ⟨shift, small, fits, rfl⟩
    obtain ⟨long, short⟩ := fits_iff_log.mpr fits
    obtain ⟨exponents, mantissas⟩ := parts_append small short
    rw [exponents, mantissas]
    exact ⟨long, rfl⟩
  · rintro ⟨long, cut⟩
    -- The payload made of its own exponent and mantissa is the payload again.
    have short := mantissa_le payload
    have parts := parts_append (exponent_lt payload) short
    refine ⟨exponent payload, exponent_lt payload, fits_iff_log.mp ⟨cut ▸ long, cut ▸ short⟩, ?_⟩
    rw [← cut]
    exact eq_of_parts parts.1 parts.2

/-- The payload of a motor period is marked as one by its ninth bit. -/
theorem getLsbD_ofPeriod? {period : Nat} {payload : BitVec 12}
    (found : ofPeriod? period = some payload) : payload.getLsbD 8 = true :=
  getLsbD_eight_iff.mpr (ofPeriod?_eq_some_iff.mp found).1

/-- The periods that can be sent have nine bits at least and sixteen at most. -/
theorem isSome_ofPeriod?_iff {period : Nat} :
    (ofPeriod? period).isSome = true ↔ 256 ≤ period ∧ period ≤ 65535 := by
  -- The ends of the range say how many bits there are, and the exponent cuts all beyond nine.
  have least := shiftRight_lt_iff period 0 8 (by decide)
  have most := shiftRight_lt_iff period 0 16 (by decide)
  rw [Nat.shiftRight_zero] at least most
  rw [Option.isSome_iff_exists]
  simp only [ofPeriod?_eq_some_iff_exists]
  constructor
  · rintro ⟨_, shift, small, fits, -⟩
    omega
  · rintro ⟨low, high⟩
    exact ⟨_, Nat.log 2 period - 8, by omega, by omega, rfl⟩

/-- No smaller exponent than that of its payload cuts a period to nine bits. -/
theorem isLeast_exponent {period : Nat} {payload : BitVec 12}
    (found : ofPeriod? period = some payload) :
    IsLeast {shift | period >>> shift ≤ 511} (exponent payload) := by
  obtain ⟨long, cut⟩ := ofPeriod?_eq_some_iff.mp found
  have short := mantissa_le payload
  rw [cut] at long short
  refine ⟨short, fun shift enough => ?_⟩
  -- The period has eight bits more than the exponent says, and no more than any that is enough.
  have bits := fits_iff_log.mp ⟨long, short⟩
  have fewer := (shiftRight_lt_iff period shift 9 (by decide)).mp (Nat.lt_succ_of_le enough)
  omega

/-- What is sent has zeros for the bits that are cut off, so less than one part in 256 is lost. -/
theorem sent_bounds {period : Nat} {payload : BitVec 12}
    (found : ofPeriod? period = some payload) :
    let sent := mantissa payload <<< exponent payload
    sent ≤ period ∧ period < sent + 2 ^ exponent payload ∧ 256 * (period - sent) < period := by
  obtain ⟨long, cut⟩ := ofPeriod?_eq_some_iff.mp found
  -- What is lost is a remainder, and the sent part is at least 256 times what that is below.
  have width := Nat.two_pow_pos (exponent payload)
  rw [Nat.shiftRight_eq_div_pow] at cut
  have below := Nat.div_mul_le_self period (2 ^ exponent payload)
  have above := Nat.lt_div_mul_add (a := period) width
  have top := Nat.mul_le_mul_right (2 ^ exponent payload) long
  rw [← cut] at below above
  rw [Nat.shiftLeft_eq]
  generalize mantissa payload * 2 ^ exponent payload = sent at *
  omega

/-- A marked payload is what the period that it says is sent as. -/
theorem ofPeriod?_sent {payload : BitVec 12} (marked : payload.getLsbD 8 = true) :
    ofPeriod? (mantissa payload <<< exponent payload) = some payload :=
  ofPeriod?_eq_some_iff.mpr
    ⟨getLsbD_eight_iff.mp marked, (Nat.shiftLeft_shiftRight _ _).symm⟩

/-- A reading takes the period from the same parts of the payload. -/
theorem period_eq (payload : BitVec 12) :
    Reading.period payload = mantissa payload <<< exponent payload := by
  -- The upper three bits are the exponent, and the lower nine the mantissa.
  have upper : (payload.extractLsb' 9 3).toNat = exponent payload := by
    rw [BitVec.extractLsb'_toNat]
    exact Nat.mod_eq_of_lt (exponent_lt payload)
  have lower : (payload.extractLsb' 0 9).toNat = mantissa payload := by
    rw [BitVec.extractLsb'_toNat, Nat.shiftRight_zero]
    exact (Nat.and_two_pow_sub_one_eq_mod _ 9).symm
  rw [Reading.period, upper, lower]

/-- A marked payload is read as the speed at the period that it says. -/
theorem classify_of_marked {payload : BitVec 12} (marked : payload.getLsbD 8 = true)
    (checksum : Nat) : Reading.classify payload checksum =
      ⟨.erpm, payload, checksum, 60000000 / (mantissa payload <<< exponent payload)⟩ := by
  rw [Reading.classify, if_pos marked, period_eq]
  rfl

/--
Motor periods of nine to sixteen bits are sent as their first nine bits and a number of zeros.

The exponent is the least one that leaves no more than nine bits.
Less than one part in 256 of the period is lost, and the speed that is read is never too low.
Every payload that is marked as a motor period is sent for the period that it says.
-/
theorem ofPeriod?_exact (period : Nat) :
    ((ofPeriod? period).isSome = true ↔ 256 ≤ period ∧ period ≤ 65535) ∧
    (∀ payload, ofPeriod? period = some payload →
      let sent := mantissa payload <<< exponent payload
      payload.getLsbD 8 = true ∧
      IsLeast {shift | period >>> shift ≤ 511} (exponent payload) ∧
      mantissa payload = period >>> exponent payload ∧
      (sent ≤ period ∧ period < sent + 2 ^ exponent payload ∧ 256 * (period - sent) < period) ∧
      ∀ bitTicks, 0 < bitTicks → ∃ reading,
        Reading.ofCapture (LineCode.captureReply (Checked.ofPayload payload) bitTicks) bitTicks =
          .ok reading ∧
        reading.kind = .erpm ∧ reading.value = 60000000 / sent ∧
        60000000 / period ≤ reading.value) ∧
    ∀ payload : BitVec 12, payload.getLsbD 8 = true →
      ofPeriod? (mantissa payload <<< exponent payload) = some payload := by
  refine ⟨isSome_ofPeriod?_iff, fun payload found => ?_, fun payload => ofPeriod?_sent⟩
  intro sent
  have marked := getLsbD_ofPeriod? found
  have bounds := sent_bounds found
  refine ⟨marked, isLeast_exponent found, (ofPeriod?_eq_some_iff.mp found).2, bounds,
    fun bitTicks positive => ?_⟩
  have read := Reading.ofCapture_captureReply payload positive
  rw [classify_of_marked marked] at read
  -- A shorter period is a higher speed, and no more than the period is sent.
  have running : 0 < sent := by
    have lost := bounds.2.2
    omega
  exact ⟨_, read, rfl, rfl, Nat.div_le_div_left bounds.1 running⟩

/-- The longest period loses seven ones, and is read as 917 turns where it makes 915. -/
theorem ofPeriod?_exact_of_longest :
    ofPeriod? 65535 = some 0xFFF ∧ IsLeast {shift | 65535 >>> shift ≤ 511} 7 ∧
    (∃ reading, Reading.ofCapture (LineCode.captureReply (Checked.ofPayload 0xFFF) 1) 1 =
      .ok reading ∧ reading.kind = .erpm ∧ reading.value = 917 ∧ 915 ≤ reading.value) ∧
    (0x100 : BitVec 12).getLsbD 8 = true ∧ ofPeriod? 256 = some 0x100 := by
  have found : ofPeriod? 65535 = some 0xFFF := by decide
  have marked : (0x100 : BitVec 12).getLsbD 8 = true := by decide
  -- The least shift that fits is seven, and what it cuts off is lost.
  obtain ⟨-, least, -, -, read⟩ := (ofPeriod?_exact 65535).2.1 0xFFF found
  exact ⟨found, least, read 1 Nat.one_pos, marked, (ofPeriod?_exact 256).2.2 0x100 marked⟩

/-- At both ends of what can be sent the nearest periods beyond are refused. -/
example : ofPeriod? 255 = none ∧ ofPeriod? 256 = some 0x100 ∧ ofPeriod? 65535 = some 0xFFF ∧
    ofPeriod? 65536 = none := by decide

end Payload

end MotorLink
