import MotorLink.Proofs.Number.Magnitude
import MotorLink.Proofs.Record.Standard
import MotorLink.Record.Basic

/-!
The line of a record: one line whatever the label holds, and it is read back as the record.

The label stands between quotes with its escapes, so it can neither end the line nor its field.
-/

namespace MotorLink.Record

open Json

/-- The greatest code that a word is rounded to. -/
def greatestWord : Nat :=
  BinaryFormat.single.nearestCode (UInt32.size * BinaryFormat.single.unitsPerOne) 1

/-- A number of thousandths is an amount, however many there are. -/
theorem isAmount_ofThousandths (n : UInt32) : (ofThousandths n).IsAmount := by
  -- A word is rounded to no more than the greatest one is, and a thousand is held exactly.
  obtain ⟨word, dividend, small⟩ : ∃ word : Fin (BinaryFormat.single.infinityCode + 1),
      (Binary.ofNat n.toNat : Single) = .number false word ∧ word.val ≤ greatestWord := by
    refine ⟨_, rfl, ?_⟩
    apply BinaryFormat.nearestCode_mono
    exact Nat.mul_le_mul_right _ (Nat.le_of_lt n.toNat_lt)
  obtain ⟨thousand, divisor, units, finite⟩ :
      ∃ thousand : Fin (BinaryFormat.single.infinityCode + 1),
        (Binary.ofNat 1000 : Single) = .number false thousand ∧
          BinaryFormat.single.units thousand = 1000 * BinaryFormat.single.unitsPerOne ∧
          thousand.val < BinaryFormat.single.infinityCode :=
    Binary.exists_ofNat (by decide) (by decide +kernel)
  rw [ofThousandths, dividend, divisor]
  apply Binary.isAmount_div small (by decide +kernel) finite
  · rw [units]
    decide +kernel
  · rw [units]
    decide +kernel

/-- A record of finite amounts is printed as an object of its fields in their order. -/
theorem exists_spells_fields {printer : Printer} (lawful : printer.Lawful) (record : Record)
    {volts amps : Numeral} (printedVolts : printer.plain (.single record.volts) = .ok volts.text)
    (printedAmps : printer.plain (.single record.amps) = .ok amps.text) :
    ∃ written, printer.record (record.fields printer) = .ok written ∧
      Spells 2 written (.object
        [("timestamp", .text (printer.instant record.timestamp)), ("esc", .text record.label),
          ("rpm", .number record.rpm.toNat), ("temperature_c", .number record.temperature.toNat),
          ("volts", .number volts.value), ("amps", .number amps.value),
          ("kind", .text record.kind.name)]) := by
  -- Field by field, in the order of the record: texts, whole numbers and the two amounts.
  apply lawful.exists_record
  exact
    .cons (lawful.shows_text "timestamp" (printer.instant record.timestamp)) <|
    .cons (lawful.shows_text "esc" record.label) <|
    .cons (lawful.shows_natural "rpm" record.rpm.toNat) <|
    .cons (lawful.shows_natural "temperature_c" record.temperature.toNat) <|
    .cons (lawful.shows_single "volts" printedVolts) <|
    .cons (lawful.shows_single "amps" printedAmps) <|
    .cons (lawful.shows_text "kind" record.kind.name) .nil

/--
Every record has a line, and it is read back with the label that the record was made with.

The line end stands last, and it is the only character of the line that is not seen.

Voltage and current are finite, and stand in the line as the numbers that their digits write.
-/
theorem lineWith_reads_back {printer : Printer} (lawful : printer.Lawful) (timestamp : Timestamp)
    (label : String) (telemetry : Telemetry) :
    let record := ofTelemetry timestamp label telemetry
    record.volts.isFinite = true ∧ record.amps.isFinite = true ∧
      ∃ line, record.lineWith printer = .ok line ∧
        (∃ body : List Char, line.toList = body ++ ['\n'] ∧ ∀ c ∈ body, 0x20 ≤ c.toNat) ∧
        ∃ volts amps : Numeral, printer.plain (.single record.volts) = .ok volts.text ∧
          printer.plain (.single record.amps) = .ok amps.text ∧
          read? line = some (.object
            [("timestamp", .text (printer.instant timestamp)), ("esc", .text label),
              ("rpm", .number telemetry.rpm.toNat),
              ("temperature_c", .number telemetry.temperature.toNat),
              ("volts", .number volts.value), ("amps", .number amps.value),
              ("kind", .text telemetry.lastReading.kind.name)]) := by
  -- Both amounts are finite, so each has digits, and with them every field can be printed.
  intro record
  have finiteVolts : record.volts.isFinite = true :=
    (isAmount_ofThousandths telemetry.millivolts).isFinite
  have finiteAmps : record.amps.isFinite = true :=
    (isAmount_ofThousandths telemetry.milliamps).isFinite
  obtain ⟨volts, printedVolts⟩ := lawful.single finiteVolts
  obtain ⟨amps, printedAmps⟩ := lawful.single finiteAmps
  obtain ⟨written, printed, spells⟩ := exists_spells_fields lawful record printedVolts printedAmps
  refine ⟨finiteVolts, finiteAmps, written ++ "\n", ?_, ?_, volts, amps, printedVolts, printedAmps,
    ?_⟩
  · rw [lineWith, printed]
  · exact ⟨written.toList, String.toList_append, spells.visible⟩
  · -- Two levels, the object and its members, fit into any line.
    exact read?_of_spells spells (Nat.le_add_left _ _)

/-- A label that looks like the end of a text and another field is read as a label. -/
theorem line_reads_back_of_forged_field :
    let label := "a\",\"rpm\":9\n"
    let record := ofTelemetry .epoch label ⟨6002, 41, 16500, 12000, ⟨.voltage, 0x442, 0, 66⟩⟩
    record.line =
        "\x7b\"timestamp\":\"1970-01-01T00:00:00Z\",\"esc\":\"a\\\",\\\"rpm\\\":9\\n\"," ++
        "\"rpm\":6002,\"temperature_c\":41,\"volts\":16.5,\"amps\":12.0," ++
        "\"kind\":\"voltage\"\x7d\n" ∧
      (∃ body : List Char, record.line.toList = body ++ ['\n'] ∧ ∀ c ∈ body, 0x20 ≤ c.toNat) ∧
      ∃ volts amps : Rat, read? record.line = some (.object
        [("timestamp", .text "1970-01-01T00:00:00Z"), ("esc", .text label), ("rpm", .number 6002),
          ("temperature_c", .number 41), ("volts", .number volts), ("amps", .number amps),
          ("kind", .text "voltage")]) := by
  intro label record
  obtain ⟨_, _, line, printed, framed, volts, amps, _, _, read⟩ :=
    lineWith_reads_back Printer.lawful_standard .epoch label
      ⟨6002, 41, 16500, 12000, ⟨.voltage, 0x442, 0, 66⟩⟩
  have start : Printer.standard.instant .epoch = "1970-01-01T00:00:00Z" := by decide +kernel
  -- The standard printer refuses nothing, so its line is the one that the law speaks of.
  obtain rfl : record.line = line := Except.ok.inj ((lineWith_standard record).symm.trans printed)
  rw [start] at read
  exact ⟨by decide +kernel, framed, volts.value, amps.value, read⟩

end MotorLink.Record
