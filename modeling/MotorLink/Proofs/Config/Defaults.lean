import MotorLink.Proofs.Config.Fields

/-!
Documents: what they say replaces the defaults, and what they leave out does not.

Defaults stand in two places, the declarations of fields and the standard settings.
-/

namespace MotorLink

open Toml (Deserializer Entries Value Values)
open Toml.Field (holds_givenOr)

section

variable {reader : Deserializer} (lawful : reader.Lawful) (origin : Toml.TableOrigin)
variable {entries : Entries}

namespace MotorSection

/-- The names that the motor section knows, with the types of their values. -/
def known : List (String × Expected) :=
  [("pole_pairs", .unsigned 8), ("update_rate_hz", .unsigned 16), ("bidirectional", .boolean),
   ("telemetry_request_divisor", .unsigned 8), ("idle_code", .unsigned 16),
   ("digital_idle_percent", .single)]

/-- The motor section with what a table gives in place of its own. -/
def overwrittenBy (base : MotorSection) (entries : Entries) : MotorSection where
  polePairs := entries.givenOr "pole_pairs" (Value.word? .ofNat) base.polePairs
  updateRateHz := entries.givenOr "update_rate_hz" (Value.word? .ofNat) base.updateRateHz
  bidirectional := entries.givenOr "bidirectional" Value.truth? base.bidirectional
  requestDivisor :=
    entries.givenOr "telemetry_request_divisor" (Value.word? .ofNat) base.requestDivisor
  idleCode := entries.givenOr "idle_code" (Value.word? .ofNat) base.idleCode
  idlePercent := entries.givenOr "digital_idle_percent" Value.single? base.idlePercent

include lawful in
/-- A table of values of the right types is read as the standard settings with these values. -/
theorem record_table (distinct : entries.Distinct) (typed : entries.Typed known) :
    reader.record (declared reader) (.table origin entries) = .ok (overwrittenBy {} entries) := by
  -- The default of each declared field is that of the standard settings.
  let given := overwrittenBy {} entries
  have hold : Values.Hold entries (declared reader).fields
      (given.polePairs, given.updateRateHz, given.bidirectional, given.requestDivisor,
        given.idleCode, given.idlePercent, ()) :=
    ⟨holds_givenOr typed (by simp [known]) (lawful.agrees_word 8 _) rfl,
     holds_givenOr typed (by simp [known]) (lawful.agrees_word 16 _) rfl,
     holds_givenOr typed (by simp [known]) lawful.agrees_boolean rfl,
     holds_givenOr typed (by simp [known]) (lawful.agrees_word 8 _) rfl,
     holds_givenOr typed (by simp [known]) (lawful.agrees_word 16 _) rfl,
     holds_givenOr typed (by simp [known]) lawful.agrees_single rfl, trivial⟩
  exact lawful.record (declared reader) distinct hold

end MotorSection

namespace TimingSection

/-- The names that the timing section knows, with the types of their values. -/
def known : List (String × Expected) := [("peripheral_clock_hz", .unsigned 32)]

/-- The timing section with what a table gives in place of its own. -/
def overwrittenBy (base : TimingSection) (entries : Entries) : TimingSection where
  clockHz := entries.givenOr "peripheral_clock_hz" (Value.word? .ofNat) base.clockHz

include lawful in
/-- A table of values of the right types is read as the standard settings with these values. -/
theorem record_table (distinct : entries.Distinct) (typed : entries.Typed known) :
    reader.record (declared reader) (.table origin entries) = .ok (overwrittenBy {} entries) := by
  have hold : Values.Hold entries (declared reader).fields
      ((overwrittenBy {} entries).clockHz, ()) :=
    ⟨holds_givenOr typed (by simp [known]) (lawful.agrees_word 32 _) rfl, trivial⟩
  exact lawful.record (declared reader) distinct hold

end TimingSection

namespace ChannelSection

/-- The names that the channel section knows, with the types of their values. -/
def known : List (String × Expected) := [("pool_size", .size)]

/-- The channel section with what a table gives in place of its own. -/
def overwrittenBy (base : ChannelSection) (entries : Entries) : ChannelSection where
  poolSize := entries.givenOr "pool_size" (Value.word? .ofNat) base.poolSize

include lawful in
/-- A table of values of the right types is read as the standard settings with these values. -/
theorem record_table (distinct : entries.Distinct) (typed : entries.Typed known) :
    reader.record (declared reader) (.table origin entries) = .ok (overwrittenBy {} entries) := by
  have hold : Values.Hold entries (declared reader).fields
      ((overwrittenBy {} entries).poolSize, ()) :=
    ⟨holds_givenOr typed (by simp [known]) lawful.agrees_count rfl, trivial⟩
  exact lawful.record (declared reader) distinct hold

end ChannelSection

namespace CalibrationSection

/-- The names that the calibration section knows, with the types of their values. -/
def known : List (String × Expected) :=
  [("millivolts_per_lsb", .unsigned 32), ("milliamps_per_lsb", .unsigned 32)]

/-- The calibration section with what a table gives in place of its own. -/
def overwrittenBy (base : CalibrationSection) (entries : Entries) : CalibrationSection where
  millivoltsPerStep :=
    entries.givenOr "millivolts_per_lsb" (Value.word? .ofNat) base.millivoltsPerStep
  milliampsPerStep := entries.givenOr "milliamps_per_lsb" (Value.word? .ofNat) base.milliampsPerStep

include lawful in
/-- A table of values of the right types is read as the standard settings with these values. -/
theorem record_table (distinct : entries.Distinct) (typed : entries.Typed known) :
    reader.record (declared reader) (.table origin entries) = .ok (overwrittenBy {} entries) := by
  let given := overwrittenBy {} entries
  have hold : Values.Hold entries (declared reader).fields
      (given.millivoltsPerStep, given.milliampsPerStep, ()) :=
    ⟨holds_givenOr typed (by simp [known]) (lawful.agrees_word 32 _) rfl,
     holds_givenOr typed (by simp [known]) (lawful.agrees_word 32 _) rfl, trivial⟩
  exact lawful.record (declared reader) distinct hold

end CalibrationSection

namespace BenchSection

/-- The names that the bench section knows, with the types of their values. -/
def known : List (String × Expected) :=
  [("loop_hz", .unsigned 32), ("duration_s", .unsigned 64),
   ("telemetry_log_interval_ms", .unsigned 64)]

/-- The bench section with what a table gives in place of its own. -/
def overwrittenBy (base : BenchSection) (entries : Entries) : BenchSection where
  loopHz := entries.givenOr "loop_hz" (Value.word? .ofNat) base.loopHz
  durationSeconds := entries.givenOr "duration_s" (Value.word? .ofNat) base.durationSeconds
  logIntervalMs :=
    entries.givenOr "telemetry_log_interval_ms" (Value.word? .ofNat) base.logIntervalMs

include lawful in
/-- A table of values of the right types is read as the standard settings with these values. -/
theorem record_table (distinct : entries.Distinct) (typed : entries.Typed known) :
    reader.record (declared reader) (.table origin entries) = .ok (overwrittenBy {} entries) := by
  let given := overwrittenBy {} entries
  have hold : Values.Hold entries (declared reader).fields
      (given.loopHz, given.durationSeconds, given.logIntervalMs, ()) :=
    ⟨holds_givenOr typed (by simp [known]) (lawful.agrees_word 32 _) rfl,
     holds_givenOr typed (by simp [known]) (lawful.agrees_word 64 _) rfl,
     holds_givenOr typed (by simp [known]) (lawful.agrees_word 64 _) rfl, trivial⟩
  exact lawful.record (declared reader) distinct hold

end BenchSection

namespace Config

/-- The sections of the settings, with the names and types that each of them knows. -/
def known : List (String × List (String × Expected)) :=
  [("esc", MotorSection.known), ("timing", TimingSection.known),
   ("channels", ChannelSection.known), ("calibration", CalibrationSection.known),
   ("bench", BenchSection.known)]

/-- The settings with what a document gives in place of their own. -/
def overwrittenBy (base : Config) (entries : Entries) : Config where
  motor := base.motor.overwrittenBy (entries.tableOf "esc")
  timing := base.timing.overwrittenBy (entries.tableOf "timing")
  channels := base.channels.overwrittenBy (entries.tableOf "channels")
  calibration := base.calibration.overwrittenBy (entries.tableOf "calibration")
  bench := base.bench.overwrittenBy (entries.tableOf "bench")

/-- All sections are there as tables, and what these have under a known name is of its type. -/
def WellTyped (entries : Entries) : Prop :=
  ∀ part ∈ known, ∃ origin inner,
    entries.lookup part.1 = some (.table origin inner) ∧ Entries.Typed inner part.2

/-- The field of a section shows what is made of its table in such a document. -/
theorem WellTyped.holds (typed : WellTyped entries) (distinct : entries.Distinct) (name : String)
    {rows : List (String × Expected)} (listed : (name, rows) ∈ known) {α : Type}
    {read : Value → Except DataError α} {made : Entries → α}
    (reads : ∀ origin {inner}, Entries.Distinct inner → Entries.Typed inner rows →
      read (.table origin inner) = .ok (made inner)) :
    Toml.Field.Holds ⟨α, name, read, none⟩ entries (made (entries.tableOf name)) := by
  obtain ⟨origin, inner, found, admitted⟩ := typed _ listed
  -- No key stands twice in the table of a section, for it is a part of the whole.
  have whole := distinct.each _ (Entries.mem_of_lookup found)
  rw [Toml.Field.Holds, Entries.tableOf, found]
  exact reads origin (Entries.distinct_table_iff.mp whole) admitted

include lawful in
/-- A document with all sections, in any order, is the standard settings with what it gives. -/
theorem record_table (distinct : entries.Distinct) (typed : WellTyped entries) :
    reader.record (declared reader) (.table origin entries) = .ok (overwrittenBy {} entries) := by
  let given := overwrittenBy {} entries
  have hold : Values.Hold entries (declared reader).fields
      (given.motor, given.timing, given.channels, given.calibration, given.bench, ()) :=
    ⟨typed.holds distinct "esc" (by simp [known]) (MotorSection.record_table lawful),
     typed.holds distinct "timing" (by simp [known]) (TimingSection.record_table lawful),
     typed.holds distinct "channels" (by simp [known]) (ChannelSection.record_table lawful),
     typed.holds distinct "calibration" (by simp [known]) (CalibrationSection.record_table lawful),
     typed.holds distinct "bench" (by simp [known]) (BenchSection.record_table lawful), trivial⟩
  exact lawful.record (declared reader) distinct hold

include lawful in
/-- A document without one of the sections gives no settings. -/
theorem exists_error_of_missing {part : String × List (String × Expected)} (listed : part ∈ known)
    (missing : entries.lookup part.1 = none) :
    ∃ error, reader.record (declared reader) (.table origin entries) = .error error := by
  -- Every section is a field that has to be given.
  obtain ⟨field, declares, required, named⟩ :
      ∃ field ∈ (declared reader).fields, field.unset = none ∧ field.name = part.1 := by
    simp only [known, List.mem_cons, List.not_mem_nil, or_false] at listed
    rcases listed with rfl | rfl | rfl | rfl | rfl <;> simp [declared]
  exact lawful.missing (declared reader) declares required (named ▸ missing)

/--
Settings are read as if the document wrote what it gives into the standard settings.

This holds for a document that has all sections as tables, with values of the right types.

A document without one of the sections is an error.
-/
theorem parseWith_overwrites_defaults {reader : Deserializer} (lawful : reader.Lawful)
    {source : String} {entries : Entries} (parsed : reader.table? source = some entries) :
    (WellTyped entries → parseWith reader source = (overwrittenBy {} entries).validate) ∧
      ((∃ part ∈ known, entries.lookup part.1 = none) →
        ∃ error, parseWith reader source = .error (.data error)) := by
  -- What is validated in the end is the record that the reader makes of the whole document.
  have distinct := lawful.distinct parsed
  rw [parseWith, parsed]
  constructor
  · intro typed
    simp only [record_table lawful .header distinct typed]
  · rintro ⟨part, listed, missing⟩
    obtain ⟨error, failed⟩ := exists_error_of_missing lawful .header listed missing
    exact ⟨error, by simp only [failed]⟩

/-- A document that gives one setting, leaves the others out, and has a key that is not known. -/
theorem parse_overwrites_defaults_of_pole_pairs :
    parse "[esc]\npole_pairs = 14\n[timing]\n[channels]\n[calibration]\n[bench]\nnote = 1\n" =
      .ok { motor := { polePairs := 14 } } := by
  have parsed : Deserializer.standard.table?
      "[esc]\npole_pairs = 14\n[timing]\n[channels]\n[calibration]\n[bench]\nnote = 1\n" = some
      [("esc", .table .header [("pole_pairs", .integer 14)]), ("timing", .table .header []),
        ("channels", .table .header []), ("calibration", .table .header []),
        ("bench", .table .header [("note", .integer 1)])] := rfl
  -- The document is well-typed section by section; the unknown key is of no type at all.
  rw [parse, (parseWith_overwrites_defaults Deserializer.lawful_standard parsed).1]
  · rfl
  · intro part listed
    simp only [known, List.mem_cons, List.not_mem_nil, or_false] at listed
    rcases listed with rfl | rfl | rfl | rfl | rfl
    · refine ⟨.header, [("pole_pairs", .integer 14)], rfl, ?_⟩
      have admitted : (Expected.unsigned 8).Admits (.integer (14 : Nat)) := .unsigned (by decide)
      simpa [Entries.Typed, MotorSection.known] using admitted
    · exact ⟨.header, [], rfl, by simp [Entries.Typed]⟩
    · exact ⟨.header, [], rfl, by simp [Entries.Typed]⟩
    · exact ⟨.header, [], rfl, by simp [Entries.Typed]⟩
    · exact ⟨.header, [("note", .integer 1)], rfl, by simp [Entries.Typed, BenchSection.known]⟩

end Config

end

end MotorLink
