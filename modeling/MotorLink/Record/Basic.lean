import MotorLink.Error
import MotorLink.Link.Telemetry
import MotorLink.Record.Json

/-! Telemetry records: one line of JSON for what a motor said at an instant. -/

namespace MotorLink

/-- What a motor said at an instant, in volts and amperes. -/
structure Record where
  timestamp : Timestamp
  label : String
  rpm : UInt16
  temperature : UInt8
  volts : Single
  amps : Single
  kind : ReadingKind
deriving DecidableEq, Repr

namespace Record

/-- A number of thousandths as a real. -/
def ofThousandths (n : UInt32) : Single := (Binary.ofNat n.toNat).div (.ofNat 1000)

/-- The record of a motor's telemetry. -/
def ofTelemetry (timestamp : Timestamp) (label : String) (telemetry : Telemetry) : Record where
  timestamp
  label
  rpm := telemetry.rpm
  temperature := telemetry.temperature
  volts := ofThousandths telemetry.millivolts
  amps := ofThousandths telemetry.milliamps
  kind := telemetry.lastReading.kind

/-- The fields of a record in the order of their declaration. -/
def fields (printer : Json.Printer) (record : Record) : List (String × Json.Content) :=
  [("timestamp", .text (printer.instant record.timestamp)),
   ("esc", .text record.label),
   ("rpm", .natural record.rpm.toNat),
   ("temperature_c", .natural record.temperature.toNat),
   ("volts", .single record.volts),
   ("amps", .single record.amps),
   ("kind", .text record.kind.name)]

/-- The line of a record, if the printer does not refuse it. -/
def lineWith (printer : Json.Printer) (record : Record) : Except LinkError String :=
  match printer.record (record.fields printer) with
  | .error error => .error (.json error)
  | .ok written => .ok (written ++ "\n")

/-- The line of a record by the standard printer, which refuses none. -/
def line (record : Record) : String := Json.record (record.fields .standard) ++ "\n"

/-- The standard printer has a line for every record. -/
theorem lineWith_standard (record : Record) : record.lineWith .standard = .ok record.line := rfl

end Record

end MotorLink
