import MotorLink.Config.Validate
import MotorLink.Error
import MotorLink.Toml.Decode

/-!
Settings as they are declared to a reader of documents, and settings read out of a text.

Each field has a name of its own in documents, and most have a value without an entry.
-/

namespace MotorLink

open Toml (Deserializer Declaration)

/-- The declaration of the motor section. -/
def MotorSection.declared (reader : Deserializer) : Declaration MotorSection where
  name := "EscConfig"
  fields :=
    [⟨UInt8, "pole_pairs", reader.word 8 .ofNat, some Default.polePairs⟩,
     ⟨UInt16, "update_rate_hz", reader.word 16 .ofNat, some Default.updateRateHz⟩,
     ⟨Bool, "bidirectional", reader.boolean, some Default.bidirectional⟩,
     ⟨UInt8, "telemetry_request_divisor", reader.word 8 .ofNat, some Default.requestDivisor⟩,
     ⟨UInt16, "idle_code", reader.word 16 .ofNat, some Default.idleCode⟩,
     ⟨Single, "digital_idle_percent", reader.single, some .zero⟩]
  make := fun (polePairs, updateRateHz, bidirectional, requestDivisor, idleCode, idlePercent, ()) =>
    { polePairs, updateRateHz, bidirectional, requestDivisor, idleCode, idlePercent }

/-- The declaration of the timing section. -/
def TimingSection.declared (reader : Deserializer) : Declaration TimingSection where
  name := "TimingConfig"
  fields := [⟨UInt32, "peripheral_clock_hz", reader.word 32 .ofNat, some Default.clockHz⟩]
  make := fun (clockHz, ()) => { clockHz }

/-- The declaration of the channel section. -/
def ChannelSection.declared (reader : Deserializer) : Declaration ChannelSection where
  name := "ChannelsConfig"
  fields := [⟨UInt64, "pool_size", reader.count, some Default.poolSize⟩]
  make := fun (poolSize, ()) => { poolSize }

/-- The declaration of the calibration section. -/
def CalibrationSection.declared (reader : Deserializer) : Declaration CalibrationSection where
  name := "CalibrationConfig"
  fields :=
    [⟨UInt32, "millivolts_per_lsb", reader.word 32 .ofNat, some Default.millivoltsPerStep⟩,
     ⟨UInt32, "milliamps_per_lsb", reader.word 32 .ofNat, some Default.milliampsPerStep⟩]
  make := fun (millivoltsPerStep, milliampsPerStep, ()) => { millivoltsPerStep, milliampsPerStep }

/-- The declaration of the bench section. -/
def BenchSection.declared (reader : Deserializer) : Declaration BenchSection where
  name := "BenchConfig"
  fields :=
    [⟨UInt32, "loop_hz", reader.word 32 .ofNat, some Default.loopHz⟩,
     ⟨UInt64, "duration_s", reader.word 64 .ofNat, some 0⟩,
     ⟨UInt64, "telemetry_log_interval_ms", reader.word 64 .ofNat, some Default.logIntervalMs⟩]
  make := fun (loopHz, durationSeconds, logIntervalMs, ()) =>
    { loopHz, durationSeconds, logIntervalMs }

namespace Config

/-- The declaration of all settings, where no section may be missing. -/
def declared (reader : Deserializer) : Declaration Config where
  name := "Config"
  fields :=
    [⟨MotorSection, "esc", reader.record (MotorSection.declared reader), none⟩,
     ⟨TimingSection, "timing", reader.record (TimingSection.declared reader), none⟩,
     ⟨ChannelSection, "channels", reader.record (ChannelSection.declared reader), none⟩,
     ⟨CalibrationSection, "calibration", reader.record (CalibrationSection.declared reader), none⟩,
     ⟨BenchSection, "bench", reader.record (BenchSection.declared reader), none⟩]
  make := fun (motor, timing, channels, calibration, bench, ()) =>
    { motor, timing, channels, calibration, bench }

/-- The settings that a text describes to a reader, if they keep every rule. -/
def parseWith (reader : Deserializer) (source : String) : Except ConfigError Config :=
  match reader.table? source with
  | none => .error .malformed
  | some entries =>
    match reader.record (declared reader) (.table .header entries) with
    | .error error => .error (.data error)
    | .ok config => config.validate

/-- The settings that a text describes. -/
def parse (source : String) : Except ConfigError Config := parseWith .standard source

/-- The settings in the contents of a file. -/
def ofFile (contents : Except FileError String) : Except LinkError Config :=
  match contents with
  | .error error => .error (.file error)
  | .ok source => (parse source).mapError .config

end Config

end MotorLink
