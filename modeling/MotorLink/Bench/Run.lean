import MotorLink.Bench.Ramp
import MotorLink.Config.Files
import MotorLink.Engine.Simulator
import MotorLink.Link.Call
import MotorLink.Record.Basic

/-! Bench runs: a link on a simulated controller follows the throttle ramp and tells what it hears. -/

namespace MotorLink

/-- A run in progress, with the microseconds since its start at which it acts next. -/
structure BenchRun where
  bench : BenchSection
  session : Session Simulator
  nextWrite : Nat
  nextLog : Nat
  framesSent : Nat

namespace BenchRun

/-- The name of the motor in the records of a run. -/
def label : String := "esc0"

/-- The microseconds between two looks at the throttle. -/
def writePeriod (run : BenchRun) : Nat := 1000000 / run.bench.loopHz.toNat

/-- The microseconds between two looks at the telemetry. -/
def logPeriod (run : BenchRun) : Nat := run.bench.logIntervalMs.toNat * 1000

/-- Starts the link of a run and arms it. -/
def start (config : Config) : Except LinkError BenchRun :=
  let link := Link.ofSettings (.ofConfig config)
  let hardware := Hardware.fresh (.ofSize config.channels.poolSize.toNat) Simulator.initial
  let (result, session) := (Session.mk link hardware).start Simulator.engine 0
  result.map fun () => ⟨config.bench, session.arm, 0, 0, 0⟩

/-- Follows the ramp if it is time to; steps that were missed are left out. -/
def write (run : BenchRun) (now : Nat) : BenchRun :=
  if now < run.nextWrite then run
  else
    let throttle := Ramp.throttle (.ofRatio false now 1000000)
    let (sent, session) := run.session.write Simulator.engine now throttle
    { run with
      session := { session with hardware.journal := [] }
      nextWrite := now + run.writePeriod - now % run.writePeriod
      framesSent := run.framesSent + if sent then 1 else 0 }

/-- The record of what is new, if it is time to look. -/
def log (run : BenchRun) (now : Nat) (instant : Timestamp) : Option Record × BenchRun :=
  if now < run.nextLog then (none, run)
  else
    let (telemetry, link) := run.session.link.read
    (telemetry.map fun latest => .ofTelemetry instant label latest,
      { run with session.link := link, nextLog := run.nextLog + run.logPeriod })

/-- Whether the run has lasted as long as it should. -/
def isOver (run : BenchRun) (now : Nat) : Bool :=
  let seconds := run.bench.durationSeconds.toNat
  decide (0 < seconds) && decide (seconds * 1000000 ≤ now)

/-- The microseconds until there is something to do. -/
def idleTime (run : BenchRun) (now : Nat) : Nat := min run.nextWrite run.nextLog - now

/-- Sends the motor to rest and ends the session. -/
def finish (run : BenchRun) (now : Nat) : BenchRun :=
  { run with session := (run.session.disarm Simulator.engine now).stop Simulator.engine now }

/-- What a run says of itself at its end. -/
def summary (run : BenchRun) : String :=
  let duration := run.session.link.line.frameDuration
  let simulator := run.session.hardware.device
  s!"Frames sent: {run.framesSent} ({duration} us each), " ++
    s!"received by ESC: {simulator.framesReceived}, CRC errors: {simulator.checksumErrors}"

end BenchRun

/-- A failure with everything that caused it, outermost first. -/
def failureReport : List String → String
  | [] => "Error"
  | [only] => "Error: " ++ only
  | [outer, cause] => "Error: " ++ outer ++ "\n\nCaused by:\n    " ++ cause
  | outer :: causes =>
    let numbered := causes.zipIdx.map fun (cause, index) => s!"    {index}: " ++ cause
    "Error: " ++ outer ++ "\n\nCaused by:\n" ++ "\n".intercalate numbered

end MotorLink
