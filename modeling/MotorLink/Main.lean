import MotorLink.Bench.Run
import MotorLink.Link.Clock
import Std.Time.DateTime.Timestamp

/-! The command line: a bench run with the settings of a file, its records on standard output. -/

namespace MotorLink

/-- The bytes of a file, or why they cannot be read. -/
def readContents (path : String) : IO (Except FileError ByteArray) := do
  try
    return .ok (← IO.FS.readBinFile path)
  catch
    | .noFileOrDirectory .. => return .error .notFound
    | .inappropriateType _ 20 _ => return .error .notDirectory
    | .inappropriateType .. => return .error .isDirectory
    | .invalidArgument _ 36 _ => return .error .nameTooLong
    | error => return .error (.other error.toString)

/-- The present instant in universal time. -/
def presentInstant : IO Timestamp := do
  let instant ← Std.Time.Timestamp.now
  return ⟨instant.val.second.val, instant.val.nano.val.toNat⟩

/-- The microseconds since a clock was started. -/
def elapsed (clock : Clock) : IO Nat := do
  return clock.read ((← IO.monoNanosNow) / 1000)

/-- Carries a run on until it is over, or until there is a record without a line. -/
partial def continueRun (clock : Clock) (run : BenchRun) : IO (Except LinkError BenchRun) := do
  let now ← elapsed clock
  if run.isOver now then return .ok run
  let (record, run) := (run.write now).log now (← presentInstant)
  if let some record := record then
    match record.lineWith .standard with
    | .error error => return .error error
    | .ok line =>
      IO.print line
      (← IO.getStdout).flush
  IO.sleep (UInt32.ofNat (run.idleTime now / 1000))
  continueRun clock run

/-- Runs the bench with some settings. -/
def runBench (config : Config) : IO UInt32 := do
  match BenchRun.start config with
  | .error error =>
    IO.eprintln (failureReport ("starting DShot link" :: error.chain))
    return 1
  | .ok run =>
    let clock := Clock.startedAt ((← IO.monoNanosNow) / 1000)
    match ← continueRun clock run with
    | .error error =>
      IO.eprintln (failureReport error.chain)
      return 1
    | .ok run =>
      IO.eprintln (run.finish (← elapsed clock)).summary
      return 0

end MotorLink

open MotorLink in
/-- Reads the settings that the command line names and runs the bench. -/
def main (arguments : List String) : IO UInt32 := do
  let found ← readContents Config.defaultPath
  let defaultExists := match found with
    | .error .notFound => false
    | _ => true
  let path := Config.pathToLoad arguments.head? defaultExists
  let contents ← readContents (path.getD Config.defaultPath)
  match Config.forRun path fun _ => contents with
  | .ok config => runBench config
  | .error error =>
    IO.eprintln (failureReport (error.message :: error.cause.chain))
    return 1
