import MotorLink.Config.Error
import MotorLink.Engine.Basic
import MotorLink.Record.JsonError
import MotorLink.Reply.Decode
import MotorLink.Text.Hexadecimal

/-! Everything that can go wrong, in one type, with the wording and the cause of each failure. -/

namespace MotorLink

/-- The wording of a capture that is no reply. -/
def DecodeError.message : DecodeError → String
  | .insufficientBits collected =>
    s!"insufficient bits in capture: {collected} of {Capture.replyBits}"
  | .invalidGroup group code =>
    "invalid GCR code 0x" ++ Text.hexadecimal 2 code ++ s!" in group {group}"
  | .checksumMismatch expected received =>
    "CRC mismatch: expected 0x" ++ Text.hexadecimal 1 expected ++ ", got 0x"
      ++ Text.hexadecimal 1 received

/-- Why a file cannot be read as text. -/
inductive FileError where
  | notFound
  | isDirectory
  | notDirectory
  | nameTooLong
  | zeroByteInPath
  | notText
  | other (reason : String)
deriving DecidableEq, Repr

/-- The wording of a file that cannot be read. -/
def FileError.message : FileError → String
  | .notFound => "No such file or directory (os error 2)"
  | .isDirectory => "Is a directory (os error 21)"
  | .notDirectory => "Not a directory (os error 20)"
  | .nameTooLong => "File name too long (os error 36)"
  | .zeroByteInPath => "file name contained an unexpected NUL byte"
  | .notText => "stream did not contain valid UTF-8"
  | .other reason => reason

/-- A failure of the library. -/
inductive LinkError where
  | resourceExhausted
  | hardwareConfig (fault : HardwareFault)
  | transmit (fault : HardwareFault)
  | decode (error : DecodeError)
  | command (reason : String)
  | config (error : ConfigError)
  | file (error : FileError)
  | json (error : JsonError)
deriving DecidableEq, Repr

namespace LinkError

/-- The wording of the failure beneath another, for failures that keep what caused them. -/
def cause? : LinkError → Option String
  | .decode error => some error.message
  | .config error => some (error.message ++ "\n")
  | .file error => some error.message
  | .json error => some error.message
  | _ => none

/-- The wording of a failure, which ends in that of its cause. -/
def message : LinkError → String
  | .resourceExhausted => "No free hardware channel available"
  | .hardwareConfig fault => "Hardware configuration failed: " ++ fault.message
  | .transmit fault => "Transmit failed: " ++ fault.message
  | .decode error => "BDShot decode error: " ++ error.message
  | .command reason => "Invalid DShot command: " ++ reason
  | .config error => "Configuration error: " ++ error.message ++ "\n"
  | .file error => "I/O error: " ++ error.message
  | .json error => "JSON error: " ++ error.message

/-- The wordings of a failure and of what caused it, outermost first. -/
def chain (error : LinkError) : List String := error.message :: error.cause?.toList

end LinkError

end MotorLink
