import MotorLink.Channel.Pool
import MotorLink.Line.Basic
import MotorLink.Line.Capture

/-! Engines: the peripherals that put pulses on a line and capture what comes back. -/

namespace MotorLink

/-- Why an engine refuses a call. -/
inductive HardwareFault where
  | rejected (reason : String)
  | busy (channel : Channel)
  | notConfigured (channel : Channel)
deriving DecidableEq, Repr

namespace HardwareFault

/-- The wording of a refusal. -/
def message : HardwareFault → String
  | .rejected reason => "peripheral rejected request: " ++ reason
  | .busy channel => s!"channel {channel} busy"
  | .notConfigured channel => s!"channel {channel} not configured"

end HardwareFault

/-- What a call that may be refused comes to. -/
abbrev Outcome : Type := Except HardwareFault Unit

/-- Whether a call was carried out. -/
def Outcome.succeeded : Outcome → Bool
  | .ok () => true
  | .error _ => false

/-- The calls that an engine answers, each one a step of the engine's own state. -/
structure Engine (σ : Type) where
  configureTransmit : σ → Channel → Line → Outcome × σ
  configureReceive : σ → Channel → Line → Outcome × σ
  deconfigure : σ → Channel → σ
  transmit : σ → Channel → List Pulse → Outcome × σ
  openWindow : σ → Channel → Outcome × σ
  poll : σ → Channel → Option Capture × σ
  closeWindow : σ → Channel → σ

end MotorLink
