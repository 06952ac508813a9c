import MotorLink.Channel.Lease
import MotorLink.Engine.Basic

/-! The hardware that a link works with: the channel pool, its engine and a journal of their use. -/

namespace MotorLink

/-- One use of the pool or of the engine, with what came of it. -/
inductive Event where
  | acquired (channel : Channel)
  | released (channel : Channel)
  | configuredTransmit (channel : Channel) (line : Line) (outcome : Outcome)
  | configuredReceive (channel : Channel) (line : Line) (outcome : Outcome)
  | deconfigured (channel : Channel)
  | transmitted (channel : Channel) (pulses : List Pulse) (outcome : Outcome)
  | windowOpened (channel : Channel) (outcome : Outcome)
  | polled (channel : Channel) (capture : Option Capture)
  | windowClosed (channel : Channel)

/-- The pool, the device behind an engine, and what was done with them, the latest last. -/
structure Hardware (σ : Type) where
  pool : Pool
  device : σ
  journal : List Event

namespace Hardware

variable {σ : Type}

/-- Hardware that has not been used. -/
def fresh (pool : Pool) (device : σ) : Hardware σ := ⟨pool, device, []⟩

/-- Adds an event to the journal. -/
def record (hardware : Hardware σ) (event : Event) : Hardware σ :=
  { hardware with journal := hardware.journal ++ [event] }

/-- Takes the least free channel for a lease that holds none. -/
def acquire (hardware : Hardware σ) (lease : Lease) : Lease × Hardware σ :=
  let (held, pool) := lease.acquireAny hardware.pool
  let used := { hardware with pool }
  match lease.channel, held.channel with
  | none, some channel => (held, used.record (.acquired channel))
  | _, _ => (held, used)

/-- Gives back the channel of a lease. -/
def release (hardware : Hardware σ) (lease : Lease) : Lease × Hardware σ :=
  let (freed, pool) := lease.release hardware.pool
  let used := { hardware with pool }
  match lease.channel with
  | some channel => (freed, used.record (.released channel))
  | none => (freed, used)

/-- Sets a channel up to transmit. -/
def configureTransmit (hardware : Hardware σ) (engine : Engine σ) (channel : Channel) (line : Line) :
    Outcome × Hardware σ :=
  let (outcome, device) := engine.configureTransmit hardware.device channel line
  (outcome, { hardware with device }.record (.configuredTransmit channel line outcome))

/-- Sets a channel up to receive. -/
def configureReceive (hardware : Hardware σ) (engine : Engine σ) (channel : Channel) (line : Line) :
    Outcome × Hardware σ :=
  let (outcome, device) := engine.configureReceive hardware.device channel line
  (outcome, { hardware with device }.record (.configuredReceive channel line outcome))

/-- Undoes the set-up of a channel. -/
def deconfigure (hardware : Hardware σ) (engine : Engine σ) (channel : Channel) : Hardware σ :=
  { hardware with device := engine.deconfigure hardware.device channel }.record (.deconfigured channel)

/-- Puts pulses on the line of a channel. -/
def transmit (hardware : Hardware σ) (engine : Engine σ) (channel : Channel) (pulses : List Pulse) :
    Outcome × Hardware σ :=
  let (outcome, device) := engine.transmit hardware.device channel pulses
  (outcome, { hardware with device }.record (.transmitted channel pulses outcome))

/-- Starts listening on a channel. -/
def openWindow (hardware : Hardware σ) (engine : Engine σ) (channel : Channel) :
    Outcome × Hardware σ :=
  let (outcome, device) := engine.openWindow hardware.device channel
  (outcome, { hardware with device }.record (.windowOpened channel outcome))

/-- Asks for what was captured on a channel. -/
def poll (hardware : Hardware σ) (engine : Engine σ) (channel : Channel) :
    Option Capture × Hardware σ :=
  let (capture, device) := engine.poll hardware.device channel
  (capture, { hardware with device }.record (.polled channel capture))

/-- Stops listening on a channel. -/
def closeWindow (hardware : Hardware σ) (engine : Engine σ) (channel : Channel) : Hardware σ :=
  { hardware with device := engine.closeWindow hardware.device channel }.record (.windowClosed channel)

end Hardware

end MotorLink
