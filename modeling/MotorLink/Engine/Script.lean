import MotorLink.Engine.Simulator

/-! Scripted engines: faults and captures set in advance, with or without a simulated controller. -/

namespace MotorLink

/-- The engine calls that can be refused. -/
inductive FallibleCall where
  | configureTransmit
  | configureReceive
  | transmit
  | openWindow
deriving DecidableEq, Repr

/-- The faults and captures that an engine was told to answer with. -/
structure Script where
  faults : List (FallibleCall × HardwareFault)
  captures : List Capture
  simulator : Option Simulator
deriving DecidableEq, Repr

namespace Script

/-- A script without faults or captures. -/
def initial (simulator : Option Simulator) : Script := ⟨[], [], simulator⟩

/-- Sets or clears the fault of a call. -/
def setFault (script : Script) (call : FallibleCall) (fault : Option HardwareFault) : Script :=
  let others := script.faults.filter fun entry => entry.1 != call
  { script with faults := (fault.map fun f => (call, f)).toList ++ others }

/-- Puts a capture behind those that wait. -/
def enqueue (script : Script) (capture : Capture) : Script :=
  { script with captures := script.captures ++ [capture] }

/-- A call that the script may refuse, and the simulator after it. -/
def attempt (script : Script) (call : FallibleCall) (step : Simulator → Outcome × Simulator) :
    Outcome × Script :=
  match script.faults.lookup call, script.simulator with
  | some fault, _ => (.error fault, script)
  | none, none => (.ok (), script)
  | none, some simulator =>
    let (outcome, after) := step simulator
    (outcome, { script with simulator := some after })

/-- A call that is only passed on to the simulator. -/
def forward (script : Script) (step : Simulator → Simulator) : Script :=
  { script with simulator := script.simulator.map step }

/-- The waiting captures come first, then what the simulator has. -/
def poll (script : Script) (channel : Channel) : Option Capture × Script :=
  match script.captures, script.simulator with
  | capture :: rest, _ => (some capture, { script with captures := rest })
  | [], none => (none, script)
  | [], some simulator =>
    let (capture, after) := simulator.poll channel
    (capture, { script with simulator := some after })

/-- The script as an engine. -/
def engine : Engine Script where
  configureTransmit script channel line :=
    script.attempt .configureTransmit fun sim => sim.configureTransmit channel line
  configureReceive script channel line :=
    script.attempt .configureReceive fun sim => sim.configureReceive channel line
  deconfigure script channel := script.forward fun sim => sim.deconfigure channel
  transmit script channel pulses := script.attempt .transmit fun sim => sim.transmit channel pulses
  openWindow script channel := script.attempt .openWindow fun sim => sim.openWindow channel
  poll := poll
  closeWindow script channel := script.forward fun sim => sim.closeWindow channel

end Script

end MotorLink
