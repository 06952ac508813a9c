import MotorLink.Link.Call

/-! Runs: calls on one session, each at a time of its own, with what every call met and left. -/

namespace MotorLink

namespace Event

/-- Whether the engine carried out what it was asked; uses that cannot be refused count as well. -/
def succeeded : Event → Bool
  | .configuredTransmit _ _ outcome | .configuredReceive _ _ outcome => outcome.succeeded
  | .transmitted _ _ outcome | .windowOpened _ outcome => outcome.succeeded
  | .acquired _ | .released _ | .deconfigured _ | .polled _ _ | .windowClosed _ => true

/-- The pulses that the engine was given to put on the line. -/
def pulses? : Event → Option (List Pulse)
  | .transmitted _ pulses _ => some pulses
  | _ => none

end Event

/-- One call of a run: when it came, what it asked, met, answered and left. -/
structure Step (σ : Type) where
  time : Nat
  call : Call
  before : Session σ
  answer : Answer
  after : Session σ

namespace Step

variable {σ : Type}

/-- The uses of the hardware during a call. -/
def events (step : Step σ) : List Event :=
  step.after.hardware.journal.drop step.before.hardware.journal.length

/-- Whether a call puts a frame on the line, told by its answer or by the session that it ends. -/
def sends (step : Step σ) : Bool :=
  match step.call, step.answer with
  -- Disarming and ending send the motor to rest without an answer of their own.
  | .arm false, _ | .stop, _ | .discard, _ => step.before.link.initialized
  | _, .sent wentOut => wentOut
  | _, _ => false

/-- Whether a call started a link that was not running. -/
def starts (step : Step σ) : Bool :=
  decide (step.call = .start) && !step.before.link.initialized && step.after.link.initialized

/-- Whether a call ended a link that was running. -/
def ends (step : Step σ) : Bool :=
  (decide (step.call = .stop) || decide (step.call = .discard)) && step.before.link.initialized

end Step

namespace Session

variable {σ : Type}

/-- One call on a session with all that came of it. -/
def step (engine : Engine σ) (time : Nat) (call : Call) (s : Session σ) : Step σ :=
  let (answer, after) := s.perform engine time call
  ⟨time, call, s, answer, after⟩

/-- The calls of a run in order, each on the session that the one before it left. -/
def steps (engine : Engine σ) : List (Nat × Call) → Session σ → List (Step σ)
  | [], _ => []
  | (time, call) :: rest, s =>
    let first := s.step engine time call
    first :: steps engine rest first.after

/-- The session that a run leaves. -/
def final (engine : Engine σ) : List (Nat × Call) → Session σ → Session σ
  | [], s => s
  | (time, call) :: rest, s => final engine rest (s.step engine time call).after

/-- The calls of a run go on from the session that the earlier ones left. -/
theorem steps_append (engine : Engine σ) (early late : List (Nat × Call)) (s : Session σ) :
    s.steps engine (early ++ late) =
      s.steps engine early ++ (s.final engine early).steps engine late := by
  induction early generalizing s with
  | nil => rfl
  | cons call rest ih => simp only [List.cons_append, steps, final, ih]

/-- The session of a link with settings that has done nothing yet, over a new pool of channels. -/
def initial (settings : LinkSettings) (poolSize : Nat) (device : σ) : Session σ :=
  ⟨.ofSettings settings, .fresh (.ofSize poolSize) device⟩

end Session

end MotorLink
