import MotorLink.Proofs.Link.Conduct
import MotorLink.Proofs.Link.Run

/-! Turns: calls on one link, while others take and give back channels of the pool in between. -/

namespace MotorLink

/-- A call at a time of the clock, on the pool as others have left it. -/
structure Turn where
  time : Nat
  call : Call
  pool : Pool

namespace Session

variable {σ : Type} (engine : Engine σ)

/-- The session on a pool that others have changed meanwhile. -/
def onPool (s : Session σ) (pool : Pool) : Session σ :=
  { s with hardware := { s.hardware with pool } }

/-- One turn on a session with all that came of it. -/
def turn (turn : Turn) (s : Session σ) : Step σ :=
  (s.onPool turn.pool).step engine turn.time turn.call

/-- The turns of a run in order, each on the session that the one before it left. -/
def turns : List Turn → Session σ → List (Step σ)
  | [], _ => []
  | first :: rest, s =>
    let taken := s.turn engine first
    taken :: turns rest taken.after

/-- The session that turns leave. -/
def afterTurns (taken : List Turn) (s : Session σ) : Session σ :=
  taken.foldl (fun s turn => (s.turn engine turn).after) s

variable (s : Session σ)

/-- One more turn comes after all others, on the session that they left. -/
theorem turns_concat (taken : List Turn) (last : Turn) :
    s.turns engine (taken ++ [last]) =
      s.turns engine taken ++ [(s.afterTurns engine taken).turn engine last] := by
  -- The induction goes along the run, so the session that it starts from changes.
  induction taken generalizing s with
  | nil => rfl
  | cons first rest ih => exact congrArg _ (ih (s.turn engine first).after)

/-- One more turn leaves its session. -/
theorem afterTurns_concat (taken : List Turn) (last : Turn) :
    s.afterTurns engine (taken ++ [last]) =
      ((s.afterTurns engine taken).turn engine last).after := by
  rw [afterTurns, List.foldl_append]
  rfl

/-- A step of a run is the turn that was taken on the session that the earlier ones left. -/
theorem split_of_turns {taken : List Turn} {earlier later : List (Step σ)} {step : Step σ}
    (split : s.turns engine taken = earlier ++ step :: later) :
    ∃ before turn after, taken = before ++ turn :: after ∧ s.turns engine before = earlier ∧
      (s.afterTurns engine before).turn engine turn = step := by
  -- The step is either the first one or one of the run that goes on from there.
  induction taken generalizing s earlier with
  | nil => simp [turns] at split
  | cons first rest ih =>
    rw [turns] at split
    cases earlier with
    | nil =>
      obtain ⟨same, _⟩ := List.cons.inj split
      exact ⟨[], first, rest, rfl, rfl, same⟩
    | cons one earlier =>
      rw [List.cons_append] at split
      obtain ⟨rfl, goesOn⟩ := List.cons.inj split
      obtain ⟨before, turn, after, rfl, came, same⟩ := ih _ goesOn
      exact ⟨first :: before, turn, after, rfl, congrArg _ came, same⟩

/-- The steps of a run come at the times of its turns. -/
theorem map_time_turns (taken : List Turn) :
    (s.turns engine taken).map Step.time = taken.map Turn.time := by
  induction taken generalizing s with
  | nil => rfl
  | cons first rest ih => exact congrArg _ (ih (s.turn engine first).after)

/-- What a turn comes to on a settled link. -/
theorem turn_conduct (settled : s.link.Settled) (turn : Turn) :
    Conduct turn.time s.link { s.hardware with pool := turn.pool } turn.call
      (s.turn engine turn).events (s.turn engine turn).after := by
  obtain ⟨events, conduct⟩ := perform_conduct engine turn.time
    { s.hardware with pool := turn.pool } settled turn.call
  -- The uses of the hardware are what the journal has grown by.
  have used : (s.turn engine turn).events = events := by
    have journal := conduct.journal
    exact (congrArg (List.drop s.hardware.journal.length) journal).trans (List.drop_left ..)
  rw [used]
  exact conduct

variable (settings : LinkSettings) (pool : Pool) (device : σ)

/-- What is so of a new link, and stays so through every call, is so after all turns. -/
theorem turns_induction (holds : List (Step σ) → Link → Prop)
    (begun : holds [] (.ofSettings settings))
    (goesOn : ∀ earlier step hardware, step.before.link.Settled → step.before.link.MadeOf settings →
      Conduct step.time step.before.link hardware step.call step.events step.after →
      holds earlier step.before.link → holds (earlier ++ [step]) step.after.link)
    (taken : List Turn) :
    let first : Session σ := ⟨.ofSettings settings, .fresh pool device⟩
    (first.afterTurns engine taken).link.Settled ∧
      (first.afterTurns engine taken).link.MadeOf settings ∧
      holds (first.turns engine taken) (first.afterTurns engine taken).link := by
  intro first
  -- The induction takes the last turn off.
  induction taken using List.reverseRecOn with
  | nil => exact ⟨Link.settled_ofSettings settings, ⟨rfl, rfl, rfl⟩, begun⟩
  | append_singleton taken last ih =>
    obtain ⟨settled, made, held⟩ := ih
    have conduct := turn_conduct engine (first.afterTurns engine taken) settled last
    rw [turns_concat, afterTurns_concat]
    exact ⟨conduct.settled settled, conduct.madeOf made,
      goesOn _ _ _ settled made conduct held⟩

/-- After all turns a link is settled and has kept what it was made with. -/
theorem settled_afterTurns (taken : List Turn) :
    let first : Session σ := ⟨.ofSettings settings, .fresh pool device⟩
    (first.afterTurns engine taken).link.Settled ∧
      (first.afterTurns engine taken).link.MadeOf settings := by
  intro first
  obtain ⟨settled, made, _⟩ := turns_induction engine settings pool device (fun _ _ => True) trivial
    (fun _ _ _ _ _ _ _ => trivial) taken
  exact ⟨settled, made⟩

end Session

end MotorLink
