/-! Clocks: microseconds since an origin, read off instants that never go back. -/

namespace MotorLink

/-- A clock that was started at an instant, counted in microseconds. -/
structure Clock where
  origin : Nat
deriving DecidableEq, Repr

namespace Clock

/-- The clock that starts now. -/
def startedAt (instant : Nat) : Clock := ⟨instant⟩

/-- The microseconds from the start to an instant. -/
def read (clock : Clock) (instant : Nat) : Nat := instant - clock.origin

/-- Whether successive readings never go back. -/
def nondecreasing : List Nat → Bool
  | first :: second :: rest => decide (first ≤ second) && nondecreasing (second :: rest)
  | _ => true

end Clock

end MotorLink
