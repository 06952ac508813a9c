/-! The pool of numbered hardware channels that links share. -/

namespace MotorLink

/-- The number of a hardware channel. -/
abbrev Channel : Type := Nat

/-- For each channel, whether someone has taken it. -/
structure Pool where
  taken : List Bool
deriving DecidableEq, Repr

namespace Pool

/-- A pool of free channels. -/
def ofSize (size : Nat) : Pool := ⟨List.replicate size false⟩

/-- The number of channels, free or taken. -/
def size (pool : Pool) : Nat := pool.taken.length

/-- Whether a channel is in the pool and taken. -/
def isTaken (pool : Pool) (channel : Channel) : Bool := pool.taken.getD channel false

/-- The number of free channels. -/
def countFree (pool : Pool) : Nat := pool.taken.count false

/-- The taken channels in order. -/
def takenChannels (pool : Pool) : List Channel := (List.range pool.size).filter pool.isTaken

/-- The first free channel of a range, ends included. -/
def firstFree? (pool : Pool) (first last : Channel) : Option Channel :=
  (List.range' first (last + 1 - first)).find? fun channel => !pool.isTaken channel

/-- Takes the least free channel of a range, ends included; the range is cut where the pool ends. -/
def acquireInRange (pool : Pool) (first last : Channel) : Option Channel × Pool :=
  match pool.size with
  | 0 => (none, pool)
  | greatest + 1 =>
    let last := min last greatest
    if last < first then (none, pool)
    else
      match pool.firstFree? first last with
      | some channel => (some channel, ⟨pool.taken.set channel true⟩)
      | none => (none, pool)

/-- Takes the least free channel, from the range up to a number that no channel of the pool has. -/
def acquireAny (pool : Pool) : Option Channel × Pool := pool.acquireInRange 0 pool.size

/-- Frees a channel; one that is free or not in the pool stays as it is. -/
def release (pool : Pool) (channel : Channel) : Pool := ⟨pool.taken.set channel false⟩

end Pool

end MotorLink
