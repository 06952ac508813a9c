import MotorLink.Channel.Pool

/-! Leases: what holds a channel of the pool and gives it back once. -/

namespace MotorLink

/-- A holder of at most one channel. -/
structure Lease where
  channel : Option Channel
deriving DecidableEq, Repr

namespace Lease

/-- A lease that holds nothing. -/
def empty : Lease := ⟨none⟩

/-- Whether a channel is held. -/
def isHeld (lease : Lease) : Bool := lease.channel.isSome

/-- Takes the least free channel of a range, unless a channel is held already. -/
def acquireInRange (lease : Lease) (pool : Pool) (first last : Channel) : Lease × Pool :=
  match lease.channel with
  | some _ => (lease, pool)
  | none =>
    let (channel, left) := pool.acquireInRange first last
    (⟨channel⟩, left)

/-- Takes the least free channel, unless a channel is held already. -/
def acquireAny (lease : Lease) (pool : Pool) : Lease × Pool :=
  match lease.channel with
  | some _ => (lease, pool)
  | none =>
    let (channel, left) := pool.acquireAny
    (⟨channel⟩, left)

/-- Gives the held channel back. -/
def release (lease : Lease) (pool : Pool) : Lease × Pool :=
  match lease.channel with
  | some channel => (empty, pool.release channel)
  | none => (lease, pool)

/-- Lets go of the held channel, which stays taken in the pool. -/
def disown (lease : Lease) : Option Channel × Lease := (lease.channel, empty)

end Lease

end MotorLink
