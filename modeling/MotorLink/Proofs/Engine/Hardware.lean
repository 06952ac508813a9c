import MotorLink.Engine.Hardware
import MotorLink.Proofs.Channel.Pool

/-! What the uses of the hardware leave of the pool and of the journal, on any engine. -/

namespace MotorLink.Hardware

variable {σ : Type} (hardware : Hardware σ)

/-- The hardware after uses that left the pool as it was and the device in some state. -/
def afterUses (device : σ) (events : List Event) : Hardware σ :=
  ⟨hardware.pool, device, hardware.journal ++ events⟩

/-- A lease that holds nothing gets what the pool hands out. -/
theorem acquire_empty {channel : Nat} {pool : Pool}
    (acquired : hardware.pool.acquireAny = (some channel, pool)) :
    hardware.acquire .empty =
      (⟨some channel⟩, { hardware with pool }.record (.acquired channel)) := by
  simp [acquire, Lease.acquireAny, Lease.empty, acquired]

/-- A lease that holds nothing still holds nothing when the pool has nothing left. -/
theorem acquire_empty_none {pool : Pool} (acquired : hardware.pool.acquireAny = (none, pool)) :
    hardware.acquire .empty = (.empty, hardware) := by
  cases Pool.eq_of_acquireAny_none acquired
  simp [acquire, Lease.acquireAny, Lease.empty, acquired]

end MotorLink.Hardware
