import Mathlib.Order.Bounds.Basic
import MotorLink.Proofs.Channel.Pool

/-! First fit: a range of channels gives out its lowest free one, which goes back unchanged. -/

namespace MotorLink.Pool

/-- The channels of a pool that are free. -/
def free (pool : Pool) : Set Nat := {channel | channel < pool.size ∧ pool.isTaken channel = false}

/-- A channel is free when its slot is there and clear. -/
theorem mem_free_iff {pool : Pool} {channel : Nat} :
    channel ∈ pool.free ↔ pool.taken[channel]? = some false := by
  -- A channel inside the pool has a slot, and being free says that the slot is clear.
  constructor
  · intro ⟨inside, clear⟩
    have slot : pool.taken[channel]? = some pool.taken[channel] := List.getElem?_eq_getElem inside
    rw [← isTaken_of_getElem? slot, clear] at slot
    exact slot
  · intro slot
    exact ⟨(List.getElem?_eq_some_iff.mp slot).1, isTaken_of_getElem? slot⟩

/-- What is handed out of a range is its lowest free channel. -/
theorem HandsOut.isLeast_of_range {pool left : Pool} {first last channel : Nat}
    (out : pool.HandsOut first last channel left) :
    IsLeast (pool.free ∩ Set.Icc first last) channel := by
  refine ⟨⟨⟨out.inside, out.free⟩, out.above, out.below⟩, ?_⟩
  intro other ⟨⟨_, free⟩, above, _⟩
  -- Whatever of the range lies below it is taken.
  by_contra below
  have taken := out.least other above (Nat.lt_of_not_le below)
  rw [free] at taken
  cases taken

/-- A range up to the last channel or beyond it has all that is free. -/
theorem free_inter_Icc {pool : Pool} {last : Nat} (whole : pool.size ≤ last + 1) :
    pool.free ∩ Set.Icc 0 last = pool.free := by
  apply Set.inter_eq_left.mpr
  intro channel ⟨inside, _⟩
  exact ⟨Nat.zero_le _, by omega⟩

/-- What is handed out of a whole pool is its lowest free channel. -/
theorem HandsOut.isLeast {pool left : Pool} {channel : Nat}
    (out : pool.HandsOut 0 pool.size channel left) : IsLeast pool.free channel := by
  rw [← free_inter_Icc (Nat.le_succ pool.size)]
  exact out.isLeast_of_range

/-- The channels that stay free are all but the one that was handed out. -/
theorem HandsOut.free_eq {pool left : Pool} {first last channel : Nat}
    (out : pool.HandsOut first last channel left) : left.free = pool.free \ {channel} := by
  ext other
  simp [Pool.free, out.size, out.taken, and_assoc]

/-- A range has nothing to hand out when none of its channels is free. -/
theorem fst_acquireInRange_eq_none_iff {pool : Pool} {first last : Nat} :
    (pool.acquireInRange first last).1 = none ↔ pool.free ∩ Set.Icc first last = ∅ := by
  rw [Set.eq_empty_iff_forall_notMem]
  rcases acquired : pool.acquireInRange first last with ⟨_ | channel, after⟩
  · -- All channels of the range are taken, so none of them is free.
    have full := (acquireInRange_eq_none_iff.mp acquired).2
    refine iff_of_true rfl ?_
    intro channel ⟨⟨inside, clear⟩, above, below⟩
    rw [full channel inside above below] at clear
    cases clear
  · -- The channel that is handed out was free.
    have out := handsOut acquired
    refine iff_of_false (by simp) ?_
    intro empty
    exact empty channel out.isLeast_of_range.1

/-- A range hands out its lowest free channel, whenever it has one. -/
theorem fst_acquireInRange_eq_some_iff {pool : Pool} {first last channel : Nat} :
    (pool.acquireInRange first last).1 = some channel ↔
      IsLeast (pool.free ∩ Set.Icc first last) channel := by
  rcases acquired : pool.acquireInRange first last with ⟨_ | found, after⟩
  · -- Nothing is free where nothing is handed out.
    have empty := fst_acquireInRange_eq_none_iff.mp (congrArg Prod.fst acquired)
    refine iff_of_false (by simp) ?_
    intro least
    rw [empty] at least
    exact least.1
  · -- There is no second channel that is the lowest.
    have least := (handsOut acquired).isLeast_of_range
    constructor
    · intro same
      rw [← Option.some.inj same]
      exact least
    · intro other
      rw [least.unique other]

/-- The slot of what is handed out is set, and no other slot is touched. -/
theorem snd_acquireInRange (pool : Pool) (first last : Nat) :
    (pool.acquireInRange first last).2 =
      match (pool.acquireInRange first last).1 with
      | some channel => ⟨pool.taken.set channel true⟩
      | none => pool := by
  rw [acquireInRange_eq_scan]
  cases pool.scan? first last <;> rfl

/-- What a range hands out depends on nothing but the free channels in it. -/
theorem acquireInRange_congr {pool : Pool} {first last first' last' : Nat}
    (same : pool.free ∩ Set.Icc first last = pool.free ∩ Set.Icc first' last') :
    pool.acquireInRange first last = pool.acquireInRange first' last' := by
  have found : (pool.acquireInRange first last).1 = (pool.acquireInRange first' last').1 := by
    apply Option.ext
    intro channel
    rw [fst_acquireInRange_eq_some_iff, fst_acquireInRange_eq_some_iff, same]
  -- What is left of a pool depends only on the channel that was handed out.
  apply Prod.ext found
  rw [snd_acquireInRange, snd_acquireInRange, found]

/-- A range from the first channel to the last one or beyond it is as good as the whole pool. -/
theorem acquireInRange_of_whole {pool : Pool} {beyond : Nat} (whole : pool.size ≤ beyond + 1) :
    pool.acquireInRange 0 beyond = pool.acquireAny := by
  apply acquireInRange_congr
  rw [free_inter_Icc whole, free_inter_Icc (Nat.le_succ _)]

/-- In a pool whose channels have machine words for numbers the range may go up to the greatest. -/
theorem acquireAny_eq_of_size_le {pool : Pool} (numbered : pool.size ≤ UInt64.size) :
    pool.acquireAny = pool.acquireInRange 0 (UInt64.size - 1) :=
  (acquireInRange_of_whole numbered).symm

/--
A range of channels, however it lies to the pool, gives out its lowest free one if it has any.

Then the slot of that channel is set, no other slot changes, and giving the channel back restores
the pool; a range without a free channel leaves the pool as it is.
The whole pool is the range from the first channel to the last one or to any number beyond it.
-/
theorem acquireInRange_exact (pool : Pool) (first last : Nat) :
    let offered := {channel | first ≤ channel ∧ channel ≤ last ∧
      pool.taken[channel]? = some false}
    let answer := pool.acquireInRange first last
    (∀ channel, answer.1 = some channel ↔ IsLeast offered channel) ∧
    (answer.1 = none ↔ offered = ∅) ∧
    (last < first ∨ pool.size ≤ first ∨ pool.size = 0 → answer.1 = none) ∧
    (answer.1 = none → answer.2 = pool) ∧
    (∀ channel, answer.1 = some channel →
      answer.2.taken[channel]? = some true ∧
      (∀ other ≠ channel, answer.2.taken[other]? = pool.taken[other]?) ∧
      answer.2.release channel = pool) ∧
    (∀ beyond, pool.size ≤ beyond + 1 → pool.acquireInRange 0 beyond = pool.acquireAny) := by
  intro offered answer
  have offers : pool.free ∩ Set.Icc first last = offered := by
    ext channel
    rw [Set.mem_inter_iff, mem_free_iff, Set.mem_Icc]
    exact ⟨fun ⟨clear, above, below⟩ => ⟨above, below, clear⟩,
      fun ⟨above, below, clear⟩ => ⟨clear, above, below⟩⟩
  -- The free channels of the range are the offered ones, so the least of them is handed out.
  have some_iff (channel : Nat) : answer.1 = some channel ↔ IsLeast offered channel :=
    offers ▸ fst_acquireInRange_eq_some_iff
  have none_iff : answer.1 = none ↔ offered = ∅ := offers ▸ fst_acquireInRange_eq_none_iff
  have left := snd_acquireInRange pool first last
  refine ⟨some_iff, none_iff, ?_, ?_, ?_, fun _ => acquireInRange_of_whole⟩
  · -- No number lies in such a range and in the pool.
    intro outside
    rw [none_iff, Set.eq_empty_iff_forall_notMem]
    intro channel ⟨above, below, clear⟩
    have inside : channel < pool.size := (List.getElem?_eq_some_iff.mp clear).1
    omega
  · intro absent
    change (pool.acquireInRange first last).1 = none at absent
    rw [absent] at left
    exact left
  · intro channel found
    have clear := ((some_iff channel).mp found).1.2.2
    have inside := (List.getElem?_eq_some_iff.mp clear).1
    have acquired : pool.acquireInRange first last = (some channel, answer.2) :=
      Prod.ext found rfl
    change (pool.acquireInRange first last).1 = some channel at found
    rw [found] at left
    refine ⟨?_, ?_, (handsOut acquired).back⟩
    · rw [left, List.getElem?_set_self inside]
    · intro other apart
      rw [left, List.getElem?_set_ne apart.symm]

/-- A range that reaches far beyond a pool gives out the last channel, and gets it back. -/
theorem acquireInRange_exact_of_long_range :
    let pool : Pool := ⟨[false, true, false]⟩
    pool.acquireInRange 1 100 = (some 2, ⟨[false, true, true]⟩) ∧
      IsLeast {channel | 1 ≤ channel ∧ channel ≤ 100 ∧ pool.taken[channel]? = some false} 2 ∧
      (pool.acquireInRange 1 100).2.release 2 = pool ∧
      (pool.acquireInRange 3 100).1 = none ∧ (pool.acquireInRange 3 100).2 = pool ∧
      pool.acquireInRange 0 (2 ^ 64 - 1) = pool.acquireAny := by
  intro pool
  -- Channel 1 is taken, so the range from it on starts with channel 2.
  obtain ⟨some_iff, _, _, _, exact, whole⟩ := acquireInRange_exact pool 1 100
  obtain ⟨_, _, outside, unchanged, _, _⟩ := acquireInRange_exact pool 3 100
  have found : (pool.acquireInRange 1 100).1 = some 2 := by decide
  have absent := outside (.inr (.inl (by decide)))
  exact ⟨by decide, (some_iff 2).mp found, (exact 2 found).2.2, absent, unchanged absent,
    whole (2 ^ 64 - 1) (by decide)⟩

end MotorLink.Pool
