import Mathlib.Data.Bool.Count
import Mathlib.Data.List.Perm.Basic
import MotorLink.Channel.Lease

/-! A pool hands out its least free channel and changes no other. -/

namespace MotorLink.Pool

/-- The first of all channels that lies in a range, ends included, and is free. -/
def scan? (pool : Pool) (first last : Channel) : Option Channel :=
  (List.range pool.size).find? fun channel =>
    decide (first ≤ channel ∧ channel ≤ last) && !pool.isTaken channel

/-- What the scan finds is free, and before it the range has nothing that is. -/
theorem scan?_eq_some_iff {pool : Pool} {first last channel : Nat} :
    pool.scan? first last = some channel ↔
      (first ≤ channel ∧ channel ≤ last) ∧ channel < pool.size ∧ pool.isTaken channel = false ∧
      ∀ before : Nat, first ≤ before → before < channel → pool.isTaken before = true := by
  simp only [scan?, List.find?_range_eq_some, List.mem_range, Bool.and_eq_true, decide_eq_true_eq,
    Bool.not_eq_true', Bool.and_eq_false_imp, Bool.not_eq_false']
  -- A scan goes over the whole pool, so what it passes before the range does not count.
  constructor
  · intro ⟨⟨within, free⟩, inside, earlier⟩
    exact ⟨within, inside, free, fun before above below =>
      earlier before below ⟨above, Nat.le_trans (Nat.le_of_lt below) within.2⟩⟩
  · intro ⟨within, inside, free, earlier⟩
    exact ⟨⟨within, free⟩, inside, fun before below ⟨above, _⟩ => earlier before above below⟩

/-- The scan finds nothing exactly when all channels of the range are taken. -/
theorem scan?_eq_none_iff {pool : Pool} {first last : Nat} :
    pool.scan? first last = none ↔
      ∀ channel < pool.size, first ≤ channel → channel ≤ last → pool.isTaken channel = true := by
  simp [scan?]

/-- Where a range ends within the pool, its first free channel is the one that the scan finds. -/
theorem firstFree?_eq_scan {pool : Pool} {first last greatest : Nat}
    (size : pool.size = greatest + 1) :
    pool.firstFree? first (min last greatest) = pool.scan? first last := by
  ext channel
  rw [scan?_eq_some_iff, firstFree?, List.find?_range'_eq_some, List.mem_range'_1]
  simp only [Bool.not_eq_true', Bool.not_not]
  -- A channel is not behind the cut end exactly when it is in the pool and not behind the end.
  constructor
  · intro ⟨free, ⟨above, below⟩, earlier⟩
    exact ⟨⟨above, by omega⟩, by omega, free, earlier⟩
  · intro ⟨⟨above, below⟩, inside, free, earlier⟩
    exact ⟨free, ⟨above, by omega⟩, earlier⟩

/-- A range hands out what the scan of all channels finds, and takes it. -/
theorem acquireInRange_eq_scan (pool : Pool) (first last : Nat) :
    pool.acquireInRange first last =
      match pool.scan? first last with
      | some channel => (some channel, ⟨pool.taken.set channel true⟩)
      | none => (none, pool) := by
  have missed (outside : ∀ channel < pool.size, first ≤ channel → ¬channel ≤ last) :
      pool.scan? first last = none :=
    scan?_eq_none_iff.mpr fun channel inside above below =>
      absurd below (outside channel inside above)
  unfold acquireInRange
  -- Neither an empty pool nor a range that ends before it begins has anything to find.
  split
  · next empty => rw [missed fun channel inside => by omega]
  · next greatest size =>
    dsimp only
    split
    · next reversed =>
      have reversed : min last greatest < first := reversed
      rw [missed fun channel inside above below => by omega]
    · cases found : pool.scan? first last <;> rw [firstFree?_eq_scan size, found]

/-- What is known of a channel that a pool hands out of a range, and of the pool that is left. -/
structure HandsOut (pool : Pool) (first last channel : Nat) (after : Pool) : Prop where
  above : first ≤ channel
  below : channel ≤ last
  inside : channel < pool.size
  free : pool.isTaken channel = false
  least : ∀ before : Nat, first ≤ before → before < channel → pool.isTaken before = true
  size : after.size = pool.size
  taken : ∀ other, after.isTaken other = (pool.isTaken other || decide (other = channel))
  back : after.release channel = pool

/-- A slot of the pool is read as it is. -/
theorem isTaken_of_getElem? {pool : Pool} {channel : Nat} {taken : Bool}
    (slot : pool.taken[channel]? = some taken) : pool.isTaken channel = taken := by
  rw [isTaken, List.getD_eq_getElem?_getD, slot, Option.getD_some]

/-- A channel that is handed out is the first free one of its range, and it alone changes. -/
theorem handsOut {pool after : Pool} {first last channel : Nat}
    (acquired : pool.acquireInRange first last = (some channel, after)) :
    pool.HandsOut first last channel after := by
  -- Whatever the scan finds is free, and its slot alone is set.
  rw [acquireInRange_eq_scan] at acquired
  split at acquired
  · next other found =>
    simp only [Prod.mk.injEq, Option.some.injEq] at acquired
    obtain ⟨rfl, rfl⟩ := acquired
    obtain ⟨⟨above, below⟩, inside, free, earlier⟩ := scan?_eq_some_iff.mp found
    have inside : other < pool.taken.length := inside
    have clear : pool.taken[other] = false :=
      (isTaken_of_getElem? (List.getElem?_eq_getElem inside)).symm.trans free
    refine ⟨above, below, inside, free, earlier, by simp [size], ?_, ?_⟩
    · intro channel
      simp only [isTaken, List.getD_eq_getElem?_getD, List.getElem?_set]
      by_cases same : other = channel
      · subst same
        simp [inside]
      · simp [same, Ne.symm same]
    · -- The slot that was set is cleared, and it was clear before.
      rw [release, List.set_set, ← clear, List.set_getElem_self]
  · simp at acquired

/-- Nothing is handed out exactly when every channel of the range is taken, and nothing changes. -/
theorem acquireInRange_eq_none_iff {pool after : Pool} {first last : Nat} :
    pool.acquireInRange first last = (none, after) ↔
      after = pool ∧ ∀ channel < pool.size, first ≤ channel → channel ≤ last →
        pool.isTaken channel = true := by
  rw [← scan?_eq_none_iff, acquireInRange_eq_scan]
  split
  · next found => simp [found]
  · next absent => simp [absent, eq_comm]

/-- A channel that is handed out was free and in the pool, and now it alone has become taken. -/
theorem acquireAny_eq_some {pool after : Pool} {channel : Nat}
    (acquired : pool.acquireAny = (some channel, after)) :
    channel < pool.size ∧ pool.isTaken channel = false ∧ after.size = pool.size ∧
      ∀ other, after.isTaken other = (pool.isTaken other || decide (other = channel)) := by
  have out := handsOut acquired
  exact ⟨out.inside, out.free, out.size, out.taken⟩

/-- The pool has nothing to hand out exactly when all its channels are taken. -/
theorem acquireAny_eq_none_iff {pool after : Pool} :
    pool.acquireAny = (none, after) ↔
      after = pool ∧ ∀ channel < pool.size, pool.isTaken channel = true := by
  -- The range from the first channel on leaves none out.
  rw [acquireAny, acquireInRange_eq_none_iff]
  refine and_congr_right fun _ => forall₂_congr fun channel inside => ?_
  exact ⟨fun taken => taken (Nat.zero_le _) (Nat.le_of_lt inside), fun taken _ _ => taken⟩

/-- A pool with a free channel hands one out. -/
theorem acquireAny_isSome {pool : Pool} {channel : Nat} (inside : channel < pool.size)
    (free : pool.isTaken channel = false) :
    ∃ least after, pool.acquireAny = (some least, after) := by
  rcases acquired : pool.acquireAny with ⟨_ | least, after⟩
  · -- The free channel itself would have been found.
    have taken := (acquireAny_eq_none_iff.mp acquired).2 channel inside
    rw [free] at taken
    cases taken
  · exact ⟨least, after, rfl⟩

/-- Giving a channel back keeps the number of channels. -/
@[simp] theorem size_release (pool : Pool) (channel : Channel) :
    (pool.release channel).size = pool.size := by
  simp [release, size]

/-- Giving a channel back frees it and no other. -/
theorem isTaken_release (pool : Pool) (channel other : Nat) :
    (pool.release channel).isTaken other = (pool.isTaken other && !decide (other = channel)) := by
  -- Clearing a slot outside the pool changes nothing, and there nothing was taken.
  simp only [release, isTaken, List.getD_eq_getElem?_getD, List.getElem?_set]
  by_cases same : channel = other
  · subst same
    by_cases inside : channel < pool.taken.length <;> simp [inside]
  · simp [same, Ne.symm same]

/-- Giving channels back frees these and no others. -/
theorem isTaken_foldl_release (pool : Pool) (channels : List Channel) (other : Channel) :
    (channels.foldl release pool).isTaken other =
      (pool.isTaken other && !decide (other ∈ channels)) := by
  -- Each channel that goes back leaves the pool that the rest goes back to.
  induction channels generalizing pool with
  | nil => simp
  | cons channel rest ih =>
    rw [List.foldl_cons, ih, isTaken_release]
    simp [Bool.and_assoc]

/-- A new pool has as many channels as it was made for. -/
@[simp] theorem size_ofSize (size : Nat) : (ofSize size).size = size := by
  simp [ofSize, Pool.size]

/-- In a new pool no channel is taken. -/
@[simp] theorem isTaken_ofSize (size channel : Nat) : (ofSize size).isTaken channel = false := by
  simp only [ofSize, isTaken, List.getD_eq_getElem?_getD, List.getElem?_replicate]
  split <;> rfl

/-- A pool that has nothing to hand out stays as it is. -/
theorem eq_of_acquireAny_none {pool after : Pool} (acquired : pool.acquireAny = (none, after)) :
    after = pool :=
  (acquireAny_eq_none_iff.mp acquired).1

/-- A channel that is free or not in the pool goes back without a change. -/
theorem release_of_free {pool : Pool} {channel : Nat} (free : pool.isTaken channel = false) :
    pool.release channel = pool := by
  rw [release]
  by_cases inside : channel < pool.taken.length
  · -- Its slot is clear already.
    have clear : pool.taken[channel] = false :=
      (isTaken_of_getElem? (List.getElem?_eq_getElem inside)).symm.trans free
    rw [← clear, List.set_getElem_self]
  · rw [List.set_eq_of_length_le (by omega)]

/-- Two channels may go back in either order. -/
theorem release_comm (pool : Pool) (first second : Channel) :
    (pool.release first).release second = (pool.release second).release first := by
  -- Slots of different channels are set independently.
  by_cases same : first = second
  · rw [same]
  · simp only [release, List.set_comm _ _ same]

/-- A pool lends the channels of a list: each of them once, and no others are taken. -/
structure Lends (pool : Pool) (held : List Nat) : Prop where
  nodup : held.Nodup
  taken : ∀ channel, pool.isTaken channel = true ↔ channel ∈ held

/-- A new pool lends nothing. -/
theorem lends_ofSize (size : Nat) : (ofSize size).Lends [] :=
  ⟨List.nodup_nil, by simp⟩

/-- Every pool lends its taken channels. -/
theorem lends_takenChannels (pool : Pool) : pool.Lends pool.takenChannels := by
  refine ⟨List.nodup_range.filter _, fun channel => ?_⟩
  rw [takenChannels, List.mem_filter, List.mem_range]
  refine ⟨fun taken => ⟨?_, taken⟩, And.right⟩
  -- A channel outside the pool reads as free.
  by_contra outside
  simp [isTaken, List.getD_eq_getElem?_getD,
    List.getElem?_eq_none (Nat.le_of_not_lt outside)] at taken

/-- The slots of a pool are read channel by channel. -/
theorem map_isTaken_range (pool : Pool) : (List.range pool.size).map pool.isTaken = pool.taken := by
  apply List.ext_getElem
  · simp [size]
  · intro channel _ inside
    simp [isTaken, List.getD_eq_getElem?_getD, List.getElem?_eq_getElem inside]

/-- Each channel of a pool is either free or taken. -/
theorem countFree_add_length_takenChannels (pool : Pool) :
    pool.countFree + pool.takenChannels.length = pool.size := by
  -- The taken channels are as many as the slots that are set.
  have taken : pool.takenChannels.length = pool.taken.count true := by
    rw [takenChannels, ← List.countP_eq_length_filter, ← map_isTaken_range, List.count,
      List.countP_map]
    exact List.countP_congr fun channel _ => by simp
  rw [taken, countFree, size]
  exact pool.taken.count_false_add_count_true

namespace Lends

variable {pool after : Pool} {held other : List Nat} {channel : Nat}

/-- In which order the channels are listed does not matter. -/
theorem perm (lends : pool.Lends held) (same : held.Perm other) : pool.Lends other :=
  ⟨same.nodup_iff.mp lends.nodup, fun channel => (lends.taken channel).trans same.mem_iff⟩

/-- The channels that a pool lends are its own. -/
theorem lt_size (lends : pool.Lends held) (listed : channel ∈ held) : channel < pool.size := by
  -- Only channels of the pool can be taken, and what is lent is taken.
  have taken := (pool.lends_takenChannels.taken channel).mp ((lends.taken channel).mpr listed)
  rw [takenChannels, List.mem_filter, List.mem_range] at taken
  exact taken.1

/-- The channels that a pool does not lend are free. -/
theorem countFree_add_length (lends : pool.Lends held) :
    pool.countFree + held.length = pool.size := by
  -- Two lists without repetition and with the same members are equally long.
  have same : held.Perm pool.takenChannels :=
    (List.perm_ext_iff_of_nodup lends.nodup pool.lends_takenChannels.nodup).mpr fun channel =>
      (lends.taken channel).symm.trans (pool.lends_takenChannels.taken channel)
  rw [same.length_eq, countFree_add_length_takenChannels]

/-- A channel that is handed out is lent beside those that already were. -/
theorem handsOut {first last : Nat} (lends : pool.Lends held)
    (out : pool.HandsOut first last channel after) : after.Lends (channel :: held) := by
  -- The channel was free, so it is not among those that were lent.
  refine ⟨List.nodup_cons.mpr ⟨fun listed => ?_, lends.nodup⟩, fun other => ?_⟩
  · have taken := (lends.taken channel).mpr listed
    rw [out.free] at taken
    cases taken
  · rw [out.taken, Bool.or_eq_true, decide_eq_true_eq, lends.taken, List.mem_cons, or_comm]

/-- What is handed out of a range, if anything, is lent beside what already was. -/
theorem acquireInRange (lends : pool.Lends held) (first last : Nat) :
    (pool.acquireInRange first last).2.Lends
      ((pool.acquireInRange first last).1.toList ++ held) := by
  rcases acquired : pool.acquireInRange first last with ⟨_ | channel, after⟩
  · obtain ⟨rfl, _⟩ := acquireInRange_eq_none_iff.mp acquired
    exact lends
  · exact lends.handsOut (Pool.handsOut acquired)

/-- A pool hands nothing out exactly when it lends all its channels. -/
theorem acquireAny_eq_none_iff (lends : pool.Lends held) :
    (pool.acquireAny).1 = none ↔ ∀ channel < pool.size, channel ∈ held := by
  rcases acquired : pool.acquireAny with ⟨_ | channel, after⟩
  · have full := (Pool.acquireAny_eq_none_iff.mp acquired).2
    exact iff_of_true rfl fun channel inside => (lends.taken channel).mp (full channel inside)
  · -- The channel that is handed out was none of those that are lent.
    have out := Pool.handsOut acquired
    refine iff_of_false nofun fun all => ?_
    have taken := (lends.taken channel).mpr (all channel out.inside)
    rw [out.free] at taken
    cases taken

/-- What is held in a place changes hands, while what is held elsewhere stays where it is. -/
theorem set {α : Type} {heldIn : α → List Nat} {places : List α} {index : Nat} {old new : α}
    {beside left : List Nat} (found : places[index]? = some old)
    (lends : pool.Lends (places.flatMap heldIn ++ beside))
    (lent : ∀ others, pool.Lends (heldIn old ++ (others ++ beside)) →
      after.Lends (heldIn new ++ (others ++ left))) :
    after.Lends ((places.set index new).flatMap heldIn ++ left) := by
  obtain ⟨inside, rfl⟩ := List.getElem?_eq_some_iff.mp found
  -- The place is taken to the front, changed there, and put back.
  have front (list : List α) (inside : index < list.length) :
      (list.flatMap heldIn).Perm
        (heldIn list[index] ++ (list.eraseIdx index).flatMap heldIn) :=
    (List.getElem_cons_eraseIdx_perm inside).symm.flatMap_right heldIn
  have before := (front places inside).append_right beside
  have behind := (front (places.set index new) (by simpa using inside)).append_right left
  rw [List.getElem_set_self, List.eraseIdx_set_eq, List.append_assoc] at behind
  rw [List.append_assoc] at before
  exact (lent _ (lends.perm before)).perm behind.symm

/-- A channel that goes back is not lent any more. -/
theorem release (lends : pool.Lends (channel :: held)) : (pool.release channel).Lends held := by
  obtain ⟨absent, nodup⟩ := List.nodup_cons.mp lends.nodup
  refine ⟨nodup, fun other => ?_⟩
  rw [isTaken_release, Bool.and_eq_true, lends.taken, List.mem_cons]
  -- Of the channels that stay none is the one that goes back.
  by_cases same : other = channel
  · simp [same, absent]
  · simp [same]

end Lends

/-- Handing a channel out keeps the number of channels. -/
@[simp] theorem size_acquireInRange (pool : Pool) (first last : Nat) :
    (pool.acquireInRange first last).2.size = pool.size := by
  rcases acquired : pool.acquireInRange first last with ⟨_ | channel, after⟩
  · obtain ⟨rfl, _⟩ := acquireInRange_eq_none_iff.mp acquired
    rfl
  · exact (handsOut acquired).size

/-- A channel that is handed out is free no more. -/
theorem HandsOut.countFree {pool after : Pool} {first last channel : Nat}
    (out : pool.HandsOut first last channel after) : after.countFree + 1 = pool.countFree := by
  -- Both pools are as large, and the second one lends one channel more.
  have before := pool.lends_takenChannels.countFree_add_length
  have beside := (pool.lends_takenChannels.handsOut out).countFree_add_length
  rw [out.size, List.length_cons] at beside
  omega

/-- Of two channels that are handed out in turn the second is another one. -/
theorem HandsOut.apart {pool between after : Pool} {first last low high channel other : Nat}
    (one : pool.HandsOut first last channel between)
    (next : between.HandsOut low high other after) : other ≠ channel := by
  -- The first one is taken when the second is handed out.
  rintro rfl
  have free := next.free
  rw [one.taken] at free
  simp at free

/-- A pool hands nothing out exactly when no channel is free. -/
theorem acquireAny_eq_none_iff_countFree {pool : Pool} :
    pool.acquireAny.1 = none ↔ pool.countFree = 0 := by
  rcases acquired : pool.acquireAny with ⟨_ | channel, after⟩
  · -- All channels are taken, so there are as many of them as in the pool.
    have full := (acquireAny_eq_none_iff.mp acquired).2
    have all : pool.takenChannels = List.range pool.size :=
      List.filter_eq_self.mpr fun channel listed => full channel (List.mem_range.mp listed)
    have counted := pool.countFree_add_length_takenChannels
    rw [all, List.length_range] at counted
    exact iff_of_true rfl (by omega)
  · have left := (handsOut acquired).countFree
    exact iff_of_false nofun (by omega)

end MotorLink.Pool
