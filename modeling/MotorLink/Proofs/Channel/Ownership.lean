import Mathlib.Data.List.Nodup
import MotorLink.Proofs.Channel.Pool

/-! Ownership: whatever leases and callers without a lease do, no channel has two owners. -/

namespace MotorLink

/-- A pool, the leases on it, and the channels that are owned without a lease. -/
structure Loans where
  pool : Pool
  leases : List (Option Lease)
  loose : List Channel
deriving DecidableEq, Repr

/-- Something done with a pool, through one of the leases on it or without a lease. -/
inductive Deal where
  | newLease
  | acquireAny (lease : Nat)
  | acquireInRange (lease : Nat) (first last : Channel)
  | release (lease : Nat)
  | disown (lease : Nat)
  | drop (lease : Nat)
  | takeAny
  | takeInRange (first last : Channel)
  | giveBack (channel : Channel)
deriving DecidableEq, Repr

/-- What a deal answers. -/
inductive Receipt where
  | done
  | held (isHeld : Bool)
  | channel (channel : Option Channel)
deriving DecidableEq, Repr

/-- Whether a deal is one that has a lease take a channel. -/
def Deal.acquires (index : Nat) : Deal → Bool
  | .acquireAny lease | .acquireInRange lease _ _ => lease == index
  | _ => false

/-- Whether a deal is one that has a lease let go of its channel. -/
def Deal.letsGo (index : Nat) : Deal → Bool
  | .release lease | .disown lease | .drop lease => lease == index
  | _ => false

namespace Loans

/-- A new pool without leases. -/
def ofSize (size : Nat) : Loans := ⟨.ofSize size, [], []⟩

/-- The lease in a place; a lease that was dropped leaves its place empty. -/
def lease? (loans : Loans) (index : Nat) : Option Lease := (loans.leases[index]?).join

/-- Leaves something in the place of a lease, over a pool. -/
def put (loans : Loans) (index : Nat) (place : Option Lease) (pool : Pool) : Loans :=
  { loans with pool, leases := loans.leases.set index place }

/-- Something done with a lease, if it is there. -/
def onLease (loans : Loans) (index : Nat) (act : Lease → Receipt × Loans) : Receipt × Loans :=
  match loans.lease? index with
  | none => (.done, loans)
  | some lease => act lease

/-- One deal with what it answers. -/
def perform (loans : Loans) : Deal → Receipt × Loans
  | .newLease => (.done, { loans with leases := loans.leases ++ [some .empty] })
  | .acquireAny index => loans.onLease index fun lease =>
    let (holder, pool) := lease.acquireAny loans.pool
    (.held holder.isHeld, loans.put index (some holder) pool)
  | .acquireInRange index first last => loans.onLease index fun lease =>
    let (holder, pool) := lease.acquireInRange loans.pool first last
    (.held holder.isHeld, loans.put index (some holder) pool)
  | .release index => loans.onLease index fun lease =>
    let (freed, pool) := lease.release loans.pool
    (.done, loans.put index (some freed) pool)
  | .disown index => loans.onLease index fun lease =>
    let (channel, left) := lease.disown
    (.channel channel,
      { loans.put index (some left) loans.pool with loose := channel.toList ++ loans.loose })
  -- A lease that is dropped gives its channel back first.
  | .drop index => loans.onLease index fun lease =>
    (.done, loans.put index none (lease.release loans.pool).2)
  | .takeAny =>
    let (channel, pool) := loans.pool.acquireAny
    (.channel channel, { loans with pool, loose := channel.toList ++ loans.loose })
  | .takeInRange first last =>
    let (channel, pool) := loans.pool.acquireInRange first last
    (.channel channel, { loans with pool, loose := channel.toList ++ loans.loose })
  | .giveBack channel =>
    (.done, { loans with pool := loans.pool.release channel, loose := loans.loose.erase channel })

/-- What deals leave, one after the other. -/
def after (loans : Loans) (deals : List Deal) : Loans :=
  deals.foldl (fun loans deal => (loans.perform deal).2) loans

/-- Whether a deal is fair: what is given back without a lease is owned so, or is free anyway. -/
def Permits (loans : Loans) : Deal → Prop
  | .giveBack channel => channel ∈ loans.loose ∨ loans.pool.isTaken channel = false
  | _ => True

/-- Whether each of several deals is fair when its turn comes. -/
def PermitsAll (loans : Loans) : List Deal → Prop
  | [] => True
  | deal :: rest => loans.Permits deal ∧ PermitsAll (loans.perform deal).2 rest

/-- Whether a lease holds a channel. -/
def Holds (loans : Loans) (index : Nat) (channel : Channel) : Prop :=
  loans.lease? index = some ⟨some channel⟩

/-- The channel held in the place of a lease. -/
def heldIn : Option Lease → List Channel
  | none => []
  | some lease => lease.channel.toList

/-- The channels that have an owner, once for each owner. -/
def owned (loans : Loans) : List Channel := loans.leases.flatMap heldIn ++ loans.loose

/-- No channel has two owners, and a channel is taken exactly when it has one. -/
structure Exclusive (size : Nat) (loans : Loans) : Prop where
  leases : ∀ first second channel, loans.Holds first channel → loans.Holds second channel →
    first = second
  apart : ∀ index channel, loans.Holds index channel → channel ∉ loans.loose
  loose : loans.loose.Nodup
  taken : ∀ channel, loans.pool.isTaken channel = true ↔
    (∃ index, loans.Holds index channel) ∨ channel ∈ loans.loose
  free : loans.pool.countFree + loans.owned.length = size

end Loans

namespace Pool.Lends

variable {pool : Pool} {held : List Nat}

/-- A lease that takes a channel has it lent beside those that already were. -/
theorem leaseAcquireInRange {lease : Lease} (lends : pool.Lends (lease.channel.toList ++ held))
    (first last : Nat) :
    (lease.acquireInRange pool first last).2.Lends
      ((lease.acquireInRange pool first last).1.channel.toList ++ held) := by
  -- A lease that holds a channel already takes no other one.
  obtain ⟨_ | channel⟩ := lease
  · have lends : pool.Lends held := lends
    exact lends.acquireInRange first last
  · exact lends

/-- A lease that gives its channel back has it lent no more. -/
theorem leaseRelease {lease : Lease} (lends : pool.Lends (lease.channel.toList ++ held)) :
    (lease.release pool).2.Lends held := by
  obtain ⟨_ | channel⟩ := lease
  · exact lends
  · exact Lends.release lends

end Pool.Lends

namespace Lease

/-- A lease keeps the number of channels when it takes one. -/
@[simp] theorem size_acquireInRange (lease : Lease) (pool : Pool) (first last : Nat) :
    (lease.acquireInRange pool first last).2.size = pool.size := by
  obtain ⟨_ | channel⟩ := lease
  · exact pool.size_acquireInRange first last
  · rfl

/-- A lease keeps the number of channels when it gives one back. -/
@[simp] theorem size_release (lease : Lease) (pool : Pool) :
    (lease.release pool).2.size = pool.size := by
  obtain ⟨_ | channel⟩ := lease
  · rfl
  · exact pool.size_release channel

/-- A lease that has given its channel back is empty. -/
@[simp] theorem release_fst (lease : Lease) (pool : Pool) : (lease.release pool).1 = .empty := by
  obtain ⟨_ | channel⟩ := lease <;> rfl

/-- A lease that gives back frees the channel that it held, and no other. -/
theorem isTaken_release (lease : Lease) (pool : Pool) (channel : Nat) :
    (lease.release pool).2.isTaken channel = true ↔
      pool.isTaken channel = true ∧ lease.channel ≠ some channel := by
  -- An empty lease frees nothing, and holds no channel that could be excepted.
  obtain ⟨_ | held⟩ := lease
  · exact (and_iff_left nofun).symm
  · show (pool.release held).isTaken channel = true ↔ _
    rw [Pool.isTaken_release, Bool.and_eq_true]
    refine and_congr_right fun _ => ?_
    simp [@eq_comm _ channel]

end Lease

namespace Loans

variable {size : Nat} {loans : Loans} {index : Nat} {lease : Lease}

/-- The place of a lease that is there is one of the list. -/
theorem place_of_lease (found : loans.lease? index = some lease) :
    loans.leases[index]? = some (some lease) :=
  Option.join_eq_some_iff.mp found

/-- Something that is done with a lease that is there is done. -/
theorem onLease_of_some (found : loans.lease? index = some lease)
    (act : Lease → Receipt × Loans) : loans.onLease index act = act lease := by
  simp only [onLease, found]

/-- What holds where a lease is missing, and after all that may be done with one, holds anyway. -/
theorem onLease_induction {act : Lease → Receipt × Loans} {motive : Loans → Prop}
    (missing : loans.lease? index = none → motive loans)
    (done : ∀ lease, loans.lease? index = some lease → motive (act lease).2) :
    motive (loans.onLease index act).2 := by
  -- Nothing is done with a lease that is not there.
  rcases found : loans.lease? index with _ | lease
  · simpa only [onLease, found] using missing found
  · rw [onLease_of_some found]
    exact done lease found

/-- A place that was changed is found changed, and the others are found as they were. -/
theorem lease?_put (found : loans.lease? index = some lease) (place : Option Lease) (pool : Pool)
    (other : Nat) :
    (loans.put index place pool).lease? other =
      if other = index then place else loans.lease? other := by
  -- The place of a lease that is there lies in the list, so that it is really changed.
  have inside := (List.getElem?_eq_some_iff.mp (place_of_lease found)).1
  simp only [lease?, put, List.getElem?_set]
  by_cases same : index = other
  · subst same
    simp [inside]
  · simp [same, Ne.symm same]

/-- A lease that is put back where it was changes nothing. -/
theorem put_self (found : loans.lease? index = some lease) :
    loans.put index (some lease) loans.pool = loans := by
  obtain ⟨inside, there⟩ := List.getElem?_eq_some_iff.mp (place_of_lease found)
  rw [put, ← there, List.set_getElem_self]

/-- A channel is owned by a lease or without one. -/
theorem mem_owned {channel : Channel} :
    channel ∈ loans.owned ↔ (∃ index, loans.Holds index channel) ∨ channel ∈ loans.loose := by
  rw [owned, List.mem_append]
  refine or_congr_left ?_
  -- A place in the list of leases is what an index stands for.
  rw [List.mem_flatMap]
  constructor
  · rintro ⟨_ | lease, listed, held⟩
    · cases held
    · obtain ⟨index, _, there⟩ := List.getElem_of_mem listed
      refine ⟨index, ?_⟩
      obtain ⟨channel'⟩ := lease
      have same : channel' = some channel := by simpa [heldIn] using held
      rw [Holds, lease?, List.getElem?_eq_some_iff.mpr ⟨_, there⟩, same]
      rfl
  · rintro ⟨index, held⟩
    exact ⟨some ⟨some channel⟩, List.mem_of_getElem? (place_of_lease held), by simp [heldIn]⟩

/-- What a pool lends to different owners makes them its only ones. -/
theorem exclusive_of_lends (lends : loans.pool.Lends loans.owned)
    (sized : loans.pool.size = size) : loans.Exclusive size := by
  obtain ⟨heldOnce, loose, apart⟩ := List.nodup_append'.mp lends.nodup
  have listed {index : Nat} {channel : Channel} (held : loans.Holds index channel) :
      channel ∈ loans.leases.flatMap heldIn :=
    List.mem_flatMap.mpr
      ⟨_, List.mem_of_getElem? (place_of_lease held), by simp [heldIn]⟩
  refine ⟨?_, fun index channel held => apart (listed held), loose, ?_, ?_⟩
  · -- Of two places with the same channel none can come before the other.
    have ordered {before behind : Nat} {channel : Channel} (one : loans.Holds before channel)
        (other : loans.Holds behind channel) : ¬ before < behind := by
      intro less
      obtain ⟨inside, there⟩ := List.getElem?_eq_some_iff.mp (place_of_lease one)
      obtain ⟨inside', there'⟩ := List.getElem?_eq_some_iff.mp (place_of_lease other)
      have separate := List.pairwise_iff_getElem.mp (List.nodup_flatMap.mp heldOnce).2
        before behind inside inside' less
      rw [there, there'] at separate
      exact separate (List.mem_singleton_self channel) (List.mem_singleton_self channel)
    intro first second channel one other
    have upper := ordered one other
    have lower := ordered other one
    omega
  · exact fun channel => (lends.taken channel).trans mem_owned
  · rw [← sized, lends.countFree_add_length]

/-- A deal keeps the number of channels. -/
theorem size_perform (loans : Loans) (deal : Deal) :
    (loans.perform deal).2.pool.size = loans.pool.size := by
  let same : Loans → Prop := fun left => left.pool.size = loans.pool.size
  -- A deal on a lease does to the pool what the lease does to it, or nothing.
  cases deal with
  | newLease => rfl
  | acquireAny index =>
    exact onLease_induction (motive := same) (fun _ => rfl) fun lease _ =>
      lease.size_acquireInRange loans.pool 0 loans.pool.size
  | acquireInRange index first last =>
    exact onLease_induction (motive := same) (fun _ => rfl) fun lease _ =>
      lease.size_acquireInRange loans.pool first last
  | release index | drop index =>
    exact onLease_induction (motive := same) (fun _ => rfl) fun lease _ =>
      lease.size_release loans.pool
  | disown index => exact onLease_induction (motive := same) (fun _ => rfl) fun _ _ => rfl
  | takeAny => exact loans.pool.size_acquireInRange 0 loans.pool.size
  | takeInRange first last => exact loans.pool.size_acquireInRange first last
  | giveBack channel => exact loans.pool.size_release channel

/-- A fair deal leaves a pool that lends what is owned then. -/
theorem lends_perform (lends : loans.pool.Lends loans.owned) {deal : Deal}
    (permitted : loans.Permits deal) :
    (loans.perform deal).2.pool.Lends (loans.perform deal).2.owned := by
  -- What is done with a lease changes what is held in its place, beside all others.
  let sound : Loans → Prop := fun left => left.pool.Lends left.owned
  cases deal with
  | newLease => simpa [perform, owned, heldIn, Lease.empty] using lends
  | acquireAny index =>
    exact onLease_induction (motive := sound) (fun _ => lends) fun lease found =>
      lends.set (place_of_lease found) fun others lent =>
        lent.leaseAcquireInRange 0 loans.pool.size
  | acquireInRange index first last =>
    exact onLease_induction (motive := sound) (fun _ => lends) fun lease found =>
      lends.set (place_of_lease found) fun others lent => lent.leaseAcquireInRange first last
  | release index =>
    refine onLease_induction (motive := sound) (fun _ => lends) fun lease found =>
      lends.set (place_of_lease found) fun others lent => ?_
    show (lease.release loans.pool).2.Lends
      (heldIn (some (lease.release loans.pool).1) ++ (others ++ loans.loose))
    rw [Lease.release_fst]
    exact lent.leaseRelease
  | disown index =>
    -- The channel moves from the lease to those that are owned without one.
    exact onLease_induction (motive := sound) (fun _ => lends) fun lease found =>
      lends.set (place_of_lease found) fun others lent =>
        lent.perm (List.perm_append_comm_assoc lease.channel.toList others loans.loose)
  | drop index =>
    exact onLease_induction (motive := sound) (fun _ => lends) fun lease found =>
      lends.set (place_of_lease found) fun others lent => lent.leaseRelease
  | takeAny =>
    exact (lends.acquireInRange 0 loans.pool.size).perm (List.perm_append_comm_assoc ..)
  | takeInRange first last =>
    exact (lends.acquireInRange first last).perm (List.perm_append_comm_assoc ..)
  | giveBack channel =>
    show (loans.pool.release channel).Lends
      (loans.leases.flatMap heldIn ++ loans.loose.erase channel)
    by_cases loose : channel ∈ loans.loose
    · have front : loans.owned.Perm
          (channel :: (loans.leases.flatMap heldIn ++ loans.loose.erase channel)) :=
        ((List.perm_cons_erase loose).append_left _).trans List.perm_middle
      exact (lends.perm front).release
    · -- What is not owned without a lease may only be given back when it is free.
      have free := permitted.resolve_left loose
      rw [Pool.release_of_free free, List.erase_of_not_mem loose]
      exact lends

/-- A lease that holds nothing, or is not there. -/
def EmptyHanded (loans : Loans) (index : Nat) : Prop :=
  ∀ lease, loans.lease? index = some lease → lease = .empty

/-- What a deal makes of a lease: it lets go, or it stays as it is, or it had nothing before. -/
structure Follows (deal : Deal) (index : Nat) (before after : Loans) : Prop where
  letsGo : deal.letsGo index = true → after.EmptyHanded index
  stays : deal.letsGo index = false → after.lease? index = before.lease? index ∨
    before.EmptyHanded index ∧ (deal.acquires index = true ∨ after.EmptyHanded index)

/-- Where nothing changes a lease that is not there has let go already. -/
theorem Follows.same {deal : Deal} {other : Nat} (on : deal.letsGo index = true → index = other)
    (absent : loans.lease? other = none) : Follows deal index loans loans := by
  refine ⟨fun letsGo lease there => ?_, fun _ => .inl rfl⟩
  rw [on letsGo, absent] at there
  cases there

/-- A lease that takes a channel had nothing before, or stays as it is. -/
theorem Follows.taking {deal : Deal} {other : Nat} {pool : Pool} {holder : Lease}
    (found : loans.lease? other = some lease) (keeps : deal.letsGo index = false)
    (asks : index = other → deal.acquires index = true)
    (takes : holder = lease ∨ lease = .empty) :
    Follows deal index loans (loans.put other (some holder) pool) := by
  refine ⟨fun letsGo => absurd letsGo (by simp [keeps]), fun _ => ?_⟩
  rw [lease?_put found]
  -- Only the place of the lease itself changes, and there an empty lease may take a channel.
  by_cases same : index = other
  · subst same
    rw [if_pos rfl, found]
    rcases takes with rfl | rfl
    · exact .inl rfl
    · refine .inr ⟨?_, .inl (asks rfl)⟩
      rintro left there
      exact Option.some.inj (there.symm.trans found)
  · rw [if_neg same]
    exact .inl rfl

/-- A lease that lets go holds nothing then, and the others stay as they are. -/
theorem Follows.lettingGo {deal : Deal} {other : Nat} {pool : Pool} {place : Option Lease}
    (found : loans.lease? other = some lease) (asks : deal.letsGo index = true ↔ index = other)
    (emptied : ∀ left, place = some left → left = .empty) :
    Follows deal index loans (loans.put other place pool) := by
  -- A deal lets go of the lease that it names, and of no other one.
  refine ⟨fun letsGo left there => ?_, fun keeps => .inl ?_⟩
  · rw [lease?_put found, if_pos (asks.mp letsGo)] at there
    exact emptied left there
  · rw [lease?_put found, if_neg fun same => by simp [asks.mpr same] at keeps]

/-- A lease that does not hold a channel yet takes one, and one that does stays as it is. -/
theorem acquireInRange_eq_or_empty (lease : Lease) (pool : Pool) (first last : Nat) :
    (lease.acquireInRange pool first last).1 = lease ∨ lease = .empty := by
  obtain ⟨_ | channel⟩ := lease
  · exact .inr rfl
  · exact .inl rfl

/-- Each deal makes of each lease what it should. -/
theorem follows_perform (loans : Loans) (deal : Deal) (index : Nat) :
    Follows deal index loans (loans.perform deal).2 := by
  -- One case for each kind of deal; those without a lease leave every place alone.
  cases deal with
  | newLease =>
    refine ⟨nofun, fun _ => ?_⟩
    by_cases inside : index < loans.leases.length
    · exact .inl (congrArg Option.join (List.getElem?_append_left inside))
    · -- Behind the old leases there was none, and there is at most the new one.
      have beyond : loans.lease? index = none := by
        rw [lease?, List.getElem?_eq_none (by omega), Option.join_none]
      refine .inr ⟨fun lease there => ?_, .inr fun lease there => ?_⟩
      · rw [beyond] at there
        cases there
      · have listed : (loans.leases ++ [some Lease.empty])[index]? = some (some lease) :=
          place_of_lease there
        rw [List.getElem?_append_right (by omega)] at listed
        exact (Option.some.inj (List.mem_singleton.mp (List.mem_of_getElem? listed)))
  | acquireAny other | acquireInRange other first last =>
    refine onLease_induction (motive := Follows _ index loans) (fun _ => ?_) fun lease found => ?_
    · exact ⟨nofun, fun _ => .inl rfl⟩
    · exact .taking found rfl (fun same => by simp [Deal.acquires, same])
        (acquireInRange_eq_or_empty ..)
  | release other =>
    have asks : (Deal.release other).letsGo index = true ↔ index = other :=
      beq_iff_eq.trans eq_comm
    refine onLease_induction (motive := Follows _ index loans) (.same asks.mp) fun lease found =>
      .lettingGo found asks ?_
    rintro left ⟨⟩
    exact lease.release_fst loans.pool
  | disown other =>
    have asks : (Deal.disown other).letsGo index = true ↔ index = other :=
      beq_iff_eq.trans eq_comm
    refine onLease_induction (motive := Follows _ index loans) (.same asks.mp) fun lease found => ?_
    have emptied : Follows (.disown other) index loans
        (loans.put other (some .empty) loans.pool) := by
      refine .lettingGo found asks ?_
      rintro left ⟨⟩
      rfl
    exact ⟨emptied.letsGo, emptied.stays⟩
  | drop other =>
    have asks : (Deal.drop other).letsGo index = true ↔ index = other :=
      beq_iff_eq.trans eq_comm
    exact onLease_induction (motive := Follows _ index loans) (.same asks.mp) fun lease found =>
      .lettingGo found asks nofun
  | takeAny | takeInRange | giveBack => exact ⟨nofun, fun _ => .inl rfl⟩

/-- A lease keeps its channel through every deal but those that have it let go. -/
theorem holds_perform {channel : Channel} (held : loans.Holds index channel) {deal : Deal}
    (keeps : deal.letsGo index = false) : (loans.perform deal).2.Holds index channel := by
  -- The lease is what it was, or it was empty; and one that holds a channel is not.
  rcases (loans.follows_perform deal index).stays keeps with stays | ⟨empty, _⟩
  · exact stays.trans held
  · cases empty _ held

/-- A lease that holds nothing gets nothing but by taking it. -/
theorem EmptyHanded.perform (empty : loans.EmptyHanded index) {deal : Deal}
    (idle : deal.acquires index = false) : (loans.perform deal).2.EmptyHanded index := by
  have follows := loans.follows_perform deal index
  -- Either the lease lets go now, or it is what it was, or it is new; it takes nothing here.
  cases letsGo : deal.letsGo index with
  | true => exact follows.letsGo letsGo
  | false =>
    rcases follows.stays letsGo with stays | ⟨_, acquires | still⟩
    · exact fun lease there => empty lease (stays.symm.trans there)
    · rw [idle] at acquires
      cases acquires
    · exact still

/-- A lease that holds nothing frees nothing when it lets go. -/
theorem EmptyHanded.pool_perform (empty : loans.EmptyHanded index) {deal : Deal}
    (letsGo : deal.letsGo index = true) : (loans.perform deal).2.pool = loans.pool := by
  -- Whoever lets go is this very lease, and there is nothing to give back.
  cases deal with
  | release other | drop other =>
    cases beq_iff_eq.mp letsGo
    refine onLease_induction (motive := fun left => left.pool = loans.pool) (fun _ => rfl)
      fun lease found => ?_
    cases empty lease found
    rfl
  | disown other =>
    exact onLease_induction (motive := fun left => left.pool = loans.pool) (fun _ => rfl)
      fun lease found => rfl
  | newLease | acquireAny | acquireInRange | takeAny | takeInRange | giveBack => cases letsGo

/-- Through deals that have it take nothing a lease that holds nothing goes on so. -/
theorem EmptyHanded.after (empty : loans.EmptyHanded index) {deals : List Deal}
    (idle : ∀ deal ∈ deals, deal.acquires index = false) :
    (loans.after deals).EmptyHanded index := by
  -- The induction goes along the deals, so what they start from changes.
  induction deals generalizing loans with
  | nil => exact empty
  | cons deal rest ih =>
    exact ih (empty.perform (idle deal (.head _))) fun later listed =>
      idle later (List.mem_cons_of_mem _ listed)

/-- Fair deals leave a pool that lends what is owned then, and keep its size. -/
theorem lends_after {deals : List Deal} (permitted : loans.PermitsAll deals)
    (lends : loans.pool.Lends loans.owned) :
    (loans.after deals).pool.Lends (loans.after deals).owned ∧
      (loans.after deals).pool.size = loans.pool.size := by
  -- One deal after the other: each leaves a pool that the next one may start from.
  induction deals generalizing loans with
  | nil => exact ⟨lends, rfl⟩
  | cons deal rest ih =>
    obtain ⟨fair, others⟩ := permitted
    obtain ⟨left, size⟩ := ih others (lends_perform lends fair)
    exact ⟨left, size.trans (loans.size_perform deal)⟩

/--
Whatever fair deals are made with a pool and the leases on it, every channel has one owner at most.

A lease keeps its channel until it lets go, and takes no second one meanwhile.
Letting go frees that channel alone, and once: nothing more is freed before the lease takes another.
A pool refuses to hand a channel out exactly when all of them have an owner.
-/
theorem deals_exclusive (size : Nat) {deals : List Deal}
    (permitted : (ofSize size).PermitsAll deals) :
    let loans := (ofSize size).after deals
    loans.Exclusive size ∧
    (∀ index channel, loans.Holds index channel →
      loans.perform (.acquireAny index) = (.held true, loans) ∧
      (∀ first last, loans.perform (.acquireInRange index first last) = (.held true, loans)) ∧
      ∀ deal, deal.letsGo index = false → (loans.perform deal).2.Holds index channel) ∧
    (∀ index lease, loans.lease? index = some lease →
      ∀ deal, deal = .release index ∨ deal = .drop index →
        (loans.perform deal).2.EmptyHanded index ∧ ∀ channel,
          (loans.perform deal).2.pool.isTaken channel = true ↔
            loans.pool.isTaken channel = true ∧ ¬ loans.Holds index channel) ∧
    (∀ index deal later, deal.letsGo index = true →
      (∀ other ∈ later, other.acquires index = false) →
      ∀ again : Deal, again.letsGo index = true →
        let left := (loans.perform deal).2.after later
        (left.perform again).2.pool = left.pool) ∧
    ((loans.perform .takeAny).1 = .channel none ↔ ∀ channel < size, channel ∈ loans.owned) ∧
    (∀ index lease, loans.lease? index = some lease →
      ((loans.perform (.acquireAny index)).1 = .held false ↔
        lease = .empty ∧ ∀ channel < size, channel ∈ loans.owned)) := by
  intro loans
  obtain ⟨lends, sized⟩ := lends_after permitted (Pool.lends_ofSize size)
  have sized : loans.pool.size = size := sized.trans (Pool.size_ofSize size)
  have lends : loans.pool.Lends loans.owned := lends
  have vacant := lends.acquireAny_eq_none_iff
  rw [sized] at vacant
  refine ⟨exclusive_of_lends lends sized, ?_, ?_, ?_, ?_, ?_⟩
  · intro index channel held
    have kept (first last : Nat) :
        loans.perform (.acquireInRange index first last) = (.held true, loans) := by
      rw [perform, onLease_of_some held]
      exact congrArg (Prod.mk _) (put_self held)
    exact ⟨kept 0 loans.pool.size, kept, fun deal keeps => holds_perform held keeps⟩
  · intro index lease found deal frees
    have letsGo : deal.letsGo index = true := by
      rcases frees with rfl | rfl <;> exact beq_self_eq_true index
    -- Both give back what the lease holds, and only then do they differ.
    have pool : (loans.perform deal).2.pool = (lease.release loans.pool).2 := by
      rcases frees with rfl | rfl <;> rw [perform, onLease_of_some found] <;> rfl
    refine ⟨(loans.follows_perform deal index).letsGo letsGo, fun channel => ?_⟩
    rw [pool, Lease.isTaken_release, Holds, found]
    obtain ⟨held⟩ := lease
    simp
  · intro index deal later letsGo idle again asks left
    exact (((loans.follows_perform deal index).letsGo letsGo).after idle).pool_perform asks
  · show Receipt.channel loans.pool.acquireAny.1 = .channel none ↔ _
    rw [Receipt.channel.injEq, vacant]
  · intro index lease found
    rw [perform, onLease_of_some found, ← vacant]
    obtain ⟨_ | channel⟩ := lease
    · show Receipt.held (Option.isSome loans.pool.acquireAny.1) = .held false ↔ _
      simp [Lease.empty]
    · exact iff_of_false nofun fun empty => nomatch empty.1

/-- A channel that a lease gave back and someone else took stays taken when the lease is dropped. -/
theorem deals_exclusive_after_release :
    let early : List Deal := [.newLease, .takeAny, .giveBack 0, .acquireAny 0]
    let loans := (ofSize 2).after early
    let left := (loans.perform (.release 0)).2.after [.takeAny]
    (ofSize 2).PermitsAll early ∧ loans.Holds 0 0 ∧ left.loose = [0] ∧
      (left.perform (.drop 0)).2.pool.isTaken 0 = true := by
  intro early loans left
  have permitted : (ofSize 2).PermitsAll early :=
    ⟨trivial, trivial, .inl (by decide), trivial, trivial⟩
  obtain ⟨_, _, _, once, _⟩ := deals_exclusive 2 permitted
  -- The lease gave its channel back already, so dropping it has nothing left to give.
  have kept : (left.perform (.drop 0)).2.pool = left.pool :=
    once 0 (.release 0) [.takeAny] rfl (by decide) (.drop 0) rfl
  refine ⟨permitted, rfl, rfl, ?_⟩
  rw [kept]
  rfl

end Loans

end MotorLink
