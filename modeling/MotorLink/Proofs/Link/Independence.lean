import Mathlib.Algebra.Order.BigOperators.Group.List
import MotorLink.Proofs.Link.Fleet
import MotorLink.Proofs.Link.Likeness

/-! Independence: on a pool that is large enough for all, no link notices the others. -/

namespace MotorLink

namespace Part

/-- A link with a new simulated controller. -/
def simulated (settings : LinkSettings) : Part Simulator :=
  ⟨Simulator.engine, settings, .initial⟩

/-- The channels that the link of a part takes when it starts. -/
def channelCount {σ : Type} (part : Part σ) : Nat := part.settings.channelCount

end Part

/-- The requests to one member of a fleet, made to the only member of another one. -/
def Request.own (index : Nat) (requests : List Request) : List Request :=
  (requests.filter (·.member = index)).map ({ · with member := 0 })

/-- One more request is the member's own or another one's. -/
theorem Request.own_concat (index : Nat) (requests : List Request) (request : Request) :
    own index (requests ++ [request]) =
      if request.member = index then own index requests ++ [⟨0, request.time, request.call⟩]
      else own index requests := by
  simp only [own, List.filter_append, List.map_append]
  by_cases same : request.member = index <;> simp [same]

/-- A member of a fleet but for its channels. -/
def Member.bare (member : Member Simulator) : Link × Simulator :=
  (member.link.bare, member.device.bare)

/-- A settled link holds no more channels than it takes when it starts. -/
theorem Link.Settled.length_channels_le {link : Link} (settled : link.Settled) :
    link.channels.length ≤ link.settings.channelCount := by
  -- A link that is stopped holds nothing, and one that runs holds what its settings call for.
  cases running : link.initialized with
  | false =>
    rw [settled.channels_eq_nil running]
    exact Nat.zero_le _
  | true =>
    obtain ⟨transmit, receive, transmitter, receiver, complete⟩ := settled.running running
    rw [Link.channels, transmitter, receiver, LinkSettings.channelCount, ← complete]
    cases receive <;> simp

namespace Fleet

variable {σ : Type}

/-- What a call on a member answers and has its engine send; nothing once it is discarded. -/
def account (fleet : Fleet σ) (index now : Nat) (call : Call) :
    Option (Answer × List (List Pulse)) :=
  (fleet.perform index now call).1.map fun told => (told.1, told.2.filterMap Event.pulses?)

/-- What requests to one member come to, among requests to all. -/
def accounts (index : Nat) : Fleet σ → List Request → List (Option (Answer × List (List Pulse)))
  | _, [] => []
  | fleet, request :: rest =>
    let others := accounts index (fleet.perform request.member request.time request.call).2 rest
    if request.member = index then fleet.account index request.time request.call :: others
    else others

/-- Numbers that are bounded by others place by place add up to no more. -/
theorem sum_le_of_bounded {lengths counts : List Nat}
    (bounded : ∀ place length : Nat, lengths[place]? = some length →
      length ≤ counts[place]?.getD 0) : lengths.sum ≤ counts.sum := by
  -- The first numbers are compared, and the rest by induction, also when the bounds run out first.
  induction lengths generalizing counts with
  | nil => exact Nat.zero_le _
  | cons length lengths ih =>
    have first := bounded 0 length rfl
    cases counts with
    | nil =>
      have rest := @ih [] fun place length listed => bounded (place + 1) length listed
      have first : length ≤ 0 := first
      rw [List.sum_cons]
      exact Nat.add_le_add first rest
    | cons count counts =>
      have rest := @ih counts fun place length listed => bounded (place + 1) length listed
      rw [List.sum_cons, List.sum_cons]
      exact Nat.add_le_add first rest

/-- Where one of the numbers is zero, its bound is left over. -/
theorem sum_add_le_of_bounded {lengths counts : List Nat} {index count : Nat}
    (bounded : ∀ place length : Nat, lengths[place]? = some length →
      length ≤ counts[place]?.getD 0)
    (zero : lengths[index]? = some 0) (listed : counts[index]? = some count) :
    lengths.sum + count ≤ counts.sum := by
  obtain ⟨inside, clear⟩ := List.getElem?_eq_some_iff.mp zero
  -- With its bound in the place of the zero the numbers are still bounded.
  have filled : (lengths.set index count).sum ≤ counts.sum := by
    refine sum_le_of_bounded fun place length found => ?_
    rw [List.getElem?_set] at found
    split at found
    · next same =>
      cases found
      rw [← same, listed, Option.getD_some]
    · exact bounded place length found
  have whole : lengths.sum = (lengths.set index 0).sum := by
    rw [← clear, List.set_getElem_self]
  rw [List.sum_set, if_pos inside] at filled whole
  omega

namespace Sound

variable {size : Nat} {parts : List (Part σ)} {requests : List Request} {fleet : Fleet σ}

/-- Where the pool has enough channels for all, a link that is stopped finds as many as it needs. -/
theorem channelCount_le_countFree (sound : Sound size parts requests fleet)
    (enough : (parts.map Part.channelCount).sum ≤ size) {index : Nat} {member : Member σ}
    (found : fleet.member? index = some member) (stopped : member.link.initialized = false) :
    member.link.settings.channelCount ≤ fleet.pool.countFree := by
  obtain ⟨part, listed, made⟩ := sound.settings index member found
  have counted : fleet.pool.countFree + fleet.channels.length = size := by
    rw [sound.lends.countFree_add_length, sound.size]
  rw [channels, List.length_flatMap] at counted
  -- Nobody holds more than is counted for him, and the link that is stopped holds nothing.
  have bounded (place length : Nat)
      (held : (fleet.members.map fun other => (channelsOf other).length)[place]? = some length) :
      length ≤ (parts.map Part.channelCount)[place]?.getD 0 := by
    rw [List.getElem?_map, Option.map_eq_some_iff] at held
    obtain ⟨_ | other, there, rfl⟩ := held
    · exact Nat.zero_le _
    · have someone : fleet.member? place = some other := Option.join_eq_some_iff.mpr there
      obtain ⟨its, theirs, own⟩ := sound.settings place other someone
      rw [List.getElem?_map, theirs, Option.map_some, Option.getD_some, Part.channelCount, ← own]
      exact (sound.settled place other someone).length_channels_le
  have idle : (fleet.members.map fun other => (channelsOf other).length)[index]? = some 0 := by
    rw [List.getElem?_map, place_of_member found, Option.map_some, channelsOf,
      (sound.settled index member found).channels_eq_nil stopped]
    rfl
  have wants : (parts.map Part.channelCount)[index]? = some part.channelCount := by
    rw [List.getElem?_map, listed, Option.map_some]
  have left := sum_add_le_of_bounded bounded idle wants
  rw [made]
  show part.channelCount ≤ _
  omega

end Sound

/-- Where the pool has enough channels for all, every link finds room to be called. -/
theorem Sound.roomy {size : Nat} {parts : List (Part Simulator)} {requests : List Request}
    {fleet : Fleet Simulator} (sound : Sound size parts requests fleet)
    (enough : (parts.map Part.channelCount).sum ≤ size) {index : Nat} {member : Member Simulator}
    (found : fleet.member? index = some member) :
    Roomy ⟨member.link, .fresh fleet.pool member.device⟩ :=
  ⟨sound.settled index member found, sound.channelCount_le_countFree enough found⟩

/-- Two places with the same links and controllers but for channels, or with nobody in them. -/
inductive Counterparts : Option (Member Simulator) → Option (Member Simulator) → Prop
  | gone : Counterparts none none
  | alike {one other : Member Simulator} (engine : one.engine = Simulator.engine)
    (engineToo : other.engine = Simulator.engine)
    (alike : ∀ pool poolToo, Alike ⟨one.link, .fresh pool one.device⟩
      ⟨other.link, .fresh poolToo other.device⟩) :
    Counterparts (some one) (some other)

/-- Sessions that are alike leave counterparts in the places of their members. -/
theorem Counterparts.leftBy {one other : Member Simulator} {s t : Session Simulator}
    (engine : one.engine = Simulator.engine) (engineToo : other.engine = Simulator.engine)
    (alike : Alike s t) (call : Call) :
    Counterparts (leftBy one call s) (leftBy other call t) := by
  -- A member is gone when it was discarded, and stays with its session after any other call.
  unfold Fleet.leftBy
  split
  · exact .gone
  · exact .alike engine engineToo fun _ _ => ⟨alike.link, alike.transmitter, alike.receiver,
      alike.device, rfl, alike.left, alike.right⟩

variable {size : Nat} {parts partsToo : List (Part Simulator)} {requests requestsToo : List Request}
  {joint alone : Fleet Simulator} {index place : Nat}

/-- Where there is enough room for all, a call comes to the same in two fleets. -/
theorem Counterparts.perform
    (counterparts : Counterparts (joint.member? index) (alone.member? place))
    (sound : Sound size parts requests joint) (soundToo : Sound size partsToo requestsToo alone)
    (enough : (parts.map Part.channelCount).sum ≤ size)
    (enoughToo : (partsToo.map Part.channelCount).sum ≤ size) (now : Nat) (call : Call) :
    joint.account index now call = alone.account place now call ∧
    Counterparts ((joint.perform index now call).2.member? index)
      ((alone.perform place now call).2.member? place) := by
  -- Either nobody is in both places, or two members that are alike are called, each on its pool.
  generalize found : joint.member? index = here at counterparts
  generalize foundToo : alone.member? place = there at counterparts
  cases counterparts with
  | gone =>
    have silent {fleet : Fleet Simulator} {index : Nat} (absent : fleet.member? index = none) :
        fleet.account index now call = none := by
      simp only [account, Fleet.perform, absent, Option.map_none]
    rw [silent found, silent foundToo, perform_of_none found, perform_of_none foundToo, found,
      foundToo]
    exact ⟨rfl, .gone⟩
  | @alike one other engine engineToo alike =>
    obtain ⟨answer, after⟩ := (alike joint.pool alone.pool).perform now call
      (sound.roomy enough found) (soundToo.roomy enoughToo foundToo)
    rw [perform_of_some found, perform_of_some foundToo, member?_set found, member?_set foundToo,
      if_pos rfl, if_pos rfl, engine, engineToo]
    refine ⟨?_, .leftBy engine engineToo after call⟩
    simp only [account, Fleet.perform, found, foundToo, engine, engineToo, Option.map_some]
    exact congrArg some (Prod.ext answer after.frames)

/-- New links with the same settings are counterparts. -/
theorem Counterparts.initial (settings : LinkSettings) :
    Counterparts (some ⟨Simulator.engine, .ofSettings settings, .initial⟩)
      (some ⟨Simulator.engine, .ofSettings settings, .initial⟩) :=
  .alike rfl rfl fun _ _ =>
    ⟨rfl, rfl, rfl, rfl, rfl, .of_empty rfl rfl rfl, .of_empty rfl rfl rfl⟩

/-- After one more request a fleet is as that request leaves it. -/
theorem run_concat (fleet : Fleet σ) (requests : List Request) (request : Request) :
    fleet.run (requests ++ [request]) =
      ((fleet.run requests).perform request.member request.time request.call).2 :=
  List.foldl_append ..

/-- What requests come to is told request by request. -/
theorem accounts_concat (fleet : Fleet σ) (requests : List Request) (request : Request) :
    fleet.accounts index (requests ++ [request]) =
      fleet.accounts index requests ++ (fleet.run requests).accounts index [request] := by
  -- The first request is told first, and the rest goes on from the fleet that it leaves.
  induction requests generalizing fleet with
  | nil => rfl
  | cons first rest ih =>
    have onward : fleet.run (first :: rest) =
        (fleet.perform first.member first.time first.call).2.run rest := rfl
    rw [List.cons_append, accounts, accounts, ih, onward]
    split <;> rfl

/-- A call on one member leaves the others in their places. -/
theorem member?_perform_of_ne (fleet : Fleet σ) {other : Nat} (apart : other ≠ index) (now : Nat)
    (call : Call) : (fleet.perform other now call).2.member? index = fleet.member? index := by
  -- What is put back goes into the place of the member that was called.
  rcases found : fleet.member? other with _ | member
  · rw [perform_of_none found]
  · rw [perform_of_some found, member?_set found, if_neg apart.symm]

/-- In a fleet with room for all, a link is the counterpart of one that is alone. -/
theorem counterparts_run (settings : List LinkSettings) {own : LinkSettings}
    (enough : (settings.map LinkSettings.channelCount).sum ≤ size)
    (listed : settings[index]? = some own) (requests : List Request) :
    let joint := assembled size (settings.map Part.simulated)
    let alone := assembled size [Part.simulated own]
    joint.accounts index requests = alone.accounts 0 (Request.own index requests) ∧
    Counterparts ((joint.run requests).member? index)
      ((alone.run (Request.own index requests)).member? 0) := by
  intro joint alone
  have room : ((settings.map Part.simulated).map Part.channelCount).sum ≤ size := by
    rw [List.map_map]
    exact enough
  have roomToo : ([Part.simulated own].map Part.channelCount).sum ≤ size := by
    have counted := List.mem_map_of_mem (f := LinkSettings.channelCount)
      (List.mem_of_getElem? listed)
    have fits := (List.le_sum_of_mem counted).trans enough
    simpa [Part.channelCount, Part.simulated] using fits
  -- The induction takes the last request off, which is the member's own or another one's.
  induction requests using List.reverseRecOn with
  | nil =>
    refine ⟨rfl, ?_⟩
    show Counterparts (joint.member? index) (alone.member? 0)
    rw [member?_assembled, member?_assembled, List.getElem?_map, listed]
    exact .initial own
  | append_singleton requests request ih =>
    obtain ⟨told, counterparts⟩ := ih
    rw [accounts_concat, run_concat, Request.own_concat]
    by_cases same : request.member = index
    · have sound := sound_run size (settings.map Part.simulated) requests
      have soundToo := sound_run size [Part.simulated own] (Request.own index requests)
      obtain ⟨account, after⟩ :=
        counterparts.perform sound soundToo room roomToo request.time request.call
      rw [if_pos same, accounts_concat, run_concat, told, same]
      refine ⟨congrArg _ ?_, after⟩
      simp only [accounts, same, if_true]
      rw [account]
    · rw [if_neg same, accounts, if_neg same, member?_perform_of_ne _ same]
      exact ⟨(List.append_nil _).trans told, counterparts⟩

/--
Links that share a pool with room for all of them do not notice each other.

Each of them, with a simulated controller of its own, answers its calls and has its frames sent
just as it does alone on a pool of that size, whatever the others are asked in between;
and what it knows and what its controller knows is the same but for the channels.
-/
theorem run_independent (size : Nat) (settings : List LinkSettings)
    (enough : (settings.map LinkSettings.channelCount).sum ≤ size) (requests : List Request) :
    ∀ index own, settings[index]? = some own →
      let joint := assembled size (settings.map Part.simulated)
      let alone := assembled size [Part.simulated own]
      let mine := Request.own index requests
      joint.accounts index requests = alone.accounts 0 mine ∧
      ((joint.run requests).member? index).map Member.bare =
        ((alone.run mine).member? 0).map Member.bare := by
  -- Counterparts are alike on any two pools, and alike but for channels is what is claimed.
  intro index own listed joint alone mine
  obtain ⟨told, counterparts⟩ := counterparts_run settings enough listed requests
  refine ⟨told, ?_⟩
  generalize (joint.run requests).member? index = here at counterparts
  generalize (alone.run mine).member? 0 = there at counterparts
  cases counterparts with
  | gone => rfl
  | alike _ _ alike =>
    have same := alike (.ofSize size) (.ofSize size)
    exact congrArg some (Prod.ext same.link same.device)

/-- Of two links that fill a pool of four, the second works on other channels than it has alone. -/
theorem run_independent_of_full_pool :
    let both : List LinkSettings := [.standard, .standard]
    let requests : List Request := [⟨0, 0, .start⟩, ⟨1, 5, .start⟩, ⟨1, 6, .arm true⟩,
      ⟨0, 900, .stop⟩, ⟨1, 1000, .write (.ofRatio false 1 2)⟩]
    let joint := assembled 4 (both.map Part.simulated)
    let alone := assembled 4 [Part.simulated .standard]
    let mine := Request.own 1 requests
    (both.map LinkSettings.channelCount).sum ≤ 4 ∧
      joint.accounts 1 requests = alone.accounts 0 mine ∧
      ((joint.run requests).member? 1).map (·.link.channels) = some [3, 2] ∧
      ((alone.run mine).member? 0).map (·.link.channels) = some [1, 0] := by
  intro both requests joint alone mine
  -- Two links for two channels each leave no channel of the four over.
  have enough : (both.map LinkSettings.channelCount).sum ≤ 4 := by decide
  exact ⟨enough, (run_independent 4 both enough requests 1 .standard rfl).1, by decide +kernel,
    by decide +kernel⟩

end Fleet

end MotorLink
