import MotorLink.Engine.Script
import MotorLink.Link.Fleet
import MotorLink.Proofs.Link.Conduct

/-! Fleets: links that share a pool never hold the same channel, and lose none. -/

namespace MotorLink

/-- What a fleet puts together to make a member. -/
structure Part (σ : Type) where
  engine : Engine σ
  settings : LinkSettings
  device : σ

/-- A call on one member of a fleet at a time of the clock of that member. -/
structure Request where
  member : Nat
  time : Nat
  call : Call

namespace Request

variable {index : Nat} {requests : List Request}

/-- Whether a member was discarded. -/
def Discarded (index : Nat) (requests : List Request) : Prop :=
  ∃ time, ⟨index, time, .discard⟩ ∈ requests

/-- Whether a member was stopped after every start. -/
def Ended (index : Nat) (requests : List Request) : Prop :=
  ∀ early time late, requests = early ++ ⟨index, time, .start⟩ :: late →
    ∃ later, ⟨index, later, .stop⟩ ∈ late

/-- A start is not stopped yet. -/
theorem not_ended_start (requests : List Request) (index time : Nat) :
    ¬ Ended index (requests ++ [⟨index, time, .start⟩]) := by
  -- Nothing comes after the last request.
  intro ended
  obtain ⟨later, listed⟩ := ended requests time [] rfl
  cases listed

/-- What is not a stop of a member does not end it. -/
theorem Ended.of_concat {request : Request} (ended : Ended index (requests ++ [request]))
    (goesOn : request.member = index → request.call ≠ .stop) : Ended index requests := by
  -- A start among the earlier requests is followed by a stop that is not the last one.
  intro early time late split
  obtain ⟨later, listed⟩ := ended early time (late ++ [request]) (by simp [split])
  rcases List.mem_append.mp listed with listed | last
  · exact ⟨later, listed⟩
  · cases List.mem_singleton.mp last
    exact absurd rfl (goesOn rfl)

/-- One more request discards the member that it asks to be discarded. -/
theorem discarded_concat {request : Request} :
    Discarded index (requests ++ [request]) ↔
      Discarded index requests ∨ request.member = index ∧ request.call = .discard := by
  -- The request that discards is an earlier one or the last.
  constructor
  · rintro ⟨time, listed⟩
    rcases List.mem_append.mp listed with listed | last
    · exact .inl ⟨time, listed⟩
    · cases List.mem_singleton.mp last
      exact .inr ⟨rfl, rfl⟩
  · rintro (⟨time, listed⟩ | ⟨rfl, discards⟩)
    · exact ⟨time, List.mem_append_left _ listed⟩
    · exact ⟨request.time, List.mem_append_right _ (by rw [← discards]; exact .head _)⟩

end Request

namespace Fleet

variable {σ : Type}

/-- A fleet of new links over a new pool of channels. -/
def assembled (size : Nat) (parts : List (Part σ)) : Fleet σ where
  pool := .ofSize size
  members := parts.map fun part => some ⟨part.engine, .ofSettings part.settings, part.device⟩

/-- The fleet after requests in order, whichever members they are for. -/
def run (fleet : Fleet σ) (requests : List Request) : Fleet σ :=
  requests.foldl (fun fleet request =>
    (fleet.perform request.member request.time request.call).2) fleet

/-- The channels held in a place of a fleet. -/
def channelsOf : Option (Member σ) → List Channel
  | none => []
  | some member => member.link.channels

/-- The channels that the members hold, member by member. -/
def channels (fleet : Fleet σ) : List Channel := fleet.members.flatMap channelsOf

/-- What requests leave of a fleet: who is there, what they hold, and what the pool makes of it. -/
structure Sound (size : Nat) (parts : List (Part σ)) (requests : List Request)
    (fleet : Fleet σ) : Prop where
  size : fleet.pool.size = size
  lends : fleet.pool.Lends fleet.channels
  present : ∀ index, (fleet.member? index).isSome = true ↔
    index < parts.length ∧ ¬ Request.Discarded index requests
  settings : ∀ index member, fleet.member? index = some member →
    ∃ part, parts[index]? = some part ∧ member.link.settings = part.settings
  settled : ∀ index member, fleet.member? index = some member → member.link.Settled
  running : ∀ index member, fleet.member? index = some member →
    member.link.initialized = true → ¬ Request.Ended index requests

/-- In a new fleet a member is there for each part. -/
theorem member?_assembled (size : Nat) (parts : List (Part σ)) (index : Nat) :
    (assembled size parts).member? index =
      parts[index]?.map fun part => ⟨part.engine, .ofSettings part.settings, part.device⟩ := by
  rw [member?, assembled, List.getElem?_map]
  cases parts[index]? <;> rfl

/-- In a new fleet nobody holds anything. -/
theorem channels_assembled (size : Nat) (parts : List (Part σ)) :
    (assembled size parts).channels = [] := by
  -- Every place has a link that was not started yet.
  rw [channels, List.flatMap_eq_nil_iff]
  intro place listed
  obtain ⟨part, _, rfl⟩ := List.mem_map.mp listed
  exact (Link.settled_ofSettings part.settings).channels_eq_nil rfl

/-- A new fleet is sound. -/
theorem sound_assembled (size : Nat) (parts : List (Part σ)) :
    Sound size parts [] (assembled size parts) := by
  -- Whatever is said of a member follows from the part that it was made of.
  have fromPart {index : Nat} {member : Member σ}
      (found : (assembled size parts).member? index = some member) :
      ∃ part, parts[index]? = some part ∧ member.link = .ofSettings part.settings := by
    rw [member?_assembled, Option.map_eq_some_iff] at found
    obtain ⟨part, listed, rfl⟩ := found
    exact ⟨part, listed, rfl⟩
  refine ⟨Pool.size_ofSize size, ?_, fun index => ?_, ?_, ?_, ?_⟩
  · rw [channels_assembled]
    exact Pool.lends_ofSize size
  · rw [member?_assembled]
    simp [Request.Discarded]
  · intro index member found
    obtain ⟨part, listed, made⟩ := fromPart found
    exact ⟨part, listed, made ▸ rfl⟩
  · intro index member found
    obtain ⟨part, _, made⟩ := fromPart found
    exact made ▸ Link.settled_ofSettings part.settings
  · intro index member found running
    obtain ⟨part, _, made⟩ := fromPart found
    rw [made] at running
    cases running

/-- What a call leaves in the place of the member that carried it out. -/
def leftBy (member : Member σ) (call : Call) (after : Session σ) : Option (Member σ) :=
  if call = .discard then none
  else some { member with link := after.link, device := after.hardware.device }

/-- A call leaves its member with the new link, unless the member is discarded. -/
theorem leftBy_eq_some {member left : Member σ} {call : Call} {after : Session σ} :
    leftBy member call after = some left ↔ call ≠ .discard ∧
      ({ member with link := after.link, device := after.hardware.device } : Member σ) = left := by
  unfold leftBy
  by_cases discards : call = .discard
  · simp [discards]
  · simp [discards]

/-- In its place a call leaves what the link holds; a link that is discarded holds nothing. -/
theorem channelsOf_leftBy {member : Member σ} {now : Nat} {link : Link} {hardware : Hardware σ}
    {call : Call} {events : List Event} {after : Session σ}
    (conduct : Conduct now link hardware call events after) (settled : link.Settled) :
    channelsOf (leftBy member call after) = after.link.channels := by
  -- Only a member that is discarded could leave channels behind in its place.
  by_cases discards : call = .discard
  · -- A link that is running would have been started, or kept from being discarded.
    cases ran : after.link.initialized with
    | true =>
      rcases conduct.running ran with starts | ⟨_, _, keeps⟩
      · cases starts.symm.trans discards
      · exact absurd discards keeps
    | false =>
      rw [(conduct.settled settled).channels_eq_nil ran, leftBy, if_pos discards, channelsOf]
  · rw [leftBy, if_neg discards, channelsOf]

/-- Where nobody is there to carry a call out nothing changes. -/
theorem perform_of_none {fleet : Fleet σ} {index : Nat} (absent : fleet.member? index = none)
    (now : Nat) (call : Call) : (fleet.perform index now call).2 = fleet := by
  simp only [perform, absent]

/-- A member that is there carries a call out on the pool as the others left it. -/
theorem perform_of_some {fleet : Fleet σ} {index : Nat} {member : Member σ}
    (found : fleet.member? index = some member) (now : Nat) (call : Call) :
    (fleet.perform index now call).2 =
      let after := ((⟨member.link, .fresh fleet.pool member.device⟩ : Session σ).perform
        member.engine now call).2
      ⟨after.hardware.pool, fleet.members.set index (leftBy member call after)⟩ := by
  simp only [perform, found, leftBy]

/-- The place of a member that is there is one of the fleet. -/
theorem place_of_member {fleet : Fleet σ} {index : Nat} {member : Member σ}
    (found : fleet.member? index = some member) : fleet.members[index]? = some (some member) :=
  Option.join_eq_some_iff.mp found

/-- A place that is changed is found changed, and the others are found as they were. -/
theorem member?_set {fleet : Fleet σ} {index : Nat} {member : Member σ}
    (found : fleet.member? index = some member) (pool : Pool) (place : Option (Member σ))
    (other : Nat) :
    (⟨pool, fleet.members.set index place⟩ : Fleet σ).member? other =
      if other = index then place else fleet.member? other := by
  -- The place of a member that is there lies in the list, so that it is really set.
  have inside := (List.getElem?_eq_some_iff.mp (place_of_member found)).1
  simp only [member?, List.getElem?_set]
  by_cases same : index = other
  · subst same
    simp [inside]
  · simp [same, Ne.symm same]

/-- Whoever is found after a call is another member, or the one that was called, as it was left. -/
theorem member?_set_leftBy {fleet : Fleet σ} {index other : Nat} {member someone : Member σ}
    {call : Call} {after : Session σ} (found : fleet.member? index = some member)
    (there : (⟨after.hardware.pool, fleet.members.set index (leftBy member call after)⟩ :
      Fleet σ).member? other = some someone) :
    other ≠ index ∧ fleet.member? other = some someone ∨
      other = index ∧ call ≠ .discard ∧ someone.link = after.link := by
  -- A member that was discarded is not found, which leaves these two.
  rw [member?_set found] at there
  by_cases same : other = index
  · rw [if_pos same] at there
    obtain ⟨keeps, rfl⟩ := leftBy_eq_some.mp there
    exact .inr ⟨same, keeps, rfl⟩
  · rw [if_neg same] at there
    exact .inl ⟨same, there⟩

/-- A pool that lends what a member holds beside the others lends what the fleet holds after it. -/
theorem lends_set {fleet : Fleet σ} {index : Nat} {member : Member σ} {pool : Pool}
    {place : Option (Member σ)} (found : fleet.member? index = some member)
    (lends : fleet.pool.Lends fleet.channels)
    (lent : ∀ others, fleet.pool.Lends (member.link.channels ++ others) →
      pool.Lends (channelsOf place ++ others)) :
    pool.Lends (channels ⟨pool, fleet.members.set index place⟩) := by
  -- Nothing is held beside what the members hold.
  have lends : fleet.pool.Lends (fleet.members.flatMap channelsOf ++ []) := by
    rwa [List.append_nil]
  have set := lends.set (place_of_member found) fun others => lent (others ++ [])
  rwa [List.append_nil] at set

namespace Sound

variable {size : Nat} {parts : List (Part σ)} {requests : List Request} {fleet : Fleet σ}

/-- A request to nobody leaves a fleet sound. -/
theorem perform_of_none (sound : Sound size parts requests fleet) (request : Request)
    (absent : fleet.member? request.member = none) :
    Sound size parts (requests ++ [request])
      (fleet.perform request.member request.time request.call).2 := by
  rw [Fleet.perform_of_none absent]
  refine ⟨sound.size, sound.lends, fun index => ?_, sound.settings, sound.settled, ?_⟩
  · -- Whoever is discarded now is no member that was there.
    rw [sound.present, Request.discarded_concat, not_or]
    refine and_congr_right fun inside => ⟨fun kept => ⟨kept, ?_⟩, And.left⟩
    rintro ⟨rfl, _⟩
    have there := (sound.present request.member).mpr ⟨inside, kept⟩
    rw [absent] at there
    cases there
  · intro index member there running ended
    refine sound.running index member there running (ended.of_concat ?_)
    rintro rfl
    cases absent.symm.trans there

/-- A request to a member that is there leaves a fleet sound. -/
theorem perform_of_some (sound : Sound size parts requests fleet) (request : Request)
    {member : Member σ} (found : fleet.member? request.member = some member) :
    Sound size parts (requests ++ [request])
      (fleet.perform request.member request.time request.call).2 := by
  -- All is known of the call itself, and the other members are as they were.
  have before := sound.settled request.member member found
  obtain ⟨events, conduct⟩ := Session.perform_conduct member.engine request.time
    (.fresh fleet.pool member.device) before request.call
  rw [Fleet.perform_of_some found]
  generalize ((⟨member.link, .fresh fleet.pool member.device⟩ : Session σ).perform
    member.engine request.time request.call).2 = after at conduct ⊢
  refine ⟨conduct.size.trans sound.size, lends_set found sound.lends fun others lends => ?_,
    fun index => ?_, ?_, ?_, ?_⟩
  · rw [channelsOf_leftBy conduct before]
    exact conduct.lends before lends
  · rw [member?_set found, Request.discarded_concat, not_or, ← and_assoc, ← sound.present]
    by_cases same : index = request.member
    · subst same
      by_cases discards : request.call = .discard <;> simp [leftBy, discards, found]
    · simp [same, Ne.symm same]
  · intro index someone there
    rcases member?_set_leftBy found there with ⟨_, there⟩ | ⟨rfl, _, linked⟩
    · exact sound.settings index someone there
    · rw [linked, conduct.settings_line.1]
      exact sound.settings request.member member found
  · intro index someone there
    rcases member?_set_leftBy found there with ⟨_, there⟩ | ⟨_, _, linked⟩
    · exact sound.settled index someone there
    · exact linked ▸ conduct.settled before
  · intro index someone there running ended
    rcases member?_set_leftBy found there with ⟨other, there⟩ | ⟨rfl, _, linked⟩
    · exact sound.running index someone there running
        (ended.of_concat fun same => absurd same.symm other)
    · -- The member was started by this very request, or it ran before and was not stopped.
      rw [linked] at running
      rcases conduct.running running with starts | ⟨ran, keeps, _⟩
      · obtain ⟨index, now, call⟩ := request
        cases starts
        exact Request.not_ended_start requests index now ended
      · exact sound.running request.member member found ran (ended.of_concat fun _ => keeps)

/-- A request leaves a fleet sound. -/
theorem perform (sound : Sound size parts requests fleet) (request : Request) :
    Sound size parts (requests ++ [request])
      (fleet.perform request.member request.time request.call).2 := by
  rcases found : fleet.member? request.member with _ | member
  · exact sound.perform_of_none request found
  · exact sound.perform_of_some request found

/-- Where all members are discarded or ended nobody holds anything. -/
theorem channels_eq_nil (sound : Sound size parts requests fleet)
    (closed : ∀ index < parts.length,
      Request.Discarded index requests ∨ Request.Ended index requests) :
    fleet.channels = [] := by
  -- A place that is not empty has a member that is not running.
  rw [channels, List.flatMap_eq_nil_iff]
  intro place listed
  rcases place with _ | member
  · rfl
  · obtain ⟨index, inside, there⟩ := List.getElem_of_mem listed
    have found : fleet.member? index = some member := by
      rw [member?, List.getElem?_eq_getElem inside, there]
      rfl
    obtain ⟨part, kept⟩ := (sound.present index).mp (by rw [found]; rfl)
    refine (sound.settled index member found).channels_eq_nil ?_
    -- A member that is still running was not ended.
    rw [← Bool.not_eq_true]
    exact fun running => (closed index part).elim kept (sound.running index member found running)

end Sound

/-- Requests leave a new fleet sound. -/
theorem sound_run (size : Nat) (parts : List (Part σ)) (requests : List Request) :
    Sound size parts requests ((assembled size parts).run requests) := by
  -- The induction takes the last request off.
  induction requests using List.reverseRecOn with
  | nil => exact sound_assembled size parts
  | append_singleton requests request ih =>
    rw [run, List.foldl_append]
    exact ih.perform request

/--
Whatever members of a fleet are asked and their engines answer, no channel is shared or lost.

A running member, and no other, holds a channel to transmit on, and one to receive on for replies.
No channel is held twice, and the pool counts as taken those that are held.
When all members are discarded or ended all channels are free.
-/
theorem run_exclusive (size : Nat) (parts : List (Part σ)) (requests : List Request) :
    let fleet := (assembled size parts).run requests
    (∀ index, (fleet.member? index).isSome = true ↔
      index < parts.length ∧ ¬ Request.Discarded index requests) ∧
    (∀ index member, fleet.member? index = some member →
      member.link.transmitter.isHeld = member.link.initialized ∧
      ∃ part, parts[index]? = some part ∧ member.link.receiver.isHeld =
        (member.link.initialized && part.settings.bidirectional)) ∧
    fleet.channels.Nodup ∧
    (∀ channel ∈ fleet.channels, channel < size) ∧
    (∀ channel, fleet.pool.isTaken channel = true ↔ channel ∈ fleet.channels) ∧
    fleet.pool.size = size ∧
    fleet.pool.countFree + fleet.channels.length = size ∧
    ((∀ index < parts.length, Request.Discarded index requests ∨ Request.Ended index requests) →
      fleet.pool.countFree = size) := by
  intro fleet
  -- The free channels are counted as those that nobody holds.
  have sound : Sound size parts requests fleet := sound_run size parts requests
  have counted : fleet.pool.countFree + fleet.channels.length = size := by
    rw [sound.lends.countFree_add_length, sound.size]
  refine ⟨sound.present, ?_, sound.lends.nodup, ?_, sound.lends.taken, sound.size, counted, ?_⟩
  · intro index member found
    obtain ⟨part, listed, made⟩ := sound.settings index member found
    have settled := sound.settled index member found
    exact ⟨settled.transmitter, part, listed, made ▸ settled.receiver⟩
  · intro channel held
    exact (sound.lends.lt_size held).trans_eq sound.size
  · intro closed
    rw [← counted, sound.channels_eq_nil closed]
    rfl

-- Of three channels the first link needs two, so the second link is refused and leaves one free.
example :
    let part : Part Script := ⟨Script.engine, .standard, .initial none⟩
    let fleet := (assembled 3 [part, part]).run [⟨0, 0, .start⟩, ⟨1, 0, .start⟩]
    fleet.channels = [1, 0] ∧ fleet.pool.countFree = 1 := by
  decide +kernel

end Fleet

end MotorLink
