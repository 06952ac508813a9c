import Mathlib.Data.List.DropRight
import MotorLink.Proofs.Link.Telemetry
import MotorLink.Proofs.Link.Turns
import MotorLink.Proofs.Reply.Decode

/-! Recall: telemetry says what a link last heard of each quantity, and is handed out once. -/

namespace MotorLink

/-- The pole pairs that a call sets, if it sets them. -/
def Call.polePairs? : Call → Option UInt8
  | .setPolePairs polePairs => some polePairs
  | _ => none

namespace Link

/-- Of all calls that are heeded only a look changes the cache. -/
theorem cache_heed (link : Link) {call : Call} (other : call ≠ .read) :
    (link.heed call).cache = link.cache := by
  -- A throttle and arming change the state at most, which is no part of the cache.
  cases call with
  | read => exact absurd rfl other
  | write =>
    rw [heed]
    split <;> rfl
  | arm on =>
    cases on with
    | true =>
      rw [heed]
      split <;> rfl
    | false => rfl
  | start | stop | special | command | direction | setRate | setPolePairs | discard => rfl

/-- A link that heeds a call has the pole pairs that the call sets, and else keeps its own. -/
theorem polePairs_heed (link : Link) (call : Call) :
    (link.heed call).polePairs = call.polePairs?.elim link.polePairs effectivePolePairs := by
  -- Only the call that sets the pole pairs names them.
  cases call with
  | write =>
    rw [heed]
    split <;> rfl
  | arm on =>
    cases on with
    | true =>
      rw [heed]
      split <;> rfl
    | false => rfl
  | start | stop | special | command | direction | setRate | setPolePairs | read | discard => rfl

/-- Links that differ in their pace alone learn the same. -/
theorem Paced.cache_hear {first second : Link} (paced : first.Paced second)
    (events : List Event) : (first.hear events).cache = (second.hear events).cache := by
  simp only [hear, paced.line, paced.settings, paced.polePairs, paced.cache]

end Link

/-- A reading that the hardware brought says a byte unless it is a speed. -/
theorem Event.value_lt_of_reading? {event : Event} {bitTicks : Nat} {reading : Reading}
    (read : event.reading? bitTicks = some reading) (extended : reading.kind ≠ .erpm) :
    reading.value < 256 := by
  -- Only a poll that finds a capture brings a reading.
  unfold reading? at read
  split at read
  · exact Reading.value_lt_of_ofCapture? read extended
  · cases read

namespace Conduct

variable {σ : Type} {now : Nat} {link : Link} {hardware : Hardware σ} {call : Call}
  {events : List Event} {after : Session σ}

/-- A link that is sent for differs from the one that was asked in its pace alone. -/
theorem paced_ahead (sender : call = .arm false ∨
    call.isGated = true ∧ link.isReady = true ∧ link.nextDue ≤ now) :
    (link.ahead now call).Paced link := by
  -- Disarming is not gated, but it changes no more than a command does.
  rcases sender with rfl | ⟨gated, _⟩
  · exact ⟨⟨rfl, rfl, rfl, rfl⟩, rfl, rfl, rfl⟩
  · exact (link.ahead_of_isGated now gated).1

/-- A look takes the cache, an end empties it, and after any other call it has what was heard. -/
theorem cache_cases (conduct : Conduct now link hardware call events after) :
    (call = .read ∧ events = [] ∧ after.link.cache = link.cache.take.2) ∨
    ((call = .stop ∨ call = .discard) ∧ link.initialized = true ∧ after.link.cache = .empty) ∨
    (call ≠ .read ∧ ((call = .stop ∨ call = .discard) → link.initialized = false) ∧
      after.link.cache = (link.hear events).cache) := by
  -- Where nothing was heard, the cache is that of the link that heeds the call.
  cases conduct with
  | spared spares _ _ _ _ heeds =>
    have cache := congrArg Link.cache heeds
    dsimp only
    rw [cache, Link.hear_of_silent rfl]
    cases call with
    | read => exact .inl ⟨rfl, rfl, rfl⟩
    | stop | discard => exact .inr (.inr ⟨nofun, fun _ => spares, rfl⟩)
    | start | arm | write | special | command | direction | setRate | setPolePairs =>
      exact .inr (.inr ⟨nofun, nofun, link.cache_heed nofun⟩)
  | refused _ refusal =>
    rw [Link.hear_of_silent (refusal.quiet.2 _)]
    exact .inr (.inr ⟨nofun, nofun, rfl⟩)
  | started =>
    rw [Link.hear_of_silent ((setUpUses_quiet ..).2 _)]
    exact .inr (.inr ⟨nofun, nofun, rfl⟩)
  | sent _ sender _ _ _ _ _ _ _ heard =>
    refine .inr (.inr ⟨?_, ?_, ?_⟩)
    · rintro rfl
      simp [Call.isGated] at sender
    · rintro (rfl | rfl) <;> simp [Call.isGated] at sender
    · exact (congrArg Link.cache heard).trans ((paced_ahead sender).cache_hear _)
  | ended ends running => exact .inr (.inl ⟨ends, running, rfl⟩)

/-- A link has the pole pairs that a call sets, and keeps its own through every other call. -/
theorem polePairs_eq (conduct : Conduct now link hardware call events after) :
    after.link.polePairs = call.polePairs?.elim link.polePairs Link.effectivePolePairs := by
  -- No start, end or frame touches the pole pairs.
  cases conduct with
  | spared _ _ _ _ _ heeds => exact heeds ▸ link.polePairs_heed call
  | sent _ _ _ _ _ _ _ _ _ heard =>
    obtain ⟨_, ahead⟩ := link.ahead_eq now call
    rw [heard, ahead]
    exact link.polePairs_heed call
  | refused | started => rfl
  | ended ends => rcases ends with rfl | rfl <;> rfl

/-- A request that was delivered is listened for, as far as the link has a channel to do so. -/
theorem listens (conduct : Conduct now link hardware call events after)
    {settings : LinkSettings} (made : link.MadeOf settings) {transmit : Channel}
    {value : BitVec 11}
    (asked : .transmitted transmit (Order.pulses ⟨value, true⟩ link.line) (.ok ()) ∈ events) :
    ∃ frame more, events = frame :: more ∧ Listens link.receiver.channel more := by
  -- Uses that hand no frame to the engine deliver no request.
  have silent {uses : List Event} (none : uses.filterMap Event.pulses? = []) :
      .transmitted transmit (Order.pulses ⟨value, true⟩ link.line) (.ok ()) ∉ uses := by
    intro listed
    cases List.filterMap_eq_nil_iff.mp none _ listed
  rw [made.line] at asked silent
  cases conduct with
  | spared => cases asked
  | refused _ refusal => exact absurd asked (silent refusal.quiet.1)
  | started => exact absurd asked (silent (setUpUses_quiet ..).1)
  | sent _ _ _ followUp =>
    rcases List.mem_cons.mp asked with same | later
    · rw [made.line] at same
      injection same with _ pulses outcome
      subst outcome
      -- The pulses tell the whole order, so it is a request.
      obtain rfl := Order.eq_of_pulses pulses
      cases followUp with
      | silent unheard => exact absurd rfl (unheard rfl)
      | listening _ _ listens => exact ⟨_, _, rfl, listens⟩
    · exact absurd later (silent followUp.pulses_eq_nil)
  | ended _ _ _ _ _ _ rests =>
    rcases List.mem_cons.mp asked with same | later
    · rw [made.line, rests] at same
      injection same with _ pulses _
      -- Rest asks for nothing.
      cases Order.eq_of_pulses pulses
    · exact absurd later (silent (giveUpUses_quiet ..).1)

end Conduct

namespace Step

variable {σ : Type}

/-- A call is a look at the cache, or an end, or what was heard in it goes into the cache. -/
theorem cache_cases (step : Step σ) {hardware : Hardware σ}
    (conduct : Conduct step.time step.before.link hardware step.call step.events step.after) :
    (step.call = .read ∧ step.ends = false ∧ step.events = [] ∧
      step.after.link.cache = step.before.link.cache.take.2) ∨
    (step.ends = true ∧ step.after.link.cache = .empty) ∨
    (step.call ≠ .read ∧ step.ends = false ∧
      step.after.link.cache = (step.before.link.hear step.events).cache) := by
  -- The same three cases, told by the step.
  rcases conduct.cache_cases with ⟨looks, silent, cache⟩ | ⟨stops, running, cache⟩ |
    ⟨other, stopped, cache⟩
  · exact .inl ⟨looks, by simp [ends, looks], silent, cache⟩
  · exact .inr (.inl ⟨by simp [ends, stops, running], cache⟩)
  · refine .inr (.inr ⟨other, ?_, cache⟩)
    rw [ends, Bool.and_eq_false_imp]
    exact fun stops => stopped (by simpa using stops)

/-- The pole pairs that were last set, or those of the settings; zero stands for the default. -/
def polePairsOf (settings : LinkSettings) (earlier : List (Step σ)) : UInt8 :=
  let given := (earlier.filterMap (·.call.polePairs?)).getLast?.getD settings.polePairs
  if given = 0 then 7 else given

/-- There are always pole pairs to reckon with. -/
theorem polePairsOf_ne_zero (settings : LinkSettings) (earlier : List (Step σ)) :
    polePairsOf settings earlier ≠ 0 := by
  unfold polePairsOf
  dsimp only
  split
  · decide
  · assumption

/-- One more call sets the pole pairs, or leaves them as they were. -/
theorem polePairsOf_concat (settings : LinkSettings) (earlier : List (Step σ)) (step : Step σ) :
    polePairsOf settings (earlier ++ [step]) =
      step.call.polePairs?.elim (polePairsOf settings earlier) Link.effectivePolePairs := by
  -- A call without pole pairs is not among those that the list is made of.
  cases given : step.call.polePairs? <;>
    simp [polePairsOf, List.filterMap_append, given, Link.effectivePolePairs,
      Link.defaultPolePairs]

/-- What a link heard in a call, of the quantities that telemetry tells of. -/
def heard (step : Step σ) : List Heard :=
  let link := step.before.link
  let readings := step.events.filterMap (Event.reading? link.line.timing.replyBitTicks)
  (readings.filter (·.kind.isKnown)).map (⟨·, link.polePairs⟩)

/-- All that a link heard since it was made or last ended. -/
def heardOf (earlier : List (Step σ)) : List Heard :=
  (earlier.rtakeWhile (!·.ends)).flatMap heard

/-- What a link heard since then that no look has handed out yet. -/
def unreadOf (earlier : List (Step σ)) : List Heard :=
  (earlier.rtakeWhile fun step => !step.ends && decide (step.call ≠ .read)).flatMap heard

/-- What is heard goes on top of all that was, unless the link ends. -/
theorem heardOf_concat (earlier : List (Step σ)) (step : Step σ) :
    heardOf (earlier ++ [step]) = if step.ends then [] else heardOf earlier ++ step.heard := by
  rw [heardOf, List.rtakeWhile_concat]
  cases step.ends <;> simp [heardOf]

/-- What is heard goes on top of what is new, unless the link ends or is looked at. -/
theorem unreadOf_concat (earlier : List (Step σ)) (step : Step σ) :
    unreadOf (earlier ++ [step]) =
      if step.ends = true ∨ step.call = .read then [] else unreadOf earlier ++ step.heard := by
  rw [unreadOf, List.rtakeWhile_concat]
  cases step.ends <;> by_cases looks : step.call = .read <;> simp [unreadOf, looks]

end Step

namespace Session

variable {σ : Type} (engine : Engine σ) (settings : LinkSettings) (pool : Pool) (device : σ)

/-- A link has the pole pairs that it was given last, and holds all that it heard in its run. -/
theorem holds_afterTurns (taken : List Turn) :
    let first : Session σ := ⟨.ofSettings settings, .fresh pool device⟩
    let link := (first.afterTurns engine taken).link
    let history := first.turns engine taken
    link.polePairs = Step.polePairsOf settings history ∧
      link.cache.Holds settings (Step.heardOf history) (Step.unreadOf history) := by
  refine (turns_induction engine settings pool device (fun earlier link =>
    link.polePairs = Step.polePairsOf settings earlier ∧
      link.cache.Holds settings (Step.heardOf earlier) (Step.unreadOf earlier))
    ⟨rfl, TelemetryCache.holds_empty settings⟩ ?_ taken).2.2
  rintro earlier step hardware _ made conduct ⟨poles, holds⟩
  refine ⟨by rw [conduct.polePairs_eq, Step.polePairsOf_concat, poles], ?_⟩
  -- A speed is reckoned with pole pairs, which are never none.
  have poles : step.before.link.polePairs ≠ 0 := poles ▸ Step.polePairsOf_ne_zero settings earlier
  rw [Step.heardOf_concat, Step.unreadOf_concat]
  rcases step.cache_cases conduct with ⟨looks, kept, silent, cache⟩ | ⟨ends, cache⟩ |
    ⟨other, kept, cache⟩
  · -- A look hears nothing.
    have nothing : step.heard = [] := by simp [Step.heard, silent]
    rw [cache, kept, nothing]
    simpa [looks] using holds.take.2.2
  · rw [cache, ends]
    simpa using TelemetryCache.holds_empty settings
  · -- What a capture brings is a byte where it has to be.
    have bytes : ∀ reading ∈ step.events.filterMap
        (Event.reading? step.before.link.line.timing.replyBitTicks),
        reading.kind ≠ .erpm → reading.value < 256 := by
      intro reading listed
      obtain ⟨event, _, read⟩ := List.mem_filterMap.mp listed
      exact Event.value_lt_of_reading? read
    have updated := holds.updates poles bytes
    rw [cache, kept, if_neg Bool.false_ne_true, if_neg (by simp [other]), Link.hear, made.settings]
    exact updated

/--
Whatever a link is asked and its engine answers, its telemetry is what it heard.

A look hands something out exactly if a reading of a known quantity was heard since the last look,
or since the link was made or ended where there was no look.
What is handed out says of each quantity the latest reading since the link was made or ended, in
terms of the pole pairs of that time, and zero where there was none.
A call that brings no such reading and neither looks nor ends leaves all that is kept as it was.

The pole pairs are those that were last set, or else those of the settings, and they are never zero.
A request that was delivered is listened for: its window is refused, or it is opened and polled.
-/
theorem turn_recalls (earlier : List Turn) (last : Turn) :
    let first : Session σ := ⟨.ofSettings settings, .fresh pool device⟩
    let history := first.turns engine earlier
    let step := (first.afterTurns engine earlier).turn engine last
    let link := step.before.link
    (step.call = .read → ∃ latest, step.answer = .telemetry latest ∧
      (latest.isSome = true ↔ Step.unreadOf history ≠ []) ∧
      ∀ telemetry, latest = some telemetry → telemetry.Says settings (Step.heardOf history)) ∧
    (step.heard = [] → step.call ≠ .read → step.ends = false →
      step.after.link.cache = link.cache) ∧
    link.polePairs ≠ 0 ∧ link.polePairs = Step.polePairsOf settings history ∧
    ∀ transmit value receive, link.receiver.channel = some receive →
      .transmitted transmit (Order.pulses ⟨value, true⟩ link.line) (.ok ()) ∈ step.events →
      (∃ fault, .windowOpened receive (.error fault) ∈ step.events) ∨
        ∃ capture, .polled receive capture ∈ step.events := by
  intro first history step link
  obtain ⟨settled, made⟩ := settled_afterTurns engine settings pool device earlier
  obtain ⟨poles, holds⟩ := holds_afterTurns engine settings pool device earlier
  have conduct := turn_conduct engine (first.afterTurns engine earlier) settled last
  refine ⟨fun looks => ⟨link.cache.take.1, ?_, holds.take.1, holds.take.2.1⟩,
    fun silent other kept => ?_, poles ▸ Step.polePairsOf_ne_zero settings history, poles,
    fun transmit value receive held asked => ?_⟩
  · -- The answer is what the cache hands out.
    have looks : last.call = .read := looks
    show (perform engine last.time last.call _).1 = _
    rw [looks]
    rfl
  · rcases step.cache_cases conduct with ⟨looks, _⟩ | ⟨ends, _⟩ | ⟨_, _, cache⟩
    · exact absurd looks other
    · cases ends.symm.trans kept
    · -- Of what was heard nothing is known, and so nothing changes.
      have unknown := List.filter_eq_nil_iff.mp (List.map_eq_nil_iff.mp silent)
      exact cache.trans (TelemetryCache.foldl_update_of_unknown _ _ _ unknown)
  · obtain ⟨frame, more, events, listens⟩ := conduct.listens made asked
    have events : step.events = frame :: more := events
    have listens : Listens link.receiver.channel more := listens
    rw [held] at listens
    rw [events]
    cases listens with
    | refused receive fault => exact .inl ⟨fault, .tail _ (.head _)⟩
    | heard receive capture => exact .inr ⟨capture, .tail _ (.tail _ (.head _))⟩

end Session

end MotorLink
