import MotorLink.Engine.Script
import MotorLink.Proofs.Frame.Command
import MotorLink.Proofs.Link.Cadence
import MotorLink.Proofs.Link.Protocol

/-! Answers: a command says whether its one frame went out, and each refusal leaves what it must. -/

namespace MotorLink

namespace Call

/-- Whether a call asks for a frame and is answered with whether it went out. -/
def asksToSend : Call → Bool
  | .write _ | .special _ | .command _ | .direction _ => true
  | _ => false

/-- A named command whose parameters are out of range asks for no frame. -/
theorem isGated_of_isOutOfRange {named : Command} {error : CommandError}
    (malformed : named.IsOutOfRange error) : (Call.command named).isGated = false := by
  simp [isGated, Command.code_eq_error_iff.mpr malformed, Except.isOk, Except.toBool]

end Call

namespace Link

/-- The link that has followed the throttle of a call, if the call sets one. -/
def follow (link : Link) (call : Call) : Link :=
  { link with state := call.throttle?.elim link.state link.state.afterThrottle }

/-- The number of throttles that a link has counted after a call of its has been let through. -/
def countAfter (link : Link) (call : Call) : Nat :=
  if call.throttle?.isSome then link.countRequest.2.requestCount else link.requestCount

variable {link : Link} {call : Call}

/-- A ready link heeds a command by following its throttle. -/
theorem heed_eq_follow (ready : link.isReady = true) (gated : call.isGated = true) :
    link.heed call = link.follow call := by
  -- Of the commands only a throttle is followed; the others have none.
  cases call with
  | write => rw [heed, if_pos ready, follow, Call.throttle?, Option.elim_some]
  | special | command | direction => rfl
  | start | stop | arm | setRate | setPolePairs | read | discard => cases gated

/-- A ready link that lets a command through restarts the wait and counts a throttle. -/
theorem ahead_eq_follow (now : Nat) (ready : link.isReady = true) (gated : call.isGated = true) :
    link.ahead now call =
      { link.follow call with
        nextDue := now + link.period, requestCount := link.countAfter call } := by
  obtain ⟨count, ahead⟩ := link.ahead_eq now call
  -- Only the count is left open, and it is the one that a throttle counts.
  have counted : count = link.countAfter call := by
    have counted := link.requestCount_ahead now call
    rw [ahead] at counted
    exact counted
  rw [ahead, counted, heed_eq_follow ready gated]
  rfl

/-- Following throttles keeps a link armed. -/
theorem isArmed_follow (call : Call) :
    (link.follow call).state.isArmed = link.state.isArmed := by
  unfold follow
  cases call.throttle? with
  | none => rfl
  | some throttle =>
    -- A throttle moves a link between the two armed states only.
    cases state : link.state with
    | disarmed => rfl
    | armedZero | armedActive =>
      simp only [Option.elim_some, LinkState.afterThrottle]
      split <;> rfl

end Link

/-- Nothing is delivered where no frame is handed to the engine. -/
theorem Event.any_isDelivery_of_silent {events : List Event}
    (silent : events.filterMap Event.pulses? = []) : events.any Event.isDelivery = false := by
  rw [← Bool.not_eq_true, List.any_eq_true]
  exact Event.not_isDelivery silent

/-- Of uses with a single frame one is a delivery exactly if the engine took the frame. -/
theorem Event.any_isDelivery_cons {channel : Channel} {pulses : List Pulse} {outcome : Outcome}
    {more : List Event} (silent : more.filterMap Event.pulses? = []) :
    (Event.transmitted channel pulses outcome :: more).any Event.isDelivery =
      outcome.succeeded := by
  rw [List.any_cons, any_isDelivery_of_silent silent, Bool.or_false]
  rfl

/-- Listening puts nothing on the line. -/
theorem Listens.pulses_eq_nil {receive : Option Channel} {events : List Event}
    (listens : Listens receive events) : events.filterMap Event.pulses? = [] := by
  cases listens <;> rfl

namespace Session

variable {σ : Type}

/-- What a session says of itself is whether a frame was delivered since an earlier state of it. -/
def Reports (before : Session σ) (result : Bool × Session σ) : Prop :=
  ∃ events, result.2.hardware.journal = before.hardware.journal ++ events ∧
    result.1 = events.any Event.isDelivery

namespace Reports

variable {engine : Engine σ} {s : Session σ}

/-- Where the hardware was not used nothing was delivered. -/
theorem unused (link : Link) : s.Reports (false, { s with link }) :=
  ⟨[], (List.append_nil _).symm, rfl⟩

/-- Sending says whether the engine took the frame. -/
theorem transmit (link : Link) (value : BitVec 11) (request : Bool) :
    s.Reports (Session.transmit engine { s with link } value request) := by
  unfold Session.transmit
  dsimp only
  -- Without a channel nothing is put into the journal; else the frame alone is.
  split
  · exact unused link
  · refine ⟨[.transmitted _ _ _], rfl, ?_⟩
    exact (Event.any_isDelivery_cons rfl).symm

/-- Listening for a reply delivers nothing. -/
theorem collectTelemetry {sent : Bool} {after : Session σ} (reports : s.Reports (sent, after)) :
    s.Reports (sent, after.collectTelemetry engine) := by
  obtain ⟨events, journal, said⟩ := reports
  obtain ⟨link, hardware⟩ := after
  have listening : ∃ device more, Listens link.receiver.channel more ∧
      Session.collectTelemetry engine ⟨link, hardware⟩ =
        ⟨link.hear more, hardware.afterUses device more⟩ := collectTelemetry_listens engine
  obtain ⟨device, more, listens, collected⟩ := listening
  refine ⟨events ++ more, ?_, ?_⟩
  · have journal : hardware.journal = s.hardware.journal ++ events := journal
    rw [collected, ← List.append_assoc, ← journal]
    rfl
  · -- None of the uses of a window is a frame.
    have silent := Event.any_isDelivery_of_silent listens.pulses_eq_nil
    have said : sent = events.any Event.isDelivery := said
    rw [List.any_append, silent, Bool.or_false, ← said]

/-- A throttle says whether it was delivered. -/
theorem write (now : Nat) (throttle : Single) : s.Reports (s.write engine now throttle) := by
  rcases write_cases engine now s throttle with ⟨link, _, held⟩ | ⟨link, value, request, _, _, sent⟩
  · rw [held]
    exact unused link
  · rw [sent]
    -- What is collected afterwards is no delivery, so the answer stays the same.
    have reports : s.Reports (Session.transmit engine { s with link } value request) :=
      transmit link value request
    dsimp only
    split
    · exact reports.collectTelemetry
    · exact reports

/-- A special command says whether it was delivered. -/
theorem sendSpecial (now code : Nat) : s.Reports (s.sendSpecial engine now code) := by
  -- A command that is held back is not delivered, and uses nothing.
  rcases sendSpecial_cases engine now s code with held | ⟨link, value, _, _, sent⟩
  · rw [held]
    exact unused s.link
  · rw [sent]
    exact transmit link value false

/-- A named command says whether it was delivered. -/
theorem sendCommand (now : Nat) (command : Command) :
    s.Reports (s.sendCommand engine now command) := by
  unfold Session.sendCommand
  cases command.code with
  | ok code => exact sendSpecial now code
  | error => exact unused s.link

end Reports

variable (engine : Engine σ)

/-- A call that asks to send is answered with whether its frame was delivered. -/
theorem perform_reports (now : Nat) (s : Session σ) {call : Call} (asks : call.asksToSend = true) :
    ∃ sent, (s.perform engine now call).1 = .sent sent ∧
      s.Reports (sent, (s.perform engine now call).2) := by
  -- One case for each call that asks to send; the two kinds of named commands share theirs.
  cases call with
  | write throttle => exact ⟨_, rfl, Reports.write now throttle⟩
  | special code => exact ⟨_, rfl, Reports.sendSpecial now code⟩
  | command named => exact ⟨_, rfl, Reports.sendCommand now named⟩
  | direction reversed => exact ⟨_, rfl, Reports.sendCommand now (.reverse reversed)⟩
  | start | stop | arm | setRate | setPolePairs | read | discard => cases asks

/-- A turn that asks to send is answered with whether there is a delivery among its uses. -/
theorem answer_turn (s : Session σ) {turn : Turn} (asks : turn.call.asksToSend = true) :
    (s.turn engine turn).answer = .sent ((s.turn engine turn).events.any Event.isDelivery) := by
  obtain ⟨sent, answer, events, journal, said⟩ :=
    perform_reports engine turn.time (s.onPool turn.pool) asks
  -- The uses of a turn are what its journal has beyond the one before.
  have used : (s.turn engine turn).events = events :=
    (congrArg (List.drop s.hardware.journal.length) journal).trans (List.drop_left ..)
  rw [used]
  exact answer.trans (congrArg Answer.sent said)

end Session

namespace Conduct

variable {σ : Type} {now : Nat} {link : Link} {hardware : Hardware σ} {call : Call}
  {events : List Event} {after : Session σ}

/-- A command that is not let through leaves the hardware alone, and is heeded at most. -/
theorem of_held (conduct : Conduct now link hardware call events after)
    (asks : call.asksToSend = true)
    (held : call.isGated = true → link.isReady = true → now < link.nextDue) :
    events = [] ∧ after = ⟨link.heed call, hardware⟩ := by
  -- A call that asks to send is no start and no end, and one that is held back is not sent.
  cases conduct with
  | spared _ _ _ _ _ heeds => exact ⟨rfl, by rw [heeds]⟩
  | refused | started => cases asks
  | sent _ sender =>
    rcases sender with rfl | ⟨gated, ready, due⟩
    · cases asks
    · exact absurd due (Nat.not_le_of_lt (held gated ready))
  | ended ends => rcases ends with rfl | rfl <;> cases asks

/-- A command that is let through has one frame sent; if the engine refuses it, that is all. -/
theorem of_due (conduct : Conduct now link hardware call events after) (gated : call.isGated = true)
    (ready : link.isReady = true) (due : link.nextDue ≤ now) :
    ∃ channel pulses outcome more device, events = .transmitted channel pulses outcome :: more ∧
      more.filterMap Event.pulses? = [] ∧
      ∀ fault, outcome = .error fault → more = [] ∧
        after = ⟨link.ahead now call, hardware.afterUses device events⟩ := by
  cases conduct with
  | spared spares => exact absurd due (Nat.not_le_of_lt (Call.early_of_spares gated spares ready))
  | refused | started => cases gated
  | @sent _ _ transmit order outcome more device _ _ _ followUp _ _ _ _ _ heard =>
    refine ⟨transmit, _, outcome, more, device, rfl, followUp.pulses_eq_nil, ?_⟩
    rintro fault rfl
    -- Only what went out is listened for.
    cases followUp with
    | silent => exact ⟨rfl, by rw [heard, Link.hear_of_silent rfl]⟩
    | listening _ sent => cases sent
  | ended ends => rcases ends with rfl | rfl <;> cases gated

end Conduct

/-- What asks to send is not heeded by a link that is not ready. -/
theorem Link.heed_of_unready {link : Link} {call : Call} (unready : link.isReady = false)
    (asks : call.asksToSend = true) : link.heed call = link := by
  -- Even a throttle is passed over while the link is not ready.
  cases call with
  | write => rw [heed, unready, if_neg Bool.false_ne_true]
  | special | command | direction => rfl
  | start | stop | arm | setRate | setPolePairs | read | discard => cases asks

/-- A link that is not running or not armed is not ready. -/
theorem Link.isReady_eq_false {link : Link}
    (unable : link.initialized = false ∨ link.state = .disarmed) : link.isReady = false := by
  rcases unable with stopped | disarmed
  · rw [isReady, stopped, Bool.false_and]
  · rw [isReady, disarmed]
    exact Bool.and_false _

namespace Session

variable {σ : Type} (engine : Engine σ)

/-- A turn that asks to send is held back, or it hands over a frame and says what came of it. -/
theorem turn_sends_cases (s : Session σ) (settled : s.link.Settled) {turn : Turn}
    (asks : turn.call.asksToSend = true) :
    let step := s.turn engine turn
    ((turn.call.isGated = true → s.link.isReady = true → turn.time < s.link.nextDue) ∧
      step.events = [] ∧ step.answer = .sent false ∧
      step.after = { step.before with link := s.link.heed turn.call }) ∨
    (turn.call.isGated = true ∧ s.link.isReady = true ∧ s.link.nextDue ≤ turn.time ∧
      ∃ channel pulses outcome more, step.events = .transmitted channel pulses outcome :: more ∧
        more.filterMap Event.pulses? = [] ∧ step.answer = .sent outcome.succeeded ∧
        ∀ fault, outcome = .error fault → more = [] ∧ ∃ device,
          step.after.link = s.link.ahead turn.time turn.call ∧
          step.after.hardware = step.before.hardware.afterUses device step.events) := by
  intro step
  have conduct := turn_conduct engine s settled turn
  have answer : step.answer = .sent (step.events.any Event.isDelivery) := answer_turn engine s asks
  by_cases held : turn.call.isGated = true → s.link.isReady = true → turn.time < s.link.nextDue
  · obtain ⟨silent, after⟩ := conduct.of_held asks held
    have silent : step.events = [] := silent
    rw [silent] at answer
    exact .inl ⟨held, silent, answer, after⟩
  · -- Whatever is not held back is ready and due.
    push Not at held
    obtain ⟨gated, ready, due⟩ := held
    obtain ⟨channel, pulses, outcome, more, device, events, silent, failed⟩ :=
      conduct.of_due gated ready due
    have events : step.events = .transmitted channel pulses outcome :: more := events
    rw [events, Event.any_isDelivery_cons silent] at answer
    refine .inr ⟨gated, ready, due, channel, pulses, outcome, more, events, silent, answer, ?_⟩
    intro fault refused
    obtain ⟨nothing, after⟩ := failed fault refused
    exact ⟨nothing, device, congrArg Session.link after, congrArg Session.hardware after⟩

variable (settings : LinkSettings) (pool : Pool) (device : σ)

/--
Whatever a link was asked and its engine answers, a command says whether its one frame went out.

It is answered with true exactly if it handed one frame to the engine and the engine took it.
A command that finds the link stopped or disarmed, or that has parameters out of range, changes
nothing at all, and its turn is not used up.
One that comes too early uses nothing, and only a throttle moves the link between its armed states.
One that the engine refuses opens no window, and changes no more than that state, the wait and the
count of throttles.
-/
theorem turn_answers (earlier : List Turn) (last : Turn) (asks : last.call.asksToSend = true) :
    let before := Session.afterTurns engine earlier ⟨.ofSettings settings, .fresh pool device⟩
    let step := before.turn engine last
    let link := before.link
    (∃ wentOut, step.answer = .sent wentOut ∧
      (wentOut = true ↔ ∃ channel pulses, step.frames = [pulses] ∧
        .transmitted channel pulses (.ok ()) ∈ step.events)) ∧
    step.frames.length ≤ 1 ∧
    ((link.initialized = false ∨ link.state = .disarmed ∨
        ∃ named error, last.call = .command named ∧ named.IsOutOfRange error) →
      step.answer = .sent false ∧ step.events = [] ∧ step.after = step.before) ∧
    (link.isReady = true → last.call.isGated = true → last.time < link.nextDue →
      step.answer = .sent false ∧ step.events = [] ∧
      step.after = { step.before with link := link.follow last.call } ∧
      step.after.link.state.isArmed = true) ∧
    (link.isReady = true → last.call.isGated = true → link.nextDue ≤ last.time →
      ∃ channel pulses outcome more, step.events = .transmitted channel pulses outcome :: more ∧
        step.answer = .sent outcome.succeeded ∧
        ∀ fault, outcome = .error fault → more = [] ∧
          step.after.link = { link.follow last.call with
            nextDue := last.time + link.period, requestCount := link.countAfter last.call } ∧
          step.after.link.state.isArmed = true ∧
          step.after.hardware.pool = step.before.hardware.pool ∧
          Usage.ofHistory step.after.hardware.journal =
            Usage.ofHistory step.before.hardware.journal) := by
  intro before step link
  obtain ⟨settled, _⟩ := settled_afterTurns engine settings pool device earlier
  have armed (ready : link.isReady = true) : (link.follow last.call).state.isArmed = true := by
    rw [Link.isArmed_follow]
    exact (Bool.and_eq_true_iff.mp ready).2
  rcases turn_sends_cases engine before settled asks with
    ⟨held, silent, answer, after⟩ |
    ⟨gated, ready, due, channel, pulses, outcome, more, events, silent, answer, failed⟩
  · have silent : step.events = [] := silent
    have frames : step.frames = [] := by rw [Step.frames, silent]; rfl
    refine ⟨⟨false, answer, by simp [frames]⟩, by simp [frames], fun unable => ?_,
      fun ready gated early => ?_, fun ready gated due => ?_⟩
    · -- Neither is a throttle followed on a link that is not ready.
      have kept : link.heed last.call = link := by
        rcases unable with stopped | disarmed | ⟨named, error, call, _⟩
        · exact Link.heed_of_unready (Link.isReady_eq_false (.inl stopped)) asks
        · exact Link.heed_of_unready (Link.isReady_eq_false (.inr disarmed)) asks
        · rw [call]
          rfl
      refine ⟨answer, silent, after.trans ?_⟩
      rw [show before.link.heed last.call = before.link from kept]
      rfl
    · have follows : step.after = { step.before with link := link.follow last.call } := by
        rw [← Link.heed_eq_follow ready gated]
        exact after
      exact ⟨answer, silent, follows, by rw [follows]; exact armed ready⟩
    · exact absurd due (Nat.not_le_of_lt (held gated ready))
  · have events : step.events = .transmitted channel pulses outcome :: more := events
    have frames : step.frames = [pulses] := by
      rw [Step.frames, events, List.filterMap_cons, silent]
      rfl
    refine ⟨⟨outcome.succeeded, answer, ?_⟩, by simp [frames], fun unable => ?_,
      fun _ _ early => absurd due (Nat.not_le_of_lt early),
      fun _ _ _ => ⟨channel, pulses, outcome, more, events, answer, fun fault refused => ?_⟩⟩
    · -- Nothing that comes after the frame is one itself.
      rw [events]
      constructor
      · intro taken
        cases outcome with
        | ok => exact ⟨channel, pulses, frames, .head _⟩
        | error => cases taken
      · rintro ⟨other, others, _, listed⟩
        rcases List.mem_cons.mp listed with same | later
        · cases same
          rfl
        · cases List.filterMap_eq_nil_iff.mp silent _ later
    · rcases unable with stopped | disarmed | ⟨named, error, call, malformed⟩
      · cases ready.symm.trans (Link.isReady_eq_false (.inl stopped))
      · cases ready.symm.trans (Link.isReady_eq_false (.inr disarmed))
      · rw [call, Call.isGated_of_isOutOfRange malformed] at gated
        cases gated
    · obtain ⟨nothing, device, ahead, used⟩ := failed fault refused
      have ahead : step.after.link = link.ahead last.time last.call := ahead
      rw [Link.ahead_eq_follow last.time ready gated] at ahead
      refine ⟨nothing, ahead, by rw [ahead]; exact armed ready, ?_, ?_⟩
      · rw [show step.after.hardware = _ from used]
        rfl
      · -- The frame leaves in use what was in use.
        rw [show step.after.hardware = _ from used, events, nothing, Hardware.afterUses,
          Usage.ofHistory_append]
        rfl

/-- A throttle that a busy engine refuses is counted, and has the next one wait for a period. -/
theorem turn_answers_of_busy_engine :
    let busy : Script := (Script.initial none).setFault .transmit (some (.busy 0))
    let first : Session Script := ⟨.ofSettings .standard, .fresh (.ofSize 2) busy⟩
    let early : List Turn := [⟨0, .start, .ofSize 2⟩, ⟨0, .arm true, .ofSize 0⟩]
    let last : Turn := ⟨10, .write (.ofRatio false 1 2), .ofSize 0⟩
    let step := (first.afterTurns Script.engine early).turn Script.engine last
    last.call.asksToSend = true ∧ step.before.link.isReady = true ∧ last.call.isGated = true ∧
      step.before.link.nextDue ≤ last.time ∧ step.answer = .sent false ∧
      step.after.link = { step.before.link with
        state := .armedActive, nextDue := 510, requestCount := 1 } := by
  intro busy first early last step
  have asks : last.call.asksToSend = true := rfl
  have ready : step.before.link.isReady = true := by decide +kernel
  have gated : last.call.isGated = true := rfl
  have due : step.before.link.nextDue ≤ last.time := by decide +kernel
  obtain ⟨_, _, _, _, sends⟩ :=
    turn_answers Script.engine .standard (.ofSize 2) busy early last asks
  -- The link that is written to is the one that the earlier turns left.
  have same : step.before.link = (first.afterTurns Script.engine early).link := rfl
  obtain ⟨channel, pulses, outcome, more, events, answer, failed⟩ :=
    sends (by rw [← same]; exact ready) gated (by rw [← same]; exact due)
  refine ⟨asks, ready, gated, due, ?_⟩
  cases outcome with
  | ok =>
    -- The engine has the fault that it was set, so nothing is delivered.
    have undelivered : step.events.any Event.isDelivery = false := by decide +kernel
    have events : step.events = .transmitted channel pulses (.ok ()) :: more := events
    rw [events] at undelivered
    cases undelivered
  | error fault =>
    have kept := (failed fault rfl).2.1
    refine ⟨answer, ?_⟩
    rw [kept]
    decide +kernel

end Session

end MotorLink
