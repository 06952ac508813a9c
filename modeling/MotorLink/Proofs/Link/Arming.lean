import MotorLink.Engine.Script
import MotorLink.Proofs.Link.Gate

/-! Arming: no command reaches a controller unless its link was armed and not disarmed since. -/

namespace MotorLink

/-- Only arming gets a link out of the disarmed state, and then its throttle counts as zero. -/
theorem Link.arm_of_heed {link : Link} {call : Call} (disarmed : link.state = .disarmed)
    (armed : (link.heed call).state.isArmed = true) :
    call = .arm true ∧ (link.heed call).state = .armedZero := by
  -- A disarmed link does not follow throttles either.
  have unready : link.isReady = false := by
    rw [isReady, disarmed]
    exact Bool.and_false _
  cases call with
  | arm on =>
    cases on with
    | true =>
      rw [heed, if_pos disarmed]
      exact ⟨rfl, rfl⟩
    | false => cases armed
  | write =>
    rw [heed, unready, if_neg Bool.false_ne_true, disarmed] at armed
    cases armed
  | start | stop | special | command | direction | setRate | setPolePairs | read | discard =>
    have kept : link.state.isArmed = true := armed
    rw [disarmed] at kept
    cases kept

/-- A link that may send after a call was running before it, and has only heeded the call. -/
theorem Conduct.of_isReady {σ : Type} {now : Nat} {link : Link} {hardware : Hardware σ}
    {call : Call} {events : List Event} {after : Session σ}
    (conduct : Conduct now link hardware call events after) (ready : after.link.isReady = true) :
    link.initialized = true ∧ after.link.state = (link.heed call).state ∧ call.isRest = false := by
  -- A call that starts or ends a link leaves it disarmed.
  have running := Link.initialized_of_isReady ready
  have armed : after.link.state.isArmed = true := (Bool.and_eq_true_iff.mp ready).2
  -- Of the calls that let the motor rest, disarming does so too.
  have rests (kept : call ≠ .stop ∧ call ≠ .discard)
      (heeds : after.link.state = (link.heed call).state) : call.isRest = false := by
    cases call with
    | arm on =>
      cases on with
      | true => rfl
      | false =>
        rw [heeds] at armed
        cases armed
    | stop => exact absurd rfl kept.1
    | discard => exact absurd rfl kept.2
    | _ => rfl
  rcases conduct.running running with rfl | ⟨ran, kept⟩
  · cases conduct with
    | spared spares _ _ _ _ heeds => exact ⟨spares, congrArg Link.state heeds, rfl⟩
    | refused stopped => cases running.symm.trans stopped
    | started => cases armed
    | sent _ sender => simp [Call.isGated] at sender
    | ended => cases running
  · cases conduct with
    | spared _ _ _ _ _ heeds =>
      have heeds := congrArg Link.state heeds
      exact ⟨ran, heeds, rests kept heeds⟩
    | refused stopped => cases running.symm.trans stopped
    | started => cases armed
    | sent _ _ _ _ _ _ _ _ _ heard =>
      obtain ⟨_, ahead⟩ := link.ahead_eq now call
      have heeds := congrArg Link.state heard
      rw [ahead] at heeds
      exact ⟨ran, heeds, rests kept heeds⟩
    | ended => cases running

namespace Step

variable {σ : Type}

/-- Whether a call got a running link from the disarmed to the armed state. -/
def arms (step : Step σ) : Bool :=
  step.before.link.initialized && decide (step.before.link.state = .disarmed) &&
    decide (step.after.link.state = .armedZero)

/-- Whether after a call the link has to be armed anew: it was started, disarmed or ended. -/
def disarms (step : Step σ) : Bool :=
  step.starts || decide (step.call = .arm false) || step.ends

/-- Whether a link was armed in a run, and not disarmed since. -/
def Armed (earlier : List (Step σ)) : Prop :=
  ∃ before arming since, earlier = before ++ arming :: since ∧ arming.call = .arm true ∧
    arming.arms = true ∧ ∀ other ∈ since, other.disarms = false

/-- A call has the frame of its order sent, and no other. -/
theorem frames_eq (step : Step σ) {hardware : Hardware σ}
    (conduct : Conduct step.time step.before.link hardware step.call step.events step.after) :
    step.frames = (step.before.link.order? step.time step.call).toList.map
      (·.pulses step.before.link.line) :=
  conduct.frames_eq

/-- A call that leaves a link ready has armed it, or the link was ready before and not disarmed. -/
theorem arms_or_ready {step : Step σ} {hardware : Hardware σ}
    (conduct : Conduct step.time step.before.link hardware step.call step.events step.after)
    (ready : step.after.link.isReady = true) :
    step.call = .arm true ∧ step.arms = true ∨
      step.before.link.isReady = true ∧ step.arms = false ∧ step.disarms = false := by
  obtain ⟨ran, state, rests⟩ := conduct.of_isReady ready
  have armed : step.after.link.state.isArmed = true := (Bool.and_eq_true_iff.mp ready).2
  by_cases disarmed : step.before.link.state = .disarmed
  · obtain ⟨call, zero⟩ := Link.arm_of_heed disarmed (state ▸ armed)
    refine .inl ⟨call, ?_⟩
    rw [arms, ran, disarmed, state, zero]
    rfl
  · have before : step.before.link.isReady = true := by
      rw [Link.isReady, ran]
      cases known : step.before.link.state with
      | disarmed => exact absurd known disarmed
      | armedZero | armedActive => rfl
    refine .inr ⟨before, ?_, ?_⟩
    · rw [arms, decide_eq_false disarmed, Bool.and_false, Bool.false_and]
    · -- The link was running already, and the call does not let its motor rest.
      have moves : step.call ≠ .arm false ∧ step.call ≠ .stop ∧ step.call ≠ .discard := by
        refine ⟨?_, ?_, ?_⟩ <;> intro same <;> rw [same] at rests <;> cases rests
      simp [disarms, starts, ends, ran, moves]

end Step

namespace Session

variable {σ : Type} (engine : Engine σ) (settings : LinkSettings) (pool : Pool) (device : σ)

/-- A link that may send was armed in its run, and not disarmed since. -/
theorem armed_afterTurns (taken : List Turn) :
    let first : Session σ := ⟨.ofSettings settings, .fresh pool device⟩
    (first.afterTurns engine taken).link.isReady = true →
      Step.Armed (first.turns engine taken) := by
  intro first
  -- Each call either arms the link or goes on with a stretch in which it was armed.
  refine (turns_induction engine settings pool device
    (fun earlier link => link.isReady = true → Step.Armed earlier) nofun ?_ taken).2.2
  intro earlier step hardware _ _ conduct held ready
  rcases Step.arms_or_ready conduct ready with ⟨call, arms⟩ | ⟨before, _, keeps⟩
  · exact ⟨earlier, step, [], rfl, call, arms, by simp⟩
  · obtain ⟨start, arming, since, rfl, call, arms, kept⟩ := held before
    refine ⟨start, arming, since ++ [step], by simp, call, arms, fun other listed => ?_⟩
    rcases List.mem_append.mp listed with among | last
    · exact kept other among
    · rw [List.mem_singleton.mp last]
      exact keeps

/--
Whatever a link is asked and its engine answers, commands go out from an armed link only.

A command has a frame sent only while the link is running, and only after it was armed;
since then it was neither started nor disarmed nor ended.
Disarming and ending have the value of rest sent once, whenever they come, if the link is running.
No other frame is ever sent.
-/
theorem turn_armed (earlier : List Turn) (last : Turn) :
    let first : Session σ := ⟨.ofSettings settings, .fresh pool device⟩
    let history := first.turns engine earlier
    let step := (first.afterTurns engine earlier).turn engine last
    let idle : Order := ⟨BitVec.ofNat 11 settings.idleCode.toNat, false⟩
    (step.frames ≠ [] → step.before.link.initialized = true ∧
      (step.call.isRest = true ∨ step.call.isGated = true ∧
        ∃ before arming since, history = before ++ arming :: since ∧ arming.call = .arm true ∧
          ∀ other ∈ since, other.disarms = false)) ∧
    (step.call.isRest = true → step.frames = if step.before.link.initialized then
      [idle.pulses (Link.ofSettings settings).line] else []) := by
  intro first history step idle
  obtain ⟨settled, made⟩ := settled_afterTurns engine settings pool device earlier
  have conduct := turn_conduct engine (first.afterTurns engine earlier) settled last
  have frames := step.frames_eq conduct
  have idles : step.before.link.idleOrder = idle := by
    rw [Link.idleOrder, Link.idleValue, show step.before.link.settings = settings from made.settings]
  refine ⟨fun sends => ?_, fun rests => ?_⟩
  · -- Where a frame goes out there is an order for it.
    cases ordered : step.before.link.order? step.time step.call with
    | none => simp [frames, ordered] at sends
    | some order =>
      rcases Link.order?_cases ordered with ⟨rests, running, _⟩ | ⟨due, gated, _⟩
      · exact ⟨running, .inl rests⟩
      · have ready := (Bool.and_eq_true_iff.mp due).1
        obtain ⟨before, arming, since, split, call, _, kept⟩ :=
          armed_afterTurns engine settings pool device earlier ready
        exact ⟨Link.initialized_of_isReady ready,
          .inr ⟨gated, before, arming, since, split, call, kept⟩⟩
  · have ordered : step.before.link.order? step.time step.call =
        if step.before.link.initialized then some idle else none := by
      rw [← idles]
      exact Link.order?_of_isRest rests
    rw [frames, ordered, show step.before.link.line = (Link.ofSettings settings).line from made.line]
    cases step.before.link.initialized <;> rfl

/-- A link that was armed before its start is not armed. -/
example :
    let first : Session Script := ⟨.ofSettings .standard, .fresh (.ofSize 2) (.initial none)⟩
    let early : List Turn := [⟨0, .arm true, .ofSize 2⟩, ⟨0, .start, .ofSize 2⟩]
    ((first.afterTurns Script.engine early).turn Script.engine ⟨9, .special 6, .ofSize 0⟩).frames =
      [] := by
  decide +kernel

end Session

end MotorLink
