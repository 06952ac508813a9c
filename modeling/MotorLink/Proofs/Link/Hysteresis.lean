import Mathlib.Data.List.DropRight
import MotorLink.Proofs.Link.Arming
import MotorLink.Proofs.Throttle

/-! Hysteresis: the state of an armed link is told by its last throttle beyond a threshold. -/

namespace MotorLink

namespace LinkState

/-- Whether a throttle lies beyond a threshold, so that the state before it does not matter. -/
def isDecisive (throttle : Single) : Bool := throttle.le zeroEnter || zeroExit.le throttle

/-- The state of a link that was armed and then got throttles: the last decisive one tells it. -/
def ofThrottles (throttles : List Single) : LinkState :=
  match (throttles.filter isDecisive).getLast? with
  | some latest => if zeroExit.le latest then .armedActive else .armedZero
  | none => .armedZero

/-- A throttle that leaves the zero state does not return to it. -/
theorem le_zeroEnter_of_zeroExit_le {throttle : Single} (leaves : zeroExit.le throttle = true) :
    throttle.le zeroEnter = false := by
  -- Otherwise the threshold to leave would not lie above the one to return.
  by_contra enters
  have crossed := Binary.le_trans leaves (Bool.eq_true_of_not_eq_false enters)
  exact absurd crossed (by decide +kernel)

/-- A throttle beyond a threshold tells the state of an armed link, and any other one keeps it. -/
theorem afterThrottle_of_isArmed {state : LinkState} (armed : state.isArmed = true)
    (throttle : Single) : state.afterThrottle throttle =
      if zeroExit.le throttle then .armedActive
      else if throttle.le zeroEnter then .armedZero else state := by
  -- Beyond the upper threshold is not below the lower one, so at most one of them decides.
  cases state with
  | disarmed => cases armed
  | armedZero => simp [afterThrottle]
  | armedActive =>
    cases leaves : zeroExit.le throttle with
    | true => simp [afterThrottle, le_zeroEnter_of_zeroExit_le leaves]
    | false => simp [afterThrottle]

/-- Of throttles the last one tells the state, unless it lies between the thresholds. -/
theorem ofThrottles_concat (throttles : List Single) (throttle : Single) :
    ofThrottles (throttles ++ [throttle]) =
      if zeroExit.le throttle then .armedActive
      else if throttle.le zeroEnter then .armedZero else ofThrottles throttles := by
  -- A decisive throttle is the last one of all that are, and any other one is left out.
  cases leaves : zeroExit.le throttle with
  | true => simp [ofThrottles, isDecisive, leaves]
  | false => cases enters : throttle.le zeroEnter <;> simp [ofThrottles, isDecisive, leaves, enters]

/-- A throttle between the thresholds does not bring a motor to rest. -/
example : ofThrottles [.ofRatio false 5 100, .ofRatio false 3 100] = .armedActive := by
  decide +kernel

/-- A link that was armed stays so whatever the throttles. -/
theorem isArmed_ofThrottles (throttles : List Single) : (ofThrottles throttles).isArmed = true := by
  unfold ofThrottles
  -- Whichever throttle decides, it leads to one of the two armed states.
  split
  · split <;> rfl
  · rfl

/-- Throttles are followed one after the other. -/
theorem afterThrottle_ofThrottles (throttles : List Single) (throttle : Single) :
    (ofThrottles throttles).afterThrottle throttle = ofThrottles (throttles ++ [throttle]) := by
  rw [afterThrottle_of_isArmed (isArmed_ofThrottles throttles), ofThrottles_concat]

end LinkState

/-- A ready link that is not let rest follows the throttle of a call, if it has one. -/
theorem Link.state_heed_of_isReady {link : Link} {call : Call} (ready : link.isReady = true)
    (moves : call.isRest = false) : (link.heed call).state =
      call.throttle?.elim link.state link.state.afterThrottle := by
  cases call with
  | write => rw [heed, if_pos ready, Call.throttle?, Option.elim_some]
  | arm on =>
    cases on with
    | true =>
      -- A ready link is not disarmed, so that there is nothing to arm.
      have armed : link.state ≠ .disarmed := by
        intro disarmed
        rw [isReady, disarmed] at ready
        simp [LinkState.isArmed] at ready
      rw [heed, if_neg armed]
      rfl
    | false => cases moves
  | start | stop | special | command | direction | setRate | setPolePairs | read | discard => rfl

/-- A link that has kept what it was made with has the values of its settings sent. -/
theorem Link.MadeOf.throttleValue {settings : LinkSettings} {link : Link}
    (made : link.MadeOf settings) (throttle : Single) :
    (link.state = .armedZero →
      link.throttleValue throttle = BitVec.ofNat 11 settings.idleCode.toNat) ∧
    (link.state = .armedActive → (link.throttleValue throttle).toNat =
      (ThrottleScale.ofIdlePercent settings.idlePercent).encode throttle) := by
  refine ⟨fun zero => ?_, fun active => ?_⟩
  · rw [Link.throttleValue, zero, idleValue, made.settings]
  · -- A throttle value fits in the bits that it is sent in.
    have scale : link.scale = .ofIdlePercent settings.idlePercent := made.scale
    have fits := (ThrottleScale.encode_ofIdlePercent settings.idlePercent throttle).2
    rw [ThrottleScale.maxCode] at fits
    rw [Link.throttleValue, active, scale, BitVec.toNat_ofNat]
    exact Nat.mod_eq_of_lt (by omega)

/-- A throttle leaves the state that it leads to, whether it was sent or not. -/
theorem Conduct.state_of_throttle? {σ : Type} {now : Nat} {link : Link} {hardware : Hardware σ}
    {call : Call} {events : List Event} {after : Session σ} {throttle : Single}
    (conduct : Conduct now link hardware call events after)
    (sets : call.throttle? = some throttle) : after.link.state = (link.heed call).state := by
  -- A throttle that is dropped is heeded as much as one that is sent.
  cases conduct with
  | spared _ _ _ _ _ heeds => exact congrArg Link.state heeds
  | refused | started => cases sets
  | sent _ _ _ _ _ _ _ _ _ heard =>
    obtain ⟨_, ahead⟩ := link.ahead_eq now call
    rw [heard, ahead]
    rfl
  | ended ends => rcases ends with rfl | rfl <;> cases sets

namespace Step

variable {σ : Type}

/-- The throttles that a link was set to since it was last armed, sent or not. -/
def throttles (earlier : List (Step σ)) : List Single :=
  (earlier.rtakeWhile (!·.arms)).filterMap (·.call.throttle?)

/-- Arming starts the throttles anew, and any other call adds its own if it has one. -/
theorem throttles_concat (earlier : List (Step σ)) (step : Step σ) :
    throttles (earlier ++ [step]) =
      if step.arms then [] else throttles earlier ++ step.call.throttle?.toList := by
  rw [throttles, List.rtakeWhile_concat]
  -- The throttles since arming are taken from the end, so a step that arms cuts all others off.
  cases step.arms with
  | true => rfl
  | false =>
    simp only [Bool.not_false, if_true, Bool.false_eq_true, if_false, List.filterMap_append]
    cases set : step.call.throttle? <;> simp [throttles, set]

/-- A ready link whose throttles tell its state follows one more call as they tell. -/
theorem state_heed_eq {earlier : List (Step σ)} {step : Step σ}
    (ready : step.before.link.isReady = true) (moves : step.call.isRest = false)
    (told : step.before.link.state = .ofThrottles (throttles earlier)) :
    (step.before.link.heed step.call).state = .ofThrottles (throttles (earlier ++ [step])) := by
  -- Only a disarmed link can be armed.
  have armed : step.before.link.state.isArmed = true := told ▸ LinkState.isArmed_ofThrottles _
  have kept : step.arms = false := by
    cases state : step.before.link.state with
    | disarmed => simp [state, LinkState.isArmed] at armed
    | armedZero | armedActive => simp [arms, state]
  rw [Link.state_heed_of_isReady ready moves, throttles_concat, kept, if_neg Bool.false_ne_true,
    told]
  cases step.call.throttle? with
  | none => simp
  | some throttle => exact LinkState.afterThrottle_ofThrottles _ throttle

end Step

namespace Session

variable {σ : Type} (engine : Engine σ) (settings : LinkSettings) (pool : Pool) (device : σ)

/-- The state of a link that may send is told by the throttles since it was armed. -/
theorem state_afterTurns (taken : List Turn) :
    let first : Session σ := ⟨.ofSettings settings, .fresh pool device⟩
    (first.afterTurns engine taken).link.isReady = true →
      (first.afterTurns engine taken).link.state =
        .ofThrottles (Step.throttles (first.turns engine taken)) := by
  intro first
  -- Arming leaves the zero state, and from there the throttles are followed.
  refine (turns_induction engine settings pool device (fun earlier link => link.isReady = true →
    link.state = .ofThrottles (Step.throttles earlier)) nofun ?_ taken).2.2
  intro earlier step hardware _ _ conduct held ready
  obtain ⟨_, state, moves⟩ := conduct.of_isReady ready
  rcases Step.arms_or_ready conduct ready with ⟨_, arms⟩ | ⟨before, _, _⟩
  · rw [Step.throttles_concat, if_pos arms]
    exact of_decide_eq_true (Bool.and_eq_true_iff.mp arms).2
  · exact state.trans (Step.state_heed_eq before moves (held before))

/--
Whatever a link is asked and its engine answers, its last decisive throttle tells its state.

A link that may send was armed, and it is active exactly if of all throttles since then that lie
beyond a threshold, whether they were sent or not, the last one lies beyond that to leave zero.
A throttle that has a frame sent counts itself: the value is that of rest in the zero state,
and the one that the throttle has on the scale in the active state.
-/
theorem turn_steady (earlier : List Turn) (last : Turn) :
    let first : Session σ := ⟨.ofSettings settings, .fresh pool device⟩
    let history := first.turns engine earlier
    let step := (first.afterTurns engine earlier).turn engine last
    (step.before.link.isReady = true → (∃ arming ∈ history, arming.arms = true) ∧
      step.before.link.state = .ofThrottles (Step.throttles history)) ∧
    (∀ throttle, step.call = .write throttle → step.frames ≠ [] →
      step.after.link.state = .ofThrottles (Step.throttles (history ++ [step])) ∧
      ∃ value request,
        step.frames = [Order.pulses ⟨value, request⟩ (Link.ofSettings settings).line] ∧
        (step.after.link.state = .armedZero → value = BitVec.ofNat 11 settings.idleCode.toNat) ∧
        (step.after.link.state = .armedActive →
          value.toNat = (ThrottleScale.ofIdlePercent settings.idlePercent).encode
            (limitThrottle throttle))) := by
  intro first history step
  obtain ⟨settled, made⟩ := settled_afterTurns engine settings pool device earlier
  have conduct := turn_conduct engine (first.afterTurns engine earlier) settled last
  have told : step.before.link.isReady = true →
      step.before.link.state = .ofThrottles (Step.throttles history) :=
    state_afterTurns engine settings pool device earlier
  refine ⟨fun ready => ⟨?_, told ready⟩, fun throttle writes sends => ?_⟩
  · obtain ⟨before, arming, since, split, _, arms, _⟩ :=
      armed_afterTurns engine settings pool device earlier ready
    exact ⟨arming, by simp [history, first, split], arms⟩
  · have sets : step.call.throttle? = some (limitThrottle throttle) := by
      rw [writes]
      rfl
    have moves : step.call.isRest = false := by
      rw [writes]
      rfl
    have frames := step.frames_eq conduct
    rw [show step.before.link.line = (Link.ofSettings settings).line from made.line,
      Link.order?_of_throttle? sets] at frames
    cases due : step.before.link.isDue step.time with
    | false => simp [frames, due] at sends
    | true =>
      -- The frame has the value that the throttle itself leads to.
      rw [due] at frames
      have ready := (Bool.and_eq_true_iff.mp due).1
      have state : step.after.link.state = (step.before.link.heed step.call).state :=
        conduct.state_of_throttle? sets
      obtain ⟨zero, active⟩ := (Link.MadeOf.heed made last.call).throttleValue _
      refine ⟨state.trans (Step.state_heed_eq ready moves (told ready)), _, _, frames, ?_, ?_⟩
      · rw [state]
        exact zero
      · rw [state]
        exact active

end Session

end MotorLink
