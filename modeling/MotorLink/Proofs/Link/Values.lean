import MotorLink.Proofs.Frame.Command
import MotorLink.Proofs.Link.Hysteresis
import MotorLink.Proofs.Link.Wiring

/-! Values: under checked settings no frame has a throttle below the idle one, and none is cut. -/

namespace MotorLink

/-- A call that has to wait its turn does not let the motor rest. -/
theorem Call.isRest_of_isGated {call : Call} (gated : call.isGated = true) :
    call.isRest = false := by
  cases call with
  | write | special | command | direction => rfl
  | start | stop | arm | setRate | setPolePairs | read | discard => cases gated

/-- The values that settings give to the calls that have a frame sent. -/
inductive LinkSettings.Gives (settings : LinkSettings) : Call → Nat → Prop
  | rest {call : Call} (rests : call.isRest = true) : Gives settings call settings.idleCode.toNat
  | zero (throttle : Single) : Gives settings (.write throttle) settings.idleCode.toNat
  | active (throttle : Single) : Gives settings (.write throttle)
      ((ThrottleScale.ofIdlePercent settings.idlePercent).encode (Session.limitThrottle throttle))
  | special {call : Call} {code : Nat} (coded : call.code? = some code) :
      Gives settings call (ThrottleScale.special code)

/-- A call has the value sent that the settings give it, as far as a frame has room for it. -/
theorem Link.MadeOf.gives {settings : LinkSettings} {link : Link} (made : link.MadeOf settings)
    {now : Nat} {call : Call} {order : Order} (ordered : link.order? now call = some order) :
    ∃ number, settings.Gives call number ∧ order.value = BitVec.ofNat 11 number := by
  -- Rest has the idle value and a special command that of its code, whichever call asks for it.
  have resting (rests : call.isRest = true) :
      ∃ number, settings.Gives call number ∧ order.value = BitVec.ofNat 11 number := by
    rw [order?_of_isRest rests] at ordered
    obtain ⟨_, same⟩ := Option.ite_none_right_eq_some.mp ordered
    exact ⟨_, .rest rests, by rw [← Option.some.inj same, idleOrder, idleValue, made.settings]⟩
  have special {code : Option Nat} (coded : call.code? = code)
      (same : (if link.isDue now then code.map specialOrder else none) = some order) :
      ∃ number, settings.Gives call number ∧ order.value = BitVec.ofNat 11 number := by
    obtain ⟨_, same⟩ := Option.ite_none_right_eq_some.mp same
    obtain ⟨code, rfl, rfl⟩ := Option.map_eq_some_iff.mp same
    exact ⟨_, .special coded, rfl⟩
  cases call with
  | start | setRate | setPolePairs | read => cases ordered
  | stop | discard => exact resting rfl
  | arm on =>
    cases on with
    | true => cases ordered
    | false => exact resting rfl
  | special | command | direction => exact special rfl ordered
  | write throttle =>
    -- The state that the throttle leads to decides between its own value and that of rest.
    obtain ⟨_, same⟩ := Option.ite_none_right_eq_some.mp ordered
    have made := made.heed (.write throttle)
    have scale : (link.heed (.write throttle)).scale = .ofIdlePercent settings.idlePercent :=
      made.scale
    rw [← Option.some.inj same, Link.throttleValue]
    cases (link.heed (.write throttle)).state with
    | armedActive => exact ⟨_, .active throttle, by rw [scale]⟩
    | armedZero | disarmed => exact ⟨_, .zero throttle, by rw [idleValue, made.settings]⟩

namespace LinkSettings.Gives

variable {settings : LinkSettings} {config : Config} {call : Call} {number : Nat}

/-- Under checked settings a value has room in a frame, and is no throttle below the idle one. -/
theorem bounds (gives : Gives (.ofConfig config) call number)
    (valid : config.validate = .ok config) :
    number ≤ ThrottleScale.maxCode ∧ (number ≤ Command.maxCode ∨ config.minCode ≤ number) := by
  cases gives with
  -- The idle value was checked against the same scale that throttles are sent on.
  | rest | zero => exact ⟨Config.idleCode_le_of_validate valid, Config.idleCode_of_validate valid⟩
  | active throttle =>
    exact ⟨(ThrottleScale.encode_ofIdlePercent _ _).2, .inr (ThrottleScale.minCode_le_encode _ _)⟩
  | @special _ code =>
    have small : ThrottleScale.special code ≤ Command.maxCode := Nat.min_le_right _ _
    exact ⟨Nat.le_trans small (by decide), .inl small⟩

/-- A call that lets the motor rest has the idle value. -/
theorem of_isRest (gives : settings.Gives call number) (rests : call.isRest = true) :
    number = settings.idleCode.toNat := by
  -- A call that lets the motor rest is no throttle, and has no code of a command.
  cases gives with
  | rest => rfl
  | zero | active => cases rests
  | special coded =>
    have moves := Call.isRest_of_isGated (Call.isGated_of_code? coded)
    cases rests.symm.trans moves

/-- A throttle has the idle value or its own. -/
theorem of_write {throttle : Single} (gives : settings.Gives (.write throttle) number) :
    let scale := ThrottleScale.ofIdlePercent settings.idlePercent
    number = settings.idleCode.toNat ∨ number = scale.encode (Session.limitThrottle throttle) := by
  cases gives with
  | rest rests => cases rests
  | zero => exact .inl rfl
  | active => exact .inr rfl
  | special coded => cases coded

/-- What is neither rest nor a throttle has the value of its code. -/
theorem exists_code? (gives : settings.Gives call number) (moves : call.isRest = false)
    (unthrottled : call.throttle? = none) :
    ∃ code, call.code? = some code ∧ number = ThrottleScale.special code := by
  -- Of the four kinds of values two are those of throttles, and one is that of rest.
  cases gives with
  | rest rests => cases rests.symm.trans moves
  | zero | active => cases unthrottled
  | special coded => exact ⟨_, coded, rfl⟩

/-- A call that stands for a command has the value that sends the command. -/
theorem of_command {named : Command} (gives : settings.Gives call number)
    (moves : call.isRest = false) (unthrottled : call.throttle? = none)
    (stands : call.code? = named.code.toOption) : named.code = .ok number := by
  obtain ⟨code, coded, rfl⟩ := gives.exists_code? moves unthrottled
  rw [stands] at coded
  cases result : named.code with
  | error => rw [result] at coded; cases coded
  | ok other =>
    rw [result] at coded
    -- The code of a command is not too great for a special one.
    rw [← Option.some.inj coded, ThrottleScale.special, Nat.min_eq_left (Command.code_le result)]

/-- Only commands and calls that let the motor rest have a value. -/
theorem isGated_or_isRest (gives : settings.Gives call number) :
    call.isGated = true ∨ call.isRest = true := by
  cases gives with
  | rest rests => exact .inr rests
  | zero | active => exact .inl rfl
  | special coded => exact .inl (Call.isGated_of_code? coded)

end LinkSettings.Gives

namespace Step

variable {σ : Type}

/-- Under checked settings a frame can be read back, and has a value given for its call. -/
theorem frame_of_mem {config : Config} (valid : config.validate = .ok config) {step : Step σ}
    {hardware : Hardware σ} (made : step.before.link.MadeOf (.ofConfig config))
    (conduct : Conduct step.time step.before.link hardware step.call step.events step.after)
    {pulses : List Pulse} (sent : pulses ∈ step.frames) :
    ∃ number request, (LinkSettings.ofConfig config).Gives step.call number ∧
      Frame.ofPulses? pulses = some (.ofValue (BitVec.ofNat 11 number) request) := by
  -- There is no frame but the one of the order.
  rw [step.frames_eq conduct] at sent
  obtain ⟨order, ordered, rfl⟩ := List.mem_map.mp sent
  obtain ⟨number, gives, value⟩ := made.gives (Option.mem_toList.mp ordered)
  have legible : step.before.link.line.timing.Legible := by
    rw [made.line]
    exact Config.legible_line valid
  refine ⟨number, order.request, gives, ?_⟩
  rw [Order.pulses, legible.ofPulses?_pulses, Order.frame, value]

end Step

namespace Session

variable {σ : Type} (engine : Engine σ) (pool : Pool) (device : σ)

/--
Whatever a link with checked settings is asked, its frames keep to the scale of its throttles.

The idle value is that of a special command or one on the scale, so that no frame has a throttle
below the start of the scale.
A frame can be read back from its pulses, is valid, and has its number as the value, uncut.
That is the idle value or the throttle's own for a throttle, that of the command for a command, and
the idle value for a call that lets the motor rest; no other call has a frame sent.
-/
theorem frames_keep_to_scale {config : Config} (valid : config.validate = .ok config)
    (taken : List Turn) :
    let settings : LinkSettings := .ofConfig config
    let first : Session σ := ⟨.ofSettings settings, .fresh pool device⟩
    let scale := first.link.scale
    let idle := settings.idleCode.toNat
    (idle ≤ Command.maxCode ∨ scale.minCode ≤ idle) ∧
    ∀ step ∈ first.turns engine taken, ∀ pulses ∈ step.frames, ∃ frame number request,
      Frame.ofPulses? pulses = some frame ∧ frame.validPayload? = some frame.payload ∧
      frame = .ofValue (BitVec.ofNat 11 number) request ∧ frame.value.toNat = number ∧
      number ≤ ThrottleScale.maxCode ∧ (number ≤ Command.maxCode ∨ scale.minCode ≤ number) ∧
      (∀ throttle, step.call = .write throttle → number = idle ∨
        number = scale.encode (limitThrottle throttle) ∧ scale.minCode ≤ number) ∧
      (∀ code, step.call = .special code → number = min code Command.maxCode) ∧
      (∀ named, step.call = .command named → named.code = .ok number) ∧
      (∀ reversed, step.call = .direction reversed → (Command.reverse reversed).code = .ok number) ∧
      (step.call.isRest = true → number = idle) ∧
      (step.call.isGated = true ∨ step.call.isRest = true) := by
  intro settings first scale idle
  refine ⟨Config.idleCode_of_validate valid, fun step listed pulses sent => ?_⟩
  -- What holds of a step is known from the run before it.
  obtain ⟨earlier, later, split⟩ := List.append_of_mem listed
  obtain ⟨before, turn, _, _, _, rfl⟩ := split_of_turns engine _ split
  obtain ⟨settled, made⟩ := settled_afterTurns engine settings pool device before
  have conduct := turn_conduct engine (first.afterTurns engine before) settled turn
  obtain ⟨number, request, gives, read⟩ := Step.frame_of_mem valid made conduct sent
  obtain ⟨small, apart⟩ := gives.bounds valid
  -- What is no greater than full throttle fits in the bits of a value.
  have uncut : (BitVec.ofNat 11 number).toNat = number := by
    rw [ThrottleScale.maxCode] at small
    rw [BitVec.toNat_ofNat]
    exact Nat.mod_eq_of_lt (by omega)
  refine ⟨_, number, request, read, ?_, rfl, ?_, small, apart, ?_, ?_, ?_, ?_, gives.of_isRest,
    gives.isGated_or_isRest⟩
  · rw [Checked.validPayload?, if_pos (Frame.isValid_ofValue _ _)]
  · rw [Frame.value_ofValue, uncut]
  · intro throttle writes
    rw [writes] at gives
    rcases gives.of_write with idles | own
    · exact .inl idles
    · exact .inr ⟨own, own ▸ ThrottleScale.minCode_le_encode _ _⟩
  · intro code asks
    rw [asks] at gives
    obtain ⟨_, coded, same⟩ := gives.exists_code? rfl rfl
    rw [same, ← Option.some.inj coded, ThrottleScale.special]
  · intro named asks
    rw [asks] at gives
    exact gives.of_command rfl rfl rfl
  · intro reversed asks
    rw [asks] at gives
    exact gives.of_command rfl rfl rfl

/-- With an idle of ten percent no frame of a whole run lies between the commands and the scale. -/
theorem frames_keep_to_scale_of_tenth :
    let config : Config := { motor := { idleCode := 0, idlePercent := .ofNat 10 } }
    let first : Session Script :=
      ⟨.ofSettings (.ofConfig config), .fresh (.ofSize 2) (.initial none)⟩
    let taken : List Turn := [⟨0, .start, .ofSize 2⟩, ⟨0, .arm true, .ofSize 2⟩,
      ⟨500, .write (.ofRatio false 1 2), .ofSize 2⟩, ⟨1000, .special 60, .ofSize 2⟩,
      ⟨1000, .stop, .ofSize 2⟩]
    let history := first.turns Script.engine taken
    config.validate = .ok config ∧ (history.flatMap Step.frames).length = 3 ∧
    ∀ step ∈ history, ∀ pulses ∈ step.frames, ∃ frame, Frame.ofPulses? pulses = some frame ∧
      (frame.value.toNat ≤ 47 ∨ 248 ≤ frame.value.toNat) := by
  intro config first taken history
  have valid : config.validate = .ok config :=
    Config.validate_eq_ok_iff.mpr (by decide +kernel)
  have start : first.link.scale.minCode = 248 := by decide +kernel
  refine ⟨valid, by decide +kernel, fun step listed pulses sent => ?_⟩
  obtain ⟨frame, number, _, read, _, _, value, _, apart, _⟩ :=
    (frames_keep_to_scale Script.engine (.ofSize 2) (.initial none) valid taken).2 step listed
      pulses sent
  -- The scale starts at 248, far above the last command.
  rw [start] at apart
  exact ⟨frame, read, by rw [value]; exact apart⟩

end Session

end MotorLink
