import MotorLink.Proofs.Link.Orders
import MotorLink.Proofs.Link.Session

/-! Intents: what a call has a link remember and send, whatever the hardware then makes of it. -/

namespace MotorLink

/-- The reading that a use of the hardware brought, at a number of ticks for each bit. -/
def Event.reading? (bitTicks : Nat) : Event → Option Reading
  | .polled _ (some capture) => Reading.ofCapture? capture bitTicks
  | _ => none

namespace Call

/-- Whether a call asks for a frame that has to wait its turn. -/
def isGated : Call → Bool
  | .write _ | .special _ | .direction _ => true
  | .command named => named.code.isOk
  | _ => false

/-- Whether a call lets the motor of a running link rest. -/
def isRest : Call → Bool
  | .stop | .discard | .arm false => true
  | _ => false

/-- The throttle between zero and one that a call sets, if it sets one. -/
def throttle? : Call → Option Single
  | .write throttle => some (Session.limitThrottle throttle)
  | _ => none

/-- The code of the special command that a call asks for, if there is one. -/
def code? : Call → Option Nat
  | .special code => some code
  | .command named => named.code.toOption
  | .direction reversed => (Command.reverse reversed).code.toOption
  | _ => none

/-- A special command has to wait its turn. -/
theorem isGated_of_code? {call : Call} {code : Nat} (coded : call.code? = some code) :
    call.isGated = true := by
  cases call with
  | special | direction => rfl
  | command named =>
    -- Only a command that has a code is sent at all.
    rcases result : named.code with error | code
    · simp [code?, result, Except.toOption] at coded
    · simp [isGated, result, Except.isOk, Except.toBool]
  | start | stop | arm | write | setRate | setPolePairs | read | discard => cases coded

end Call

namespace Link

/-- What a link has sent to let the motor rest. -/
def idleOrder (link : Link) : Order := ⟨link.idleValue, false⟩

/-- Whether a command would be sent at a time. -/
def isDue (link : Link) (now : Nat) : Bool := link.isReady && decide (link.nextDue ≤ now)

/-- What a call has a link remember, even where nothing is sent. -/
def heed (link : Link) : Call → Link
  | .arm true => if link.state = .disarmed then { link with state := .armedZero } else link
  | .arm false => { link with state := .disarmed }
  | .write throttle =>
    -- Only a link that may send follows the throttle.
    if link.isReady then
      { link with state := link.state.afterThrottle (Session.limitThrottle throttle) }
    else link
  | .setRate rateHz => link.setRate rateHz
  | .setPolePairs polePairs => link.setPolePairs polePairs
  | .read => link.read.2
  | .start | .stop | .discard | .special _ | .command _ | .direction _ => link

/-- The order of a special command by its code. -/
def specialOrder (code : Nat) : Order := ⟨BitVec.ofNat 11 (ThrottleScale.special code), false⟩

/-- The order that a call has a link send at a time, if it has it send one. -/
def order? (link : Link) (now : Nat) (call : Call) : Option Order :=
  match call with
  | .stop | .discard | .arm false => if link.initialized then some link.idleOrder else none
  | .write throttle =>
    -- The value is that of the state which the throttle itself leads to.
    let value := (link.heed (.write throttle)).throttleValue (Session.limitThrottle throttle)
    if link.isDue now then some ⟨value, link.countRequest.1⟩ else none
  | .special _ | .command _ | .direction _ =>
    if link.isDue now then call.code?.map specialOrder else none
  | .start | .arm true | .setRate _ | .setPolePairs _ | .read => none

/-- The link that has an order of a call sent: the wait starts anew, and throttles are counted. -/
def ahead (link : Link) (now : Nat) (call : Call) : Link :=
  let waiting := (link.heed call).restartGate now
  match call with
  | .write _ => waiting.countRequest.2
  | _ => waiting

/-- A link that heeds a call changes at most its state, its pace, its pole pairs and its cache. -/
theorem heed_eq (link : Link) (call : Call) :
    ∃ state period polePairs cache,
      link.heed call = { link with state, period, polePairs, cache } := by
  -- Arming and throttles may leave the link as it is.
  cases call with
  | arm on =>
    cases on with
    | true =>
      rw [heed]
      split <;> exact ⟨_, _, _, _, rfl⟩
    | false => exact ⟨_, _, _, _, rfl⟩
  | write =>
    rw [heed]
    split <;> exact ⟨_, _, _, _, rfl⟩
  | start | stop | special | command | direction | setRate | setPolePairs | read | discard =>
    exact ⟨_, _, _, _, rfl⟩

/-- A special command changes nothing but the wait, and has the value of its code sent. -/
theorem intent_of_code? (link : Link) (now : Nat) {call : Call} {code : Nat}
    (coded : call.code? = some code) :
    link.heed call = link ∧ link.ahead now call = link.restartGate now ∧
      link.order? now call = if link.isDue now then some (specialOrder code) else none := by
  -- Only the three calls that may have a code are left.
  cases call with
  | special | command | direction => exact ⟨rfl, rfl, by rw [order?, coded, Option.map_some]⟩
  | start | stop | arm | write | setRate | setPolePairs | read | discard => cases coded

/-- A throttle that is due has the value sent that it leads to, and is counted for it. -/
theorem order?_of_throttle? {link : Link} {now : Nat} {call : Call} {throttle : Single}
    (sets : call.throttle? = some throttle) : link.order? now call =
      if link.isDue now then some ⟨(link.heed call).throttleValue throttle, link.countRequest.1⟩
      else none := by
  -- Only a throttle sets one.
  cases call with
  | write => cases sets; rfl
  | start | stop | arm | special | command | direction | setRate | setPolePairs | read | discard =>
    cases sets

/-- A call that lets the motor rest has a running link send its order of rest. -/
theorem order?_of_isRest {link : Link} {now : Nat} {call : Call} (rests : call.isRest = true) :
    link.order? now call = if link.initialized then some link.idleOrder else none := by
  -- Disarming, an end and a discard are what lets the motor rest.
  cases call with
  | stop | discard => rfl
  | arm on =>
    cases on with
    | true => cases rests
    | false => rfl
  | start | write | special | command | direction | setRate | setPolePairs | read => cases rests

/-- An order sends the motor to rest, or it is that of a command which is due. -/
theorem order?_cases {link : Link} {now : Nat} {call : Call} {order : Order}
    (ordered : link.order? now call = some order) :
    (call.isRest = true ∧ link.initialized = true ∧ order = link.idleOrder) ∨
      link.isDue now = true ∧ call.isGated = true ∧
        (call.throttle? = none ∧ order.request = false ∨
          ∃ throttle, call.throttle? = some throttle ∧
            order = ⟨(link.heed call).throttleValue throttle, link.countRequest.1⟩) := by
  -- The order of a special command is that of its code, whichever call asks for it.
  have special {code : Option Nat} (coded : call.code? = code) (unthrottled : call.throttle? = none)
      (same : (if link.isDue now then code.map specialOrder else none) = some order) :
      link.isDue now = true ∧ call.isGated = true ∧
        (call.throttle? = none ∧ order.request = false ∨
          ∃ throttle, call.throttle? = some throttle ∧
            order = ⟨(link.heed call).throttleValue throttle, link.countRequest.1⟩) := by
    obtain ⟨due, same⟩ := Option.ite_none_right_eq_some.mp same
    obtain ⟨code, rfl, rfl⟩ := Option.map_eq_some_iff.mp same
    exact ⟨due, Call.isGated_of_code? coded, .inl ⟨unthrottled, rfl⟩⟩
  cases call with
  | start | setRate | setPolePairs | read => cases ordered
  | stop | discard =>
    obtain ⟨running, same⟩ := Option.ite_none_right_eq_some.mp ordered
    exact .inl ⟨rfl, running, (Option.some.inj same).symm⟩
  | arm on =>
    cases on with
    | true => cases ordered
    | false =>
      obtain ⟨running, same⟩ := Option.ite_none_right_eq_some.mp ordered
      exact .inl ⟨rfl, running, (Option.some.inj same).symm⟩
  | write throttle =>
    obtain ⟨due, same⟩ := Option.ite_none_right_eq_some.mp ordered
    exact .inr ⟨due, rfl, .inr ⟨_, rfl, (Option.some.inj same).symm⟩⟩
  | special | command | direction => exact .inr (special rfl rfl ordered)

/-- A call that has to wait its turn changes no more than the state of a link before it is sent. -/
theorem heed_of_isGated (link : Link) {call : Call} (gated : call.isGated = true) :
    (link.heed call).Paced link ∧ (link.heed call).period = link.period := by
  -- Only a throttle moves a link between its armed states.
  cases call with
  | write throttle =>
    rw [heed]
    split <;> exact ⟨⟨⟨rfl, rfl, rfl, rfl⟩, rfl, rfl, rfl⟩, rfl⟩
  | special | command | direction => exact ⟨⟨⟨rfl, rfl, rfl, rfl⟩, rfl, rfl, rfl⟩, rfl⟩
  | start | stop | arm | setRate | setPolePairs | read | discard => cases gated

/-- Sending restarts the wait and may count a throttle, and changes nothing else. -/
theorem ahead_eq (link : Link) (now : Nat) (call : Call) :
    ∃ count, link.ahead now call =
      { link.heed call with nextDue := now + (link.heed call).period, requestCount := count } := by
  unfold ahead
  split <;> exact ⟨_, rfl⟩

/-- A call that has waited its turn restarts the wait, and keeps what a link holds and knows. -/
theorem ahead_of_isGated (link : Link) (now : Nat) {call : Call} (gated : call.isGated = true) :
    (link.ahead now call).Paced link ∧ (link.ahead now call).nextDue = now + link.period ∧
      (link.ahead now call).period = link.period := by
  -- Heeding the call changes neither the period nor what the link holds.
  obtain ⟨paced, period⟩ := link.heed_of_isGated gated
  obtain ⟨count, ahead⟩ := link.ahead_eq now call
  rw [ahead, period]
  exact ⟨⟨⟨paced.settings, paced.line, paced.transmitter, paced.receiver⟩, paced.initialized,
    paced.polePairs, paced.cache⟩, rfl, rfl⟩

/-- Arming changes nothing but the state. -/
theorem heed_arm (link : Link) :
    (link.heed (.arm true)).Kin link ∧
      (link.heed (.arm true)).initialized = link.initialized ∧
      (link.heed (.arm true)).nextDue = link.nextDue ∧
      (link.heed (.arm true)).period = link.period := by
  rw [heed]
  split <;> exact ⟨⟨rfl, rfl, rfl, rfl⟩, rfl, rfl, rfl⟩

/-- The link after uses of the hardware that may have brought readings. -/
def hear (link : Link) (events : List Event) : Link :=
  { link with
    cache := (events.filterMap (Event.reading? link.line.timing.replyBitTicks)).foldl
      (fun cache reading => cache.update link.settings link.polePairs reading) link.cache }

/-- Uses of the hardware that bring no reading teach a link nothing. -/
theorem hear_of_silent {link : Link} {events : List Event}
    (silent : events.filterMap (Event.reading? link.line.timing.replyBitTicks) = []) :
    link.hear events = link := by
  rw [hear, silent]
  rfl

end Link

end MotorLink
