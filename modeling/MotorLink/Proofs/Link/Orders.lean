import MotorLink.Proofs.Engine.Simulator
import MotorLink.Proofs.Line.Timing
import MotorLink.Proofs.Link.Run

/-! Orders: what a link has the controller do, and what taking them in leaves on both sides. -/

namespace MotorLink

/-- What a frame was meant to say: a value, and whether telemetry is asked for in return. -/
structure Order where
  value : BitVec 11
  request : Bool
deriving DecidableEq, Repr

namespace Order

/-- The frame that carries an order. -/
def frame (order : Order) : Frame := .ofValue order.value order.request

/-- The pulses that send an order on a line. -/
def pulses (order : Order) (line : Line) : List Pulse := line.timing.pulses order.frame

/-- On a legible line different requests are told apart by the pulses. -/
theorem request_eq_of_pulses {line : Line} {first second : Order} (legible : line.timing.Legible)
    (same : first.pulses line = second.pulses line) : first.request = second.request := by
  -- Both frames are read off the same pulses.
  have frames : some first.frame = some second.frame := by
    rw [← legible.ofPulses?_pulses, ← legible.ofPulses?_pulses]
    exact congrArg Frame.ofPulses? same
  simpa [frame] using congrArg Frame.requestsTelemetry (Option.some.inj frames)

/-- At every clock different orders are sent as different pulses. -/
theorem eq_of_pulses {clockHz : Nat} {bidirectional : Bool} {first second : Order}
    (same : first.pulses (.forClock clockHz bidirectional) =
      second.pulses (.forClock clockHz bidirectional)) : first = second := by
  -- The frame shows both parts of the order that it was built from.
  have frames : first.frame = second.frame :=
    BitTiming.eq_of_pulses (Nat.ne_of_gt (BitTiming.zeroHigh_lt_oneHigh_forClock clockHz)) same
  have value : first.value = second.value := by
    simpa [frame] using congrArg Frame.value frames
  have request : first.request = second.request := by
    simpa [frame] using congrArg Frame.requestsTelemetry frames
  cases first
  cases second
  simp_all only

end Order

/-- The throttle that orders leave, each setting it anew unless it is a special command. -/
def throttleAfterAll (code : Nat) (orders : List Order) : Nat :=
  orders.foldl (fun code order => Simulator.throttleAfter code order.value) code

/-- The throttle that orders leave is the value of the last one that is zero or at least 48. -/
theorem throttleAfterAll_eq (code : Nat) (orders : List Order) :
    throttleAfterAll code orders =
      ((orders.map fun order => order.value.toNat).filter
        fun value => value = 0 ∨ 48 ≤ value).getLast?.getD code := by
  -- An order that sets the throttle takes the place of the code that later orders fall back to.
  induction orders generalizing code with
  | nil => rfl
  | cons order rest ih =>
    have tail := ih (Simulator.throttleAfter code order.value)
    unfold throttleAfterAll at tail ⊢
    rw [List.foldl_cons, tail, List.map_cons, List.filter_cons]
    unfold Simulator.throttleAfter ThrottleScale.leastCode
    by_cases sets : order.value.toNat = 0 ∨ 48 ≤ order.value.toNat
    · rw [if_pos sets.symm, if_pos (by simpa using sets), List.getLast?_cons, Option.getD_some]
    · rw [if_neg (by simpa [or_comm] using sets), if_neg (by simpa using sets)]

/-- The hardware after an order went out on a channel and was taken in. -/
def Hardware.afterOrder (hardware : Hardware Simulator) (line : Line) (channel : Channel)
    (order : Order) : Hardware Simulator :=
  { hardware with device := hardware.device.accept line order.frame }.record
    (.transmitted channel (order.pulses line) (.ok ()))

/-- Between two states of the hardware orders went out and came in, and nothing was refused. -/
structure Sends (line : Line) (before after : Hardware Simulator) (orders : List Order) : Prop where
  journal : ∃ events, after.journal = before.journal ++ events ∧
    (∀ event ∈ events, event.succeeded = true) ∧
    events.filterMap Event.pulses? = orders.map (·.pulses line)
  received : after.device.framesReceived = before.device.framesReceived + orders.length
  throttle : after.device.throttleCode = throttleAfterAll before.device.throttleCode orders
  errors : after.device.checksumErrors = before.device.checksumErrors

namespace Sends

variable {line : Line} {first second third : Hardware Simulator}

/-- Where nothing happens no order goes out. -/
theorem refl (line : Line) (hardware : Hardware Simulator) : Sends line hardware hardware [] :=
  ⟨⟨[], by simp, by simp, rfl⟩, rfl, rfl, rfl⟩

/-- Uses of the hardware that are carried out and put nothing on the line send no order. -/
theorem quiet {events : List Event} (journal : second.journal = first.journal ++ events)
    (passed : ∀ event ∈ events, event.succeeded = true ∧ event.pulses? = none)
    (received : second.device.framesReceived = first.device.framesReceived)
    (throttle : second.device.throttleCode = first.device.throttleCode)
    (errors : second.device.checksumErrors = first.device.checksumErrors) :
    Sends line first second [] := by
  refine ⟨⟨events, journal, fun event listed => (passed event listed).1, ?_⟩, received, throttle,
    errors⟩
  -- Where no use puts pulses on the line, none are found in the journal.
  exact List.filterMap_eq_nil_iff.mpr fun event listed => (passed event listed).2

/-- An order that is taken in goes out alone. -/
theorem one (hardware : Hardware Simulator) (channel : Nat) (order : Order) :
    Sends line hardware (hardware.afterOrder line channel order) [order] where
  journal := ⟨[.transmitted channel (order.pulses line) (.ok ())], rfl, by simp [Event.succeeded,
    Outcome.succeeded], rfl⟩
  received := Simulator.framesReceived_accept ..
  throttle := by
    have accepted := hardware.device.throttleCode_accept line order.frame
    rwa [Order.frame, Frame.value_ofValue] at accepted
  errors := Simulator.checksumErrors_accept ..

/-- Orders that go out one after the other go out in this order. -/
theorem trans {early late : List Order} (before : Sends line first second early)
    (after : Sends line second third late) : Sends line first third (early ++ late) := by
  -- Each account goes on where the one before it ends.
  obtain ⟨events, journal, passed, pulses⟩ := before.journal
  obtain ⟨more, longer, also, later⟩ := after.journal
  refine ⟨⟨events ++ more, by rw [longer, journal, List.append_assoc], ?_, ?_⟩, ?_, ?_, ?_⟩
  · intro event listed
    exact (List.mem_append.mp listed).elim (passed event) (also event)
  · rw [List.filterMap_append, pulses, later, List.map_append]
  · rw [after.received, before.received, List.length_append, Nat.add_assoc]
  · rw [after.throttle, before.throttle]
    exact (List.foldl_append ..).symm
  · rw [after.errors, before.errors]

/-- Whatever pulses were put on the line meanwhile are those of an order. -/
theorem exists_order_of_pulses {orders : List Order} {pulses : List Pulse}
    (sends : Sends line first second orders)
    (sent : pulses ∈ (second.journal.drop first.journal.length).filterMap Event.pulses?) :
    ∃ order ∈ orders, order.pulses line = pulses := by
  -- The events of the journal since then are those that the orders account for.
  obtain ⟨events, journal, _, ordered⟩ := sends.journal
  rwa [journal, List.drop_left, ordered, List.mem_map] at sent

end Sends

/-- Whether a call put a request for telemetry on the line. -/
def Step.asks {σ : Type} (line : Line) (step : Step σ) : Prop :=
  ∃ value, Order.pulses ⟨value, true⟩ line ∈ step.events.filterMap Event.pulses?

end MotorLink
