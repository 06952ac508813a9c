import MotorLink.Proofs.Engine.Simulator
import MotorLink.Proofs.Link.Run
import MotorLink.Proofs.Reply.Tolerance

/-! The simulated controller after any calls in any order: its state is what the calls came to. -/

namespace MotorLink

/-- A call on an engine, where a line goes by its clock and by whether it carries replies. -/
inductive EngineCall where
  | configureTransmit (channel : Channel) (clockHz : Nat) (bidirectional : Bool)
  | configureReceive (channel : Channel) (clockHz : Nat) (bidirectional : Bool)
  | deconfigure (channel : Channel)
  | transmit (channel : Channel) (pulses : List Pulse)
  | openWindow (channel : Channel)
  | poll (channel : Channel)
  | closeWindow (channel : Channel)

namespace Engine

variable {σ : Type} (engine : Engine σ)

/-- What a call on a device comes to, and the device after it. -/
def respond (device : σ) : EngineCall → Event × σ
  | .configureTransmit channel clockHz bidirectional =>
    let line := Line.forClock clockHz bidirectional
    let (outcome, after) := engine.configureTransmit device channel line
    (.configuredTransmit channel line outcome, after)
  | .configureReceive channel clockHz bidirectional =>
    let line := Line.forClock clockHz bidirectional
    let (outcome, after) := engine.configureReceive device channel line
    (.configuredReceive channel line outcome, after)
  | .deconfigure channel => (.deconfigured channel, engine.deconfigure device channel)
  | .transmit channel pulses =>
    let (outcome, after) := engine.transmit device channel pulses
    (.transmitted channel pulses outcome, after)
  | .openWindow channel =>
    let (outcome, after) := engine.openWindow device channel
    (.windowOpened channel outcome, after)
  | .poll channel =>
    let (capture, after) := engine.poll device channel
    (.polled channel capture, after)
  | .closeWindow channel => (.windowClosed channel, engine.closeWindow device channel)

/-- What calls on a device come to, each on the device that the one before it left. -/
def history : σ → List EngineCall → List Event
  | _, [] => []
  | device, call :: rest =>
    (engine.respond device call).1 :: history (engine.respond device call).2 rest

/-- Each call comes to one thing. -/
@[simp] theorem length_history (device : σ) (calls : List EngineCall) :
    (engine.history device calls).length = calls.length := by
  induction calls generalizing device with
  | nil => rfl
  | cons call rest ih => rw [history, List.length_cons, List.length_cons, ih]

/-- The device that calls leave. -/
def after : σ → List EngineCall → σ
  | device, [] => device
  | device, call :: rest => after (engine.respond device call).2 rest

end Engine

namespace Event

/-- Whether pulses were given to the engine and it took them. -/
def transmits : Event → Bool
  | .transmitted _ _ outcome => outcome.succeeded
  | _ => false

/-- The frame that the engine took, if there is one and it is valid. -/
def validFrame? : Event → Option Frame
  | .transmitted _ pulses (.ok ()) => (Frame.ofPulses? pulses).filter Checked.isValid
  | _ => none

/-- The throttle that a valid frame sets; other values are special commands. -/
def throttle? (event : Event) : Option Nat :=
  (event.validFrame?.map fun frame => frame.value.toNat).filter fun value =>
    value = 0 ∨ 48 ≤ value

/-- Whether a valid frame asks for telemetry. -/
def requests (event : Event) : Bool := event.validFrame?.any Frame.requestsTelemetry

/-- Whether a capture is handed out. -/
def delivers : Event → Bool
  | .polled _ capture => capture.isSome
  | _ => false

/-- Whether a reply is due: a request makes it so, and a capture that is handed out ends it. -/
def due? (event : Event) : Option Bool :=
  if event.requests then some true else if event.delivers then some false else none

/-- Nothing becomes due or ceases to be by an event that neither asks nor hands out. -/
theorem due?_eq_none_iff (event : Event) :
    event.due? = none ↔ event.requests = false ∧ event.delivers = false := by
  rw [due?]
  cases event.requests <;> cases event.delivers <;> simp

/-- Whether the window is open, from an event that opens or closes it. -/
def window? : Event → Option Bool
  | .windowOpened _ (.ok ()) => some true
  | .windowClosed _ => some false
  | _ => none

/-- How a channel is set up, from an event that changes it; none is for a set-up that is undone. -/
def setup? (channel : Channel) : Event → Option (Option ChannelSetup)
  | .configuredTransmit other line (.ok ()) =>
    if channel = other then some (some ⟨false, line⟩) else none
  | .configuredReceive other line (.ok ()) =>
    if channel = other then some (some ⟨true, line⟩) else none
  | .deconfigured other => if channel = other then some none else none
  | _ => none

/-- What the last of the events that tell something tells. -/
def latest {α : Type} (tells : Event → Option α) (history : List Event) : Option α :=
  (history.filterMap tells).getLast?

/-- An event that tells something is the last one to do so, and any other changes nothing. -/
theorem latest_concat {α : Type} (tells : Event → Option α) (history : List Event)
    (event : Event) :
    latest tells (history ++ [event]) = (tells event).or (latest tells history) := by
  cases told : tells event <;> simp [latest, List.filterMap_append, told]

/-- A throttle is zero or lies in the throttle range. -/
theorem range_of_throttle? {event : Event} {value : Nat} (told : event.throttle? = some value) :
    value = 0 ∨ 48 ≤ value ∧ value ≤ 2047 := by
  simp only [throttle?, Option.filter_eq_some_iff, Option.map_eq_some_iff, decide_eq_true_eq]
    at told
  obtain ⟨⟨frame, _, rfl⟩, sets⟩ := told
  -- Eleven bits hold no more than the greatest throttle.
  have fits := frame.value.isLt
  omega

/-- A valid frame leaves the throttle that its value sets, or the one before it. -/
theorem getD_throttle? {event : Event} {frame : Frame} (read : event.validFrame? = some frame)
    (code : Nat) : event.throttle?.getD code = Simulator.throttleAfter code frame.value := by
  rw [throttle?, read, Option.map_some, Simulator.throttleAfter]
  -- A value up to 47 other than zero is a command, and leaves the throttle alone.
  by_cases sets : frame.value.toNat = 0 ∨ 48 ≤ frame.value.toNat
  · have takes : ThrottleScale.leastCode ≤ frame.value.toNat ∨ frame.value.toNat = 0 := sets.symm
    rw [if_pos takes]
    simp [Option.filter, sets]
  · have special : ¬(ThrottleScale.leastCode ≤ frame.value.toNat ∨ frame.value.toNat = 0) :=
      fun takes => sets takes.symm
    rw [if_neg special]
    simp [Option.filter, sets]

end Event

namespace Simulator

/-- What can come of pulses on a channel, each case with all that is known in it. -/
inductive Sending (sim : Simulator) (channel : Channel) (pulses : List Pulse) :
    Outcome → Simulator → Prop
  | accepted {line : Line} {frame : Frame} (setup : sim.setup? channel = some ⟨false, line⟩)
    (legible : Frame.ofPulses? pulses = some frame) (valid : Checked.isValid frame = true) :
    Sending sim channel pulses (.ok ()) (sim.accept line frame)
  | garbled {line : Line} {frame : Frame} (setup : sim.setup? channel = some ⟨false, line⟩)
    (legible : Frame.ofPulses? pulses = some frame) (invalid : Checked.isValid frame = false) :
    Sending sim channel pulses (.ok ()) { sim with checksumErrors := sim.checksumErrors + 1 }
  | illegible {line : Line} (setup : sim.setup? channel = some ⟨false, line⟩)
    (count : pulses.length ≠ Frame.bitCount) :
    Sending sim channel pulses
      (.error (.rejected s!"{pulses.length} pulses, expected {Frame.bitCount}")) sim
  | unconfigured (setup : ∀ line, sim.setup? channel ≠ some ⟨false, line⟩) :
    Sending sim channel pulses (.error (.notConfigured channel)) sim

variable (sim : Simulator)

/-- Pulses on a channel come to one of these. -/
theorem transmit_sending (channel : Channel) (pulses : List Pulse) :
    sim.Sending channel pulses (sim.transmit channel pulses).1 (sim.transmit channel pulses).2 := by
  unfold transmit
  -- The channel is looked at first, then the number of pulses, then the checksum.
  split
  · next line setup =>
    split
    · next unread =>
      refine .illegible setup fun complete => ?_
      rw [Frame.ofPulses?, if_pos complete] at unread
      cases unread
    · next frame legible =>
      split
      · next valid => exact .accepted setup legible valid
      · next invalid => exact .garbled setup legible (by simpa using invalid)
  · next other => exact .unconfigured fun line setup => other line setup

/-- What a call does to the controller, told by what the call came to. -/
structure Moves (sim : Simulator) (event : Event) (after : Simulator) : Prop where
  counters : after.framesReceived + after.checksumErrors =
    sim.framesReceived + sim.checksumErrors + event.transmits.toNat
  throttle : after.throttleCode = event.throttle?.getD sim.throttleCode
  place : after.replyIndex = sim.replyIndex + event.requests.toNat
  setup : ∀ channel, after.setup? channel = (event.setup? channel).getD (sim.setup? channel)
  line : ∀ channel setup, event.setup? channel = some (some setup) →
    0 < setup.line.timing.replyBitTicks
  window : after.windowOpen = event.window?.getD sim.windowOpen
  asked : event.requests = true → ∃ channel pulses line,
    event = .transmitted channel pulses (.ok ()) ∧ sim.setup? channel = some ⟨false, line⟩ ∧
    after.pendingReply = some (LineCode.captureReply
      (Checked.ofPayload (after.reportAt sim.replyIndex)) line.timing.replyBitTicks)
  handedOut : event.delivers = true → after.pendingReply = none
  waits : event.due? = none → after.pendingReply = sim.pendingReply
  refused : event.succeeded = false → after = sim

/-- At every clock a reply bit lasts. -/
theorem replyBitTicks_forClock_pos (clockHz : Nat) (bidirectional : Bool) :
    0 < (Line.forClock clockHz bidirectional).timing.replyBitTicks := by
  simp only [Line.forClock, BitTiming.forClock, BitTiming.bitRate]
  omega

/-- An event that tells nothing leaves the controller as it is. -/
theorem Moves.refl {event : Event} (transmits : event.transmits = false)
    (frame : event.validFrame? = none) (setup : ∀ channel, event.setup? channel = none)
    (window : event.window? = none) (delivers : event.delivers = false) : sim.Moves event sim where
  counters := by simp [transmits]
  throttle := by simp [Event.throttle?, frame]
  place := by simp [Event.requests, frame]
  setup := by simp [setup]
  line channel made told := by simp [setup] at told
  window := by simp [window]
  asked asks := by simp [Event.requests, frame] at asks
  handedOut handed := by simp [delivers] at handed
  waits _ := rfl
  refused _ := rfl

/-- A channel is set up as the event tells, and nothing else happens. -/
theorem Moves.configure {event : Event} {channel : Nat} {line : Line} {receiver : Bool}
    (told : (event = .configuredTransmit channel line (.ok ()) ∧ receiver = false) ∨
      (event = .configuredReceive channel line (.ok ()) ∧ receiver = true))
    (lasts : 0 < line.timing.replyBitTicks) :
    sim.Moves event (sim.configure channel ⟨receiver, line⟩) := by
  obtain ⟨rfl, rfl⟩ | ⟨rfl, rfl⟩ := told
  all_goals exact {
    counters := rfl
    throttle := rfl
    place := rfl
    setup := fun other => by
      rw [setup?_configure, Event.setup?]
      split <;> rfl
    line := fun other setup told => by
      simp only [Event.setup?, Option.ite_none_right_eq_some, Option.some.injEq] at told
      obtain ⟨_, rfl⟩ := told
      exact lasts
    window := rfl
    asked := nofun
    handedOut := nofun
    waits := fun _ => rfl
    refused := nofun }

/-- A frame that is taken in does what its value and its request bit say. -/
theorem Moves.accept {channel : Nat} {pulses : List Pulse} {line : Line} {frame : Frame}
    (setup : sim.setup? channel = some ⟨false, line⟩)
    (legible : Frame.ofPulses? pulses = some frame) (valid : Checked.isValid frame = true) :
    sim.Moves (.transmitted channel pulses (.ok ())) (sim.accept line frame) := by
  have read : (Event.transmitted channel pulses (.ok ())).validFrame? = some frame := by
    simp [Event.validFrame?, legible, valid]
  have asks : (Event.transmitted channel pulses (.ok ())).requests = frame.requestsTelemetry := by
    simp [Event.requests, read]
  -- What the frame asks for is told by its request bit, and its value sets the throttle.
  refine ⟨?_, ?_, ?_, ?_, ?_, ?_, ?_, ?_, ?_, ?_⟩
  · simp [Event.transmits, Outcome.succeeded]
    omega
  · rw [throttleCode_accept, Event.getD_throttle? read]
  · simp [asks]
  · simp [setup?, Event.setup?]
  · simp [Event.setup?]
  · simp [Event.window?]
  · intro requested
    rw [asks] at requested
    exact ⟨channel, pulses, line, rfl, setup, sim.pendingReply_accept line requested⟩
  · intro handed
    cases handed
  · intro quiet
    refine sim.pendingReply_accept_of_unasked line ?_
    simpa [Event.due?, asks, Event.delivers] using quiet
  · intro failed
    cases failed

/-- Each call does what it came to. -/
theorem respond_moves (call : EngineCall) :
    sim.Moves (engine.respond sim call).1 (engine.respond sim call).2 := by
  cases call with
  | configureTransmit channel clockHz bidirectional =>
    dsimp only [Engine.respond, engine, configureTransmit]
    split
    · exact .refl _ rfl rfl (fun _ => rfl) rfl rfl
    · exact .configure sim (.inl ⟨rfl, rfl⟩) (replyBitTicks_forClock_pos ..)
  | configureReceive channel clockHz bidirectional =>
    dsimp only [Engine.respond, engine, configureReceive]
    split
    · exact .configure sim (.inr ⟨rfl, rfl⟩) (replyBitTicks_forClock_pos ..)
    · exact .refl _ rfl rfl (fun _ => rfl) rfl rfl
  | deconfigure channel =>
    refine ⟨rfl, rfl, rfl, fun other => ?_, fun other setup told => ?_, rfl, nofun, nofun,
      fun _ => rfl, nofun⟩
    · show (sim.deconfigure channel).setup? other = _
      rw [setup?_deconfigure, Engine.respond, Event.setup?]
      split <;> rfl
    · simp [Engine.respond, Event.setup?] at told
  | transmit channel pulses =>
    dsimp only [Engine.respond, engine]
    have sending := sim.transmit_sending channel pulses
    generalize sim.transmit channel pulses = result at sending
    obtain ⟨outcome, after⟩ := result
    cases sending with
    | accepted setup legible valid => exact .accept sim setup legible valid
    | garbled setup legible invalid =>
      have unread : (Event.transmitted channel pulses (.ok ())).validFrame? = none := by
        simp [Event.validFrame?, legible, invalid]
      have quiet : (Event.transmitted channel pulses (.ok ())).requests = false := by
        simp [Event.requests, unread]
      refine ⟨rfl, ?_, ?_, fun _ => rfl, nofun, rfl, ?_, nofun, fun _ => rfl, nofun⟩
      · simp [Event.throttle?, unread]
      · simp [quiet]
      · simp [quiet]
    | illegible | unconfigured => exact .refl _ rfl rfl (fun _ => rfl) rfl rfl
  | openWindow channel =>
    dsimp only [Engine.respond, engine, openWindow]
    split
    · exact ⟨rfl, rfl, rfl, fun _ => rfl, nofun, rfl, nofun, nofun, fun _ => rfl, nofun⟩
    · exact .refl _ rfl rfl (fun _ => rfl) rfl rfl
  | poll channel =>
    dsimp only [Engine.respond, engine, poll]
    split
    · refine ⟨rfl, rfl, rfl, fun _ => rfl, nofun, rfl, nofun, fun _ => rfl, fun waits => ?_, nofun⟩
      -- Taking a reply that is not there leaves none.
      cases pending : sim.pendingReply with
      | none => rfl
      | some _ => simp [Event.due?, Event.requests, Event.validFrame?, Event.delivers, pending] at waits
    · exact .refl _ rfl rfl (fun _ => rfl) rfl rfl
  | closeWindow channel =>
    exact ⟨rfl, rfl, rfl, fun _ => rfl, nofun, rfl, nofun, nofun, fun _ => rfl, nofun⟩

/-- What the controller reports on a request that comes after other events. -/
def reportOn (earlier : List Event) (request : Event) : BitVec 12 :=
  let throttle := (Event.latest Event.throttle? (earlier ++ [request])).getD 0
  { initial with throttleCode := throttle }.reportAt (earlier.countP Event.requests)

/-- A capture is the reply to the latest request of a history, which has had none yet. -/
inductive Awaits : List Event → Capture → Prop
  | intro {earlier since : List Event} {channel : Channel} {pulses : List Pulse} {line : Line}
    (requests : (Event.transmitted channel pulses (.ok ())).requests = true)
    (setup : Event.latest (Event.setup? channel) earlier = some (some ⟨false, line⟩))
    (lasts : 0 < line.timing.replyBitTicks) (quiet : ∀ event ∈ since, event.due? = none) :
    Awaits (earlier ++ .transmitted channel pulses (.ok ()) :: since)
      (LineCode.captureReply
        (Checked.ofPayload (reportOn earlier (.transmitted channel pulses (.ok ()))))
        line.timing.replyBitTicks)

/-- A reply goes on waiting while nothing is asked for or handed out. -/
theorem Awaits.concat {history : List Event} {capture : Capture} {event : Event}
    (awaits : Awaits history capture) (quiet : event.due? = none) :
    Awaits (history ++ [event]) capture := by
  cases awaits with
  | intro requests setup lasts since =>
    rw [List.append_assoc, List.cons_append]
    -- The request stays where it is; the new event joins those that came since.
    refine .intro requests setup lasts fun other listed => ?_
    rcases List.mem_append.mp listed with before | same
    · exact since other before
    · rw [List.mem_singleton.mp same]
      exact quiet

/-- The state of the controller is what a history came to. -/
structure Reflects (history : List Event) (sim : Simulator) : Prop where
  counters : sim.framesReceived + sim.checksumErrors = history.countP Event.transmits
  throttle : sim.throttleCode = (Event.latest Event.throttle? history).getD 0
  place : sim.replyIndex = history.countP Event.requests
  setup : ∀ channel, sim.setup? channel = (Event.latest (Event.setup? channel) history).join
  line : ∀ channel setup, sim.setup? channel = some setup → 0 < setup.line.timing.replyBitTicks
  window : sim.windowOpen = (Event.latest Event.window? history).getD false
  due : sim.pendingReply.isSome = (Event.latest Event.due? history).getD false
  awaits : ∀ capture, sim.pendingReply = some capture → Awaits history capture

/-- A controller that was just switched on reflects that nothing happened. -/
theorem Reflects.initial : Reflects [] initial where
  counters := rfl
  throttle := rfl
  place := rfl
  setup _ := rfl
  line := nofun
  window := rfl
  due := rfl
  awaits := nofun

/-- One more call leaves the throttle that the history came to. -/
theorem Reflects.throttle_concat {history : List Event} {sim after : Simulator} {event : Event}
    (reflects : Reflects history sim) (moves : sim.Moves event after) :
    after.throttleCode = (Event.latest Event.throttle? (history ++ [event])).getD 0 := by
  rw [moves.throttle, reflects.throttle, Event.latest_concat, Option.getD_or]

/-- One more call leaves the reply that is due: a new one, none any more, or that of before. -/
theorem Reflects.pending_concat {history : List Event} {sim after : Simulator} {event : Event}
    (reflects : Reflects history sim) (moves : sim.Moves event after) :
    after.pendingReply.isSome = (Event.latest Event.due? (history ++ [event])).getD false ∧
      ∀ capture, after.pendingReply = some capture → Awaits (history ++ [event]) capture := by
  rw [Event.latest_concat]
  cases asks : event.requests with
  | true =>
    have due : event.due? = some true := by simp [Event.due?, asks]
    have throttle := reflects.throttle_concat moves
    obtain ⟨channel, pulses, line, rfl, setup, reply⟩ := moves.asked asks
    -- The report is the one that the history alone would have the controller make.
    have report : after.reportAt sim.replyIndex =
        reportOn history (.transmitted channel pulses (.ok ())) := by
      rw [reflects.place]
      exact reportAt_congr throttle _
    have lasts := reflects.line channel _ setup
    rw [reflects.setup, Option.join_eq_some_iff] at setup
    rw [reply, due, report]
    refine ⟨rfl, fun capture same => ?_⟩
    rw [← Option.some.inj same]
    exact .intro asks setup lasts nofun
  | false =>
    cases handed : event.delivers with
    | true =>
      have due : event.due? = some false := by simp [Event.due?, asks, handed]
      rw [moves.handedOut handed, due]
      exact ⟨rfl, nofun⟩
    | false =>
      have quiet : event.due? = none := event.due?_eq_none_iff.mpr ⟨asks, handed⟩
      rw [moves.waits quiet, quiet]
      exact ⟨reflects.due, fun capture waits => (reflects.awaits capture waits).concat quiet⟩

/-- What one call does keeps the state what the history came to. -/
theorem Reflects.concat {history : List Event} {sim after : Simulator} {event : Event}
    (reflects : Reflects history sim) (moves : sim.Moves event after) :
    Reflects (history ++ [event]) after := by
  obtain ⟨due, awaits⟩ := reflects.pending_concat moves
  refine ⟨?_, reflects.throttle_concat moves, ?_, ?_, ?_, ?_, due, awaits⟩
  · rw [moves.counters, reflects.counters, List.countP_append, List.countP_singleton]
    cases event.transmits <;> rfl
  · rw [moves.place, reflects.place, List.countP_append, List.countP_singleton]
    cases event.requests <;> rfl
  · intro channel
    rw [moves.setup, reflects.setup, Event.latest_concat]
    cases event.setup? channel <;> rfl
  · -- The line of a channel is that of its new set-up or of the one before.
    intro channel setup found
    rw [moves.setup] at found
    cases told : event.setup? channel with
    | none => exact reflects.line channel setup (by rwa [told] at found)
    | some made =>
      rw [told, Option.getD_some] at found
      exact moves.line channel setup (by rw [told, found])
  · rw [moves.window, reflects.window, Event.latest_concat, Option.getD_or]

/-- After any calls the state of the controller is what they came to. -/
theorem Reflects.run {history : List Event} {sim : Simulator} (reflects : Reflects history sim)
    (calls : List EngineCall) :
    Reflects (history ++ engine.history sim calls) (engine.after sim calls) := by
  -- The rest of the calls goes on from what the first one leaves.
  induction calls generalizing history sim with
  | nil => simpa [Engine.history, Engine.after] using reflects
  | cons call rest ih =>
    have onward := ih (reflects.concat (sim.respond_moves call))
    rwa [List.append_assoc] at onward

/--
It takes more calls than a machine word counts to bring any counter to the limit of one.

Up to there it makes no difference whether the counters wrap.
-/
theorem counters_lt {calls : List EngineCall} (few : calls.length < UInt64.size) :
    let device := engine.after initial calls
    device.framesReceived < UInt64.size ∧ device.checksumErrors < UInt64.size ∧
      device.replyIndex < UInt64.size := by
  intro device
  have reflects : Reflects (engine.history initial calls) device := Reflects.initial.run calls
  -- Every call adds one event, and an event counts once at most.
  have taken : device.framesReceived + device.checksumErrors ≤ calls.length := by
    rw [reflects.counters, ← engine.length_history initial calls]
    exact List.countP_le_length
  have asked : device.replyIndex ≤ calls.length := by
    rw [reflects.place, ← engine.length_history initial calls]
    exact List.countP_le_length
  exact ⟨by omega, by omega, by omega⟩

/-- The kinds of successive replies, over and over. -/
def kindCycle : List ReadingKind := [.erpm, .temperature, .erpm, .voltage, .erpm, .current]

/-- A report on a request is of the kind that is next in the cycle. -/
theorem kind_classify_reportOn (earlier : List Event) (request : Event) (checksum : Nat) :
    (Reading.classify (reportOn earlier request) checksum).kind =
      kindCycle.getD (earlier.countP Event.requests % 6) .erpm := by
  have kinds : kindCycle = replyCycle.map kindOf := rfl
  -- A place past the end of the cycle would be a motor period on both sides.
  rw [kinds, List.getD_eq_getElem?_getD, List.getElem?_map,
    show ReadingKind.erpm = kindOf none from rfl, Option.getD_map, ← List.getD_eq_getElem?_getD]
  exact kind_classify_payload_eq _ _ _

/-- A reply decodes at the rate of the line of its request, to the report that was due on it. -/
theorem Awaits.answers {history : List Event} {capture : Capture}
    (awaits : Awaits history capture) :
    ∃ earlier since channel pulses line reading,
      history = earlier ++ .transmitted channel pulses (.ok ()) :: since ∧
      (Event.transmitted channel pulses (.ok ())).requests = true ∧
      (∀ event ∈ since, event.requests = false ∧ event.delivers = false) ∧
      Event.latest (Event.setup? channel) earlier = some (some ⟨false, line⟩) ∧
      Reading.ofCapture capture line.timing.replyBitTicks = .ok reading ∧
      reading.payload = reportOn earlier (.transmitted channel pulses (.ok ())) ∧
      reading.kind = kindCycle.getD (earlier.countP Event.requests % 6) .erpm := by
  -- The reply was coded at the rate of the line that its request came in on.
  cases awaits with
  | @intro earlier since channel pulses line requests setup lasts quiet =>
    refine ⟨earlier, since, channel, pulses, line, _, rfl, requests, fun event listed => ?_, setup,
      Reading.ofCapture_captureReply _ lasts, Reading.payload_classify .., kind_classify_reportOn ..⟩
    exact event.due?_eq_none_iff.mp (quiet event listed)

namespace Reflects

variable {history : List Event} {sim : Simulator} (reflects : Reflects history sim)
include reflects

/-- The throttle is always one that a frame may set. -/
theorem throttle_range : sim.throttleCode = 0 ∨ 48 ≤ sim.throttleCode ∧ sim.throttleCode ≤ 2047 := by
  rw [reflects.throttle]
  -- The throttle is that of the last frame that sets one, or the first of all.
  cases told : Event.latest Event.throttle? history with
  | none => exact .inl rfl
  | some value =>
    obtain ⟨event, _, tells⟩ := List.mem_filterMap.mp (List.mem_of_getLast? told)
    exact Event.range_of_throttle? tells

/-- A channel is set up as the last event tells that changed its set-up. -/
theorem setup?_eq_some_iff (channel : Nat) (setup : ChannelSetup) :
    sim.setup? channel = some setup ↔
      Event.latest (Event.setup? channel) history = some (some setup) := by
  rw [reflects.setup, Option.join_eq_some_iff]

/-- Pulses are refused on a channel that is not set up to transmit, then for their number. -/
theorem transmit_answers (channel : Nat) (pulses : List Pulse) :
    let answer := (sim.transmit channel pulses).1
    let configured :=
      ∃ line, Event.latest (Event.setup? channel) history = some (some ⟨false, line⟩)
    (answer = .error (.notConfigured channel) ↔ ¬configured) ∧
    (answer = .error (.rejected s!"{pulses.length} pulses, expected 16") ↔
      configured ∧ pulses.length ≠ 16) ∧
    (answer = .ok () ↔ configured ∧ pulses.length = 16) := by
  intro answer configured
  have known : configured ↔ ∃ line, sim.setup? channel = some ⟨false, line⟩ :=
    exists_congr fun line => (reflects.setup?_eq_some_iff channel _).symm
  have complete {frame : Frame} (legible : Frame.ofPulses? pulses = some frame) :
      pulses.length = 16 := by
    by_contra other
    have other : pulses.length ≠ Frame.bitCount := other
    rw [Frame.ofPulses?, if_neg other] at legible
    cases legible
  rw [known]
  have sending := sim.transmit_sending channel pulses
  -- In each case of sending, all three sides of the question are settled.
  generalize (sim.transmit channel pulses).2 = after at sending
  have same : answer = (sim.transmit channel pulses).1 := rfl
  rw [← same] at sending
  clear_value answer
  cases sending with
  | accepted setup legible | garbled setup legible =>
    simp [setup, complete legible]
  | illegible setup count =>
    have count : pulses.length ≠ 16 := count
    have wording : s!"{pulses.length} pulses, expected {Frame.bitCount}" =
        s!"{pulses.length} pulses, expected 16" := String.append_assoc ..
    rw [wording]
    simp [setup, count]
  | unconfigured setup => simp [setup]

/-- Asking for a capture succeeds while the window is open and a reply is due. -/
theorem isSome_poll_iff (channel : Nat) :
    (sim.poll channel).1.isSome = true ↔
      Event.latest Event.window? history = some true ∧
      Event.latest Event.due? history = some true := by
  have opened : sim.windowOpen = true ↔ Event.latest Event.window? history = some true := by
    rw [reflects.window]
    cases Event.latest Event.window? history <;> simp
  have due : sim.pendingReply.isSome = true ↔ Event.latest Event.due? history = some true := by
    rw [reflects.due]
    cases Event.latest Event.due? history <;> simp
  -- Both must hold at once, in whatever order the calls came.
  rw [← opened, ← due, poll]
  cases sim.windowOpen <;> simp

end Reflects

/--
After any calls, the simulated controller is in the state that the calls came to.

Its counters add up to the pulses it took, and its throttle is that of the last frame that sets one.
It refuses pulses on a channel whose last change of set-up was not to transmit, then pulses of a
wrong number; a refusal changes nothing, and a wrong checksum is only counted.
A capture is handed out while the window is open and a reply is due; it answers the latest request,
which nothing was handed out for before, and reads as the report at the throttle of that request, of
the kind that the cycle of replies had reached.
-/
theorem calls_reflected (calls : List EngineCall) :
    let history := engine.history initial calls
    let device := engine.after initial calls
    device.framesReceived + device.checksumErrors = history.countP Event.transmits ∧
    device.throttleCode = (Event.latest Event.throttle? history).getD 0 ∧
    (device.throttleCode = 0 ∨ 48 ≤ device.throttleCode ∧ device.throttleCode ≤ 2047) ∧
    (∀ channel pulses,
      let answer := (device.transmit channel pulses).1
      let configured :=
        ∃ line, Event.latest (Event.setup? channel) history = some (some ⟨false, line⟩)
      (answer = .error (.notConfigured channel) ↔ ¬configured) ∧
      (answer = .error (.rejected s!"{pulses.length} pulses, expected 16") ↔
        configured ∧ pulses.length ≠ 16) ∧
      (answer = .ok () ↔ configured ∧ pulses.length = 16) ∧
      ∀ frame, configured → Frame.ofPulses? pulses = some frame → Checked.isValid frame = false →
        (device.transmit channel pulses).2 =
          { device with checksumErrors := device.checksumErrors + 1 }) ∧
    (∀ call, (engine.respond device call).1.succeeded = false →
      (engine.respond device call).2 = device) ∧
    (∀ channel, (device.poll channel).1.isSome = true ↔
      Event.latest Event.window? history = some true ∧
      Event.latest Event.due? history = some true) ∧
    (∀ asked capture, (device.poll asked).1 = some capture →
      ∃ earlier since channel pulses line reading,
        history = earlier ++ .transmitted channel pulses (.ok ()) :: since ∧
        (Event.transmitted channel pulses (.ok ())).requests = true ∧
        (∀ event ∈ since, event.requests = false ∧ event.delivers = false) ∧
        Event.latest (Event.setup? channel) earlier = some (some ⟨false, line⟩) ∧
        Reading.ofCapture capture line.timing.replyBitTicks = .ok reading ∧
        reading.payload = reportOn earlier (.transmitted channel pulses (.ok ())) ∧
        reading.kind = kindCycle.getD (earlier.countP Event.requests % 6) .erpm) := by
  intro history device
  have reflects : Reflects history device := Reflects.initial.run calls
  refine ⟨reflects.counters, reflects.throttle, reflects.throttle_range, ?_,
    fun call => (device.respond_moves call).refused, reflects.isSome_poll_iff, ?_⟩
  · intro channel pulses
    obtain ⟨unset, rejected, sent⟩ := reflects.transmit_answers channel pulses
    refine ⟨unset, rejected, sent, ?_⟩
    rintro frame ⟨line, latest⟩ legible invalid
    have setup := (reflects.setup?_eq_some_iff channel _).mpr latest
    simp [transmit, setup, legible, invalid]
  · intro asked capture handed
    refine (reflects.awaits capture ?_).answers
    -- What is handed out is the reply that waits.
    unfold poll at handed
    split at handed
    · exact handed
    · cases handed

end Simulator

end MotorLink
