import MotorLink.Proofs.Link.Conduct
import MotorLink.Proofs.Link.Wiring

/-! Likeness: links with simulated controllers that differ in nothing but their channels. -/

namespace MotorLink

/-- A link but for the channels that it holds. -/
def Link.bare (link : Link) : Link := { link with transmitter := .empty, receiver := .empty }

/-- Of two leases that hold as much both hold nothing, or each of them a channel. -/
theorem Lease.cases_of_isHeld {first second : Lease} (same : first.isHeld = second.isHeld) :
    first = .empty ∧ second = .empty ∨
      ∃ one other, first = ⟨some one⟩ ∧ second = ⟨some other⟩ := by
  -- Two of the four cases would have one side hold a channel and the other nothing.
  obtain ⟨_ | one⟩ := first
  · obtain ⟨_ | other⟩ := second
    · exact .inl ⟨rfl, rfl⟩
    · cases same
  · obtain ⟨_ | other⟩ := second
    · cases same
    · exact .inr ⟨one, other, rfl, rfl⟩

/-- The channels that a link with settings takes when it starts. -/
def LinkSettings.channelCount (settings : LinkSettings) : Nat :=
  if settings.bidirectional then 2 else 1

namespace Simulator

variable {first second : Simulator}

/-- A controller but for the channels that reach it. -/
def bare (sim : Simulator) : Simulator := { sim with channels := [] }

/-- A frame does the same to a controller whichever channels reach it. -/
theorem bare_accept (sim : Simulator) (line : Line) (frame : Frame) :
    (sim.accept line frame).bare = sim.bare.accept line frame := by
  -- Whether a reply is made up depends on the frame, and what it says on the throttle alone.
  unfold accept
  dsimp only
  cases frame.requestsTelemetry <;> rfl

/-- Pulses come to the same on any channels that are set up to transmit on the same line. -/
theorem transmit_alike (same : first.bare = second.bare) {one other : Channel} {line : Line}
    (here : first.setup? one = some ⟨false, line⟩) (there : second.setup? other = some ⟨false, line⟩)
    (pulses : List Pulse) :
    (first.transmit one pulses).1 = (second.transmit other pulses).1 ∧
    (first.transmit one pulses).2.bare = (second.transmit other pulses).2.bare ∧
    (first.transmit one pulses).2.channels = first.channels ∧
    (second.transmit other pulses).2.channels = second.channels := by
  -- Both set-ups are known, so the pulses alone decide which of the three things happens.
  simp only [transmit, here, there]
  cases Frame.ofPulses? pulses with
  | none => exact ⟨rfl, same, rfl, rfl⟩
  | some frame =>
    dsimp only
    cases Checked.isValid frame with
    | true =>
      refine ⟨rfl, ?_, channels_accept .., channels_accept ..⟩
      show (first.accept line frame).bare = (second.accept line frame).bare
      rw [bare_accept, bare_accept, same]
    | false =>
      refine ⟨rfl, ?_, rfl, rfl⟩
      exact congrArg (fun sim => { sim with checksumErrors := sim.checksumErrors + 1 }) same

end Simulator

/-- Each channel that a link holds is set up in its controller as the link uses it. -/
structure Plugged (link : Link) (device : Simulator) : Prop where
  line : link.line = .forClock link.settings.clockHz.toNat link.settings.bidirectional
  sends : ∀ channel, link.transmitter = ⟨some channel⟩ →
    device.setup? channel = some ⟨false, link.line⟩
  hears : ∀ channel, link.receiver = ⟨some channel⟩ →
    device.setup? channel = some ⟨true, link.line⟩

namespace Plugged

variable {link other : Link} {device after : Simulator}

/-- What else a link and its controller know does not matter to how they are plugged together. -/
theorem congr (plugged : Plugged link device) (kin : other.Kin link)
    (channels : after.channels = device.channels) : Plugged other after where
  line := by rw [kin.line, kin.settings, plugged.line]
  -- The channel and the line are the same, and the controller keeps its set-ups.
  sends channel held := by
    rw [kin.transmitter] at held
    rw [kin.line, ← plugged.sends channel held]
    exact congrArg (List.lookup channel) channels
  hears channel held := by
    rw [kin.receiver] at held
    rw [kin.line, ← plugged.hears channel held]
    exact congrArg (List.lookup channel) channels

/-- A link that holds nothing needs nothing set up. -/
theorem of_empty (transmitter : link.transmitter = .empty) (receiver : link.receiver = .empty)
    (line : link.line = .forClock link.settings.clockHz.toNat link.settings.bidirectional) :
    Plugged link device := by
  -- No channel is held, so there is none that would have to be set up.
  refine ⟨line, fun channel held => ?_, fun channel held => ?_⟩
  · rw [transmitter] at held
    cases held
  · rw [receiver] at held
    cases held

end Plugged

/-- On a channel that is set up to receive, a link hears the pending reply if there is one. -/
theorem Session.collectTelemetry_of_setup {s : Session Simulator} {channel : Channel} {line : Line}
    (held : s.link.receiver = ⟨some channel⟩)
    (setup : s.hardware.device.setup? channel = some ⟨true, line⟩) :
    s.collectTelemetry Simulator.engine =
      ⟨s.link.hear [.polled channel s.hardware.device.pendingReply],
        s.hardware.afterUses { s.hardware.device with pendingReply := none, windowOpen := false }
          [.windowOpened channel (.ok ()), .polled channel s.hardware.device.pendingReply,
            .windowClosed channel]⟩ := by
  -- The window opens, what is pending is handed out, and the window closes again.
  simp only [Session.collectTelemetry, held, Hardware.openWindow, Simulator.engine,
    Simulator.openWindow_eq _ setup, Hardware.poll, Simulator.poll, if_true, Hardware.closeWindow,
    Simulator.closeWindow, Hardware.record, Hardware.afterUses]
  cases s.hardware.device.pendingReply with
  | none => simp [Link.hear_of_silent, Event.reading?]
  | some capture => simp [Session.absorb_eq _ _ channel]

namespace Hardware

/-- The frames that the engine was given to put on the line. -/
def frames {σ : Type} (hardware : Hardware σ) : List (List Pulse) :=
  hardware.journal.filterMap Event.pulses?

/-- The frames are those of the uses of the hardware. -/
theorem frames_afterUses {σ : Type} (hardware : Hardware σ) (device : σ) (events : List Event) :
    (hardware.afterUses device events).frames =
      hardware.frames ++ events.filterMap Event.pulses? :=
  List.filterMap_append ..

/-- Taking and setting up a channel sends no frame. -/
theorem frames_afterSetUp (hardware : Hardware Simulator) (pool : Pool) (channel : Channel)
    (setup : ChannelSetup) : (hardware.afterSetUp pool channel setup).frames = hardware.frames := by
  simp only [frames, afterSetUp, List.filterMap_append]
  cases setup.receiver <;> simp [Event.pulses?]

end Hardware

/-- What it comes to when a link with a simulated controller sets up channels that are there. -/
inductive SetsUp (link : Link) (hardware : Hardware Simulator) :
    Except LinkError Unit × Session Simulator → Prop
  | refused {after : Hardware Simulator} (stopped : link.line.clockHz = 0)
    (device : after.device = hardware.device) (frames : after.frames = hardware.frames) :
    SetsUp link hardware
      (.error (.hardwareConfig (.rejected "zero peripheral clock")), ⟨link, after⟩)
  | served {transmit : Channel} {receive : Option Channel} {after : Hardware Simulator}
    (running : link.line.clockHz ≠ 0) (complete : receive.isSome = link.settings.bidirectional)
    (bare : after.device.bare = hardware.device.bare) (frames : after.frames = hardware.frames)
    (plugged : Plugged { link with transmitter := ⟨some transmit⟩, receiver := ⟨receive⟩ }
      after.device) :
    SetsUp link hardware
      (.ok (), ⟨{ link with transmitter := ⟨some transmit⟩, receiver := ⟨receive⟩ }, after⟩)

/-- A channel to receive on is set up where one is free, beside the one to transmit on. -/
theorem Session.setUpReceiver_simulated {link : Link} {hardware : Hardware Simulator}
    {transmit : Channel} (empty : link.receiver = .empty) (replies : link.line.openDrain = true)
    (room : hardware.pool.countFree ≠ 0) (taken : hardware.pool.isTaken transmit = true) :
    ∃ receive pool, receive ≠ transmit ∧ setUpReceiver Simulator.engine ⟨link, hardware⟩ transmit =
      (.ok (), ⟨{ link with receiver := ⟨some receive⟩ },
        hardware.afterSetUp pool receive ⟨true, link.line⟩⟩) := by
  -- There is a free channel, and it is not the one that was taken before.
  rcases acquired : hardware.pool.acquireAny with ⟨_ | receive, pool⟩
  · exact absurd (Pool.acquireAny_eq_none_iff_countFree.mp (congrArg Prod.fst acquired)) room
  have apart : receive ≠ transmit := by
    rintro rfl
    rw [(Pool.handsOut acquired).free] at taken
    cases taken
  have configured : Hardware.configureReceive ⟨pool, hardware.device,
      hardware.journal ++ [.acquired receive]⟩ Simulator.engine receive link.line =
      (.ok (), hardware.afterSetUp pool receive ⟨true, link.line⟩) :=
    hardware.configureReceive_acquired pool receive replies
  refine ⟨receive, pool, apart, ?_⟩
  simp only [setUpReceiver, acquireReceiver_some empty acquired, configured]

/-- Where enough channels are free, only a clock that stands still keeps a link from its channels. -/
theorem Session.setUpChannels_simulated {link : Link} {hardware : Hardware Simulator}
    (transmitter : link.transmitter = .empty) (receiver : link.receiver = .empty)
    (line : link.line = .forClock link.settings.clockHz.toNat link.settings.bidirectional)
    (room : link.settings.channelCount ≤ hardware.pool.countFree) :
    SetsUp link hardware (setUpChannels Simulator.engine ⟨link, hardware⟩) := by
  -- A channel to transmit on is there; whether one to receive on is needed comes after that.
  have some_free : hardware.pool.countFree ≠ 0 := by
    unfold LinkSettings.channelCount at room
    split at room <;> omega
  rcases acquired : hardware.pool.acquireAny with ⟨_ | transmit, pool⟩
  · exact absurd (Pool.acquireAny_eq_none_iff_countFree.mp (congrArg Prod.fst acquired)) some_free
  have first := Pool.handsOut acquired
  have took := acquireTransmitter_some transmitter acquired
  by_cases stopped : link.line.clockHz = 0
  · -- The clock is looked at before anything is set up, and the channel goes back.
    have refused : setUpChannels Simulator.engine ⟨link, hardware⟩ =
        (.error (.hardwareConfig (.rejected "zero peripheral clock")),
          ⟨link, hardware.afterUses hardware.device [.acquired transmit,
            .configuredTransmit transmit link.line (.error (.rejected "zero peripheral clock")),
            .released transmit]⟩) := by
      simp only [setUpChannels, took, Hardware.configureTransmit, Simulator.engine,
        Simulator.configureTransmit, if_pos stopped, Hardware.record]
      rw [releaseTransmitter_some rfl]
      simp [first.back, ← transmitter, Hardware.afterUses]
    rw [refused]
    refine .refused stopped rfl ?_
    simp [Hardware.frames_afterUses, Event.pulses?]
  · let half : Link := { link with transmitter := ⟨some transmit⟩ }
    let setUp := hardware.afterSetUp pool transmit ⟨false, link.line⟩
    have configured : Hardware.configureTransmit ⟨pool, hardware.device,
        hardware.journal ++ [.acquired transmit]⟩ Simulator.engine transmit link.line =
        (.ok (), setUp) := hardware.configureTransmit_acquired pool transmit stopped
    have rest : setUpChannels Simulator.engine ⟨link, hardware⟩ =
        if link.settings.bidirectional then setUpReceiver Simulator.engine ⟨half, setUp⟩ transmit
        else (.ok (), ⟨half, setUp⟩) := by
      simp only [setUpChannels, took, configured, half]
    have sends : setUp.device.setup? transmit = some ⟨false, link.line⟩ := by
      rw [Hardware.setup?_afterSetUp, if_pos rfl]
    rw [rest]
    cases replies : link.settings.bidirectional with
    | false =>
      have done : half = { link with transmitter := ⟨some transmit⟩, receiver := ⟨none⟩ } := by
        simp [half, receiver, Lease.empty]
      rw [if_neg Bool.false_ne_true, done]
      refine .served stopped replies.symm rfl (Hardware.frames_afterSetUp ..) ⟨line, ?_, ?_⟩
      · rintro _ ⟨⟩
        exact sends
      · rintro _ ⟨⟩
    | true =>
      -- Of two free channels one is left when the first is taken.
      have more : pool.countFree ≠ 0 := by
        have left := first.countFree
        simp only [LinkSettings.channelCount, replies, if_true] at room
        omega
      have openDrain : link.line.openDrain = true := by rw [line, replies]; rfl
      have taken : pool.isTaken transmit = true := by simp [first.taken]
      have empty : half.receiver = .empty := receiver
      obtain ⟨receive, left, apart, done⟩ :
          ∃ receive left, receive ≠ transmit ∧
            setUpReceiver Simulator.engine ⟨half, setUp⟩ transmit =
              (.ok (), ⟨{ half with receiver := ⟨some receive⟩ },
                setUp.afterSetUp left receive ⟨true, link.line⟩⟩) :=
        setUpReceiver_simulated empty openDrain more taken
      rw [if_pos rfl, done]
      refine .served stopped replies.symm rfl ?_ ⟨line, ?_, ?_⟩
      · rw [Hardware.frames_afterSetUp, Hardware.frames_afterSetUp]
      · rintro _ ⟨⟩
        rw [Hardware.setup?_afterSetUp, if_neg apart.symm]
        exact sends
      · rintro _ ⟨⟩
        rw [Hardware.setup?_afterSetUp, if_pos rfl]

/-- Sending the motor to rest changes nothing of a link but the wait for the next frame. -/
theorem Session.link_sendIdle {σ : Type} (engine : Engine σ) (now : Nat) (s : Session σ) :
    (s.sendIdle engine now).link = s.link.restartGate now := by
  -- Whatever becomes of the frame, the link is not told.
  unfold sendIdle Session.transmit
  dsimp only
  split <;> rfl

/-- A controller is the same but for its channels when the set-up of some is undone. -/
theorem Simulator.bare_foldl_deconfigure (channels : List Channel) (sim : Simulator) :
    (channels.foldl Simulator.engine.deconfigure sim).bare = sim.bare := by
  -- Each step takes one more channel out, which is none of what is compared.
  induction channels generalizing sim with
  | nil => rfl
  | cons channel rest ih => exact ih (sim.deconfigure channel)

/-- Between two calls a link that is stopped finds as many free channels as it needs to start. -/
structure Roomy (s : Session Simulator) : Prop where
  settled : s.link.Settled
  room : s.link.initialized = false →
    s.link.settings.channelCount ≤ s.hardware.pool.countFree

/-- Two sessions that differ in nothing but their channels, and have given out the same frames. -/
structure Alike (s t : Session Simulator) : Prop where
  link : s.link.bare = t.link.bare
  transmitter : s.link.transmitter.isHeld = t.link.transmitter.isHeld
  receiver : s.link.receiver.isHeld = t.link.receiver.isHeld
  device : s.hardware.device.bare = t.hardware.device.bare
  frames : s.hardware.frames = t.hardware.frames
  left : Plugged s.link s.hardware.device
  right : Plugged t.link t.hardware.device

namespace Alike

variable {s t : Session Simulator}

/-- Both links are running, or neither is. -/
theorem initialized (alike : Alike s t) : s.link.initialized = t.link.initialized :=
  (congrArg Link.initialized alike.link :)

/-- Both links may send, or neither may. -/
theorem isReady (alike : Alike s t) : s.link.isReady = t.link.isReady :=
  (congrArg Link.isReady alike.link :)

/-- Both links have to wait, or both may send and the wait starts anew. -/
theorem passGate?_cases (alike : Alike s t) (now : Nat) :
    s.link.passGate? now = none ∧ t.link.passGate? now = none ∨
      s.link.passGate? now = some (s.link.restartGate now) ∧
        t.link.passGate? now = some (t.link.restartGate now) := by
  -- The gate looks at the clock of the link, and both links have the same.
  have due : s.link.nextDue = t.link.nextDue := (congrArg Link.nextDue alike.link :)
  unfold Link.passGate?
  rw [← due]
  split
  · exact .inl ⟨rfl, rfl⟩
  · exact .inr ⟨rfl, rfl⟩

/-- A change to both links that has nothing to do with their channels leaves them alike. -/
theorem relink (alike : Alike s t) (change : Link → Link)
    (blind : ∀ link, (change link).bare = change link.bare)
    (keeps : ∀ link, (change link).Kin link) :
    Alike { s with link := change s.link } { t with link := change t.link } where
  link := (blind s.link).trans ((congrArg change alike.link).trans (blind t.link).symm)
  transmitter := by
    rw [(keeps s.link).transmitter, (keeps t.link).transmitter, alike.transmitter]
  receiver := by rw [(keeps s.link).receiver, (keeps t.link).receiver, alike.receiver]
  device := alike.device
  frames := alike.frames
  left := alike.left.congr (keeps s.link) rfl
  right := alike.right.congr (keeps t.link) rfl

/-- The same frame goes out on both sides, or on neither. -/
theorem transmit (alike : Alike s t) (value : BitVec 11) (telemetry : Bool) :
    let first := s.transmit Simulator.engine value telemetry
    let second := t.transmit Simulator.engine value telemetry
    first.1 = second.1 ∧ Alike first.2 second.2 := by
  intro first second
  have line : s.link.line = t.link.line := (congrArg Link.line alike.link :)
  -- Without a channel nothing is sent on either side; with one, both controllers get the pulses.
  rcases Lease.cases_of_isHeld alike.transmitter with ⟨here, there⟩ | ⟨one, other, here, there⟩
  · have left : first = (false, s) := by simp only [first, Session.transmit, here, Lease.empty]
    have right : second = (false, t) := by simp only [second, Session.transmit, there, Lease.empty]
    rw [left, right]
    exact ⟨rfl, alike⟩
  · let pulses := s.link.line.timing.pulses (Frame.ofValue value telemetry)
    obtain ⟨outcome, device, kept, keptToo⟩ := Simulator.transmit_alike alike.device
      (alike.left.sends one here) (line ▸ alike.right.sends other there) pulses
    have left : first = ((s.hardware.device.transmit one pulses).1.succeeded,
        ⟨s.link, s.hardware.afterUses (s.hardware.device.transmit one pulses).2
          [.transmitted one pulses (s.hardware.device.transmit one pulses).1]⟩) := by
      simp only [first, Session.transmit, here]
      rfl
    have right : second = ((t.hardware.device.transmit other pulses).1.succeeded,
        ⟨t.link, t.hardware.afterUses (t.hardware.device.transmit other pulses).2
          [.transmitted other pulses (t.hardware.device.transmit other pulses).1]⟩) := by
      simp only [second, Session.transmit, there, ← line]
      rfl
    rw [left, right, outcome]
    refine ⟨rfl, alike.link, alike.transmitter, alike.receiver, device, ?_,
      alike.left.congr ⟨rfl, rfl, rfl, rfl⟩ kept, alike.right.congr ⟨rfl, rfl, rfl, rfl⟩ keptToo⟩
    simp only [Hardware.frames_afterUses, alike.frames]
    rfl

/-- The same reply is heard on both sides. -/
theorem collectTelemetry (alike : Alike s t) :
    Alike (s.collectTelemetry Simulator.engine) (t.collectTelemetry Simulator.engine) := by
  -- Without a channel nothing is heard on either side; with one, both hear what is pending.
  rcases Lease.cases_of_isHeld alike.receiver with ⟨here, there⟩ | ⟨one, other, here, there⟩
  · have left : s.collectTelemetry Simulator.engine = s := by
      simp only [Session.collectTelemetry, here, Lease.empty]
    have right : t.collectTelemetry Simulator.engine = t := by
      simp only [Session.collectTelemetry, there, Lease.empty]
    rw [left, right]
    exact alike
  · have pending : s.hardware.device.pendingReply = t.hardware.device.pendingReply :=
      (congrArg Simulator.pendingReply alike.device :)
    rw [Session.collectTelemetry_of_setup here (alike.left.hears one here),
      Session.collectTelemetry_of_setup there (alike.right.hears other there), pending]
    -- What a link hears does not depend on the channel that it comes in on.
    have renamed : s.link.hear [.polled one t.hardware.device.pendingReply] =
        s.link.hear [.polled other t.hardware.device.pendingReply] := by
      cases t.hardware.device.pendingReply <;> rfl
    have heard := alike.relink (·.hear [.polled other t.hardware.device.pendingReply])
      (fun _ => rfl) (fun _ => ⟨rfl, rfl, rfl, rfl⟩)
    rw [renamed]
    refine ⟨heard.link, heard.transmitter, heard.receiver, ?_, ?_,
      heard.left.congr ⟨rfl, rfl, rfl, rfl⟩ rfl, heard.right.congr ⟨rfl, rfl, rfl, rfl⟩ rfl⟩
    · exact (congrArg (fun sim => { sim with pendingReply := none, windowOpen := false })
        alike.device :)
    · simp only [Hardware.frames_afterUses, alike.frames]
      rfl

/-- The wait for the next frame starts anew on both sides when the motor is sent to rest. -/
theorem sendIdle (alike : Alike s t) (now : Nat) :
    Alike (s.sendIdle Simulator.engine now) (t.sendIdle Simulator.engine now) := by
  -- The idle value is made from the settings, which are the same on both sides.
  have waiting := alike.relink (·.restartGate now) (fun _ => rfl) (fun _ => ⟨rfl, rfl, rfl, rfl⟩)
  have idle : (s.link.restartGate now).idleValue = (t.link.restartGate now).idleValue :=
    (congrArg (fun link => (link.restartGate now).idleValue) alike.link :)
  rw [Session.sendIdle, Session.sendIdle, ← idle]
  exact (waiting.transmit _ false).2

/-- Arming does the same on both sides. -/
theorem arm (alike : Alike s t) : Alike s.arm t.arm := by
  -- Only a disarmed link changes, and both are in the same state.
  have state : s.link.state = t.link.state := (congrArg Link.state alike.link :)
  unfold Session.arm
  rw [← state]
  cases s.link.state with
  | disarmed =>
    exact alike.relink ({ · with state := .armedZero }) (fun _ => rfl)
      (fun _ => ⟨rfl, rfl, rfl, rfl⟩)
  | armedZero | armedActive => exact alike

/-- Disarming does the same on both sides. -/
theorem disarm (alike : Alike s t) (now : Nat) :
    Alike (s.disarm Simulator.engine now) (t.disarm Simulator.engine now) := by
  have disarmed := alike.relink ({ · with state := .disarmed }) (fun _ => rfl)
    (fun _ => ⟨rfl, rfl, rfl, rfl⟩)
  -- A running link sends its motor to rest as well, and both run or neither does.
  have initialized := alike.initialized
  cases ran : s.link.initialized with
  | true =>
    have left : s.disarm Simulator.engine now = Session.sendIdle Simulator.engine now
        { s with link.state := .disarmed } := if_pos ran
    have right : t.disarm Simulator.engine now = Session.sendIdle Simulator.engine now
        { t with link.state := .disarmed } := if_pos (initialized.symm.trans ran)
    rw [left, right]
    exact disarmed.sendIdle now
  | false =>
    have rests (u : Session Simulator) (stopped : u.link.initialized = false) :
        u.disarm Simulator.engine now = { u with link.state := .disarmed } :=
      if_neg (by simp [stopped])
    rw [rests s ran, rests t (initialized.symm.trans ran)]
    exact disarmed

/-- A frame that asks for telemetry is listened for on both sides once it is out. -/
theorem send (alike : Alike s t) {value other : BitVec 11} {request asked : Bool}
    (values : value = other) (requests : request = asked) :
    let first := s.transmit Simulator.engine value request
    let second := t.transmit Simulator.engine other asked
    first.1 = second.1 ∧
      Alike (if first.1 && request then first.2.collectTelemetry Simulator.engine else first.2)
        (if second.1 && asked then second.2.collectTelemetry Simulator.engine else second.2) := by
  subst values requests
  intro first second
  obtain ⟨same, after⟩ : first.1 = second.1 ∧ Alike first.2 second.2 := alike.transmit value request
  refine ⟨same, ?_⟩
  -- Both sides got their frame out or neither did, so both listen or neither does.
  rw [← same]
  split
  · exact after.collectTelemetry
  · exact after

/-- A throttle does the same on both sides. -/
theorem write (alike : Alike s t) (now : Nat) (throttle : Single) :
    let first := s.write Simulator.engine now throttle
    let second := t.write Simulator.engine now throttle
    first.1 = second.1 ∧ Alike first.2 second.2 := by
  unfold Session.write
  rw [← alike.isReady]
  cases s.link.isReady with
  | false => exact ⟨rfl, alike⟩
  | true =>
    -- The state follows the throttle before the wait is looked at.
    let moved (link : Link) : Link :=
      { link with state := link.state.afterThrottle (Session.limitThrottle throttle) }
    have follows := alike.relink moved (fun _ => rfl) (fun _ => ⟨rfl, rfl, rfl, rfl⟩)
    rcases follows.passGate?_cases now with ⟨here, there⟩ | ⟨here, there⟩
    · simp only [moved] at here there
      simp only [if_true, here, there]
      exact ⟨trivial, follows⟩
    · let counted (link : Link) : Bool × Link := ((moved link).restartGate now).countRequest
      have counts := alike.relink (fun link => (counted link).2) (fun _ => rfl)
        (fun _ => ⟨rfl, rfl, rfl, rfl⟩)
      have request : (counted s.link).1 = (counted t.link).1 :=
        (congrArg (fun link => (counted link).1) alike.link :)
      have value : (counted s.link).2.throttleValue (Session.limitThrottle throttle) =
          (counted t.link).2.throttleValue (Session.limitThrottle throttle) :=
        (congrArg (fun link => (counted link).2.throttleValue (Session.limitThrottle throttle))
          alike.link :)
      simp only [moved] at here there
      simp only [if_true, here, there]
      exact counts.send value request

/-- A special command does the same on both sides. -/
theorem sendSpecial (alike : Alike s t) (now code : Nat) :
    let first := s.sendSpecial Simulator.engine now code
    let second := t.sendSpecial Simulator.engine now code
    first.1 = second.1 ∧ Alike first.2 second.2 := by
  -- The same two questions come first on both sides: whether the link is ready, and the wait.
  unfold Session.sendSpecial
  rw [← alike.isReady]
  cases s.link.isReady with
  | false => exact ⟨rfl, alike⟩
  | true =>
    rcases alike.passGate?_cases now with ⟨here, there⟩ | ⟨here, there⟩
    · simp only [if_true, here, there]
      exact ⟨trivial, alike⟩
    · have waiting := alike.relink (·.restartGate now) (fun _ => rfl)
        (fun _ => ⟨rfl, rfl, rfl, rfl⟩)
      simp only [if_true, here, there]
      exact waiting.transmit _ false

/-- A named command does the same on both sides. -/
theorem sendCommand (alike : Alike s t) (now : Nat) (command : Command) :
    let first := s.sendCommand Simulator.engine now command
    let second := t.sendCommand Simulator.engine now command
    first.1 = second.1 ∧ Alike first.2 second.2 := by
  -- The number of the command depends on nothing but the command.
  unfold Session.sendCommand
  cases command.code with
  | ok code => exact alike.sendSpecial now code
  | error => exact ⟨rfl, alike⟩

/-- With enough free channels a start comes to the same on both sides. -/
theorem start (alike : Alike s t) (now : Nat) (roomy : Roomy s) (roomyToo : Roomy t) :
    let first := s.start Simulator.engine now
    let second := t.start Simulator.engine now
    first.1 = second.1 ∧ Alike first.2 second.2 := by
  have initialized := alike.initialized
  have clock : s.link.line.clockHz = t.link.line.clockHz :=
    (congrArg (fun link => link.line.clockHz) alike.link :)
  have replies : s.link.settings.bidirectional = t.link.settings.bidirectional :=
    (congrArg (fun link => link.settings.bidirectional) alike.link :)
  unfold Session.start
  cases ran : s.link.initialized with
  | true =>
    rw [if_pos rfl, if_pos (initialized.symm.trans ran)]
    exact ⟨rfl, alike⟩
  | false =>
    have rests := initialized.symm.trans ran
    obtain ⟨transmitter, receiver⟩ := roomy.settled.resting ran
    obtain ⟨transmitterToo, receiverToo⟩ := roomyToo.settled.resting rests
    have left := Session.setUpChannels_simulated transmitter receiver alike.left.line
      (roomy.room ran)
    have right := Session.setUpChannels_simulated transmitterToo receiverToo alike.right.line
      (roomyToo.room rests)
    rw [if_neg Bool.false_ne_true, if_neg (by simp [rests])]
    -- The clock of the line decides on both sides alike.
    generalize Session.setUpChannels Simulator.engine ⟨s.link, s.hardware⟩ = first at left
    generalize Session.setUpChannels Simulator.engine ⟨t.link, t.hardware⟩ = second at right
    cases left with
    | refused stopped device frames =>
      cases right with
      | refused _ deviceToo framesToo =>
        refine ⟨rfl, alike.link, alike.transmitter, alike.receiver, ?_, ?_,
          .of_empty transmitter receiver alike.left.line,
          .of_empty transmitterToo receiverToo alike.right.line⟩
        · rw [device, deviceToo, alike.device]
        · rw [frames, framesToo, alike.frames]
      | served running => exact absurd (clock.symm.trans stopped) running
    | served running complete bare frames plugged =>
      cases right with
      | refused stopped => exact absurd (clock.trans stopped) running
      | served _ completeToo bareToo framesToo pluggedToo =>
        refine ⟨rfl, ?_, rfl, ?_, ?_, ?_, plugged.congr ⟨rfl, rfl, rfl, rfl⟩ rfl,
          pluggedToo.congr ⟨rfl, rfl, rfl, rfl⟩ rfl⟩
        · exact (congrArg (fun link => { link with
            initialized := true, state := .disarmed, requestCount := 0, nextDue := now })
            alike.link :)
        · exact complete.trans (replies.trans completeToo.symm)
        · rw [bare, bareToo, alike.device]
        · rw [frames, framesToo, alike.frames]

/-- All channels go back on both sides. -/
theorem releaseChannels (alike : Alike s t) (running : s.link.initialized = true)
    (settled : s.link.Settled) (settledToo : t.link.Settled) :
    Alike (s.releaseChannels Simulator.engine) (t.releaseChannels Simulator.engine) := by
  have initialized := alike.initialized
  -- Both links run, so both hold the channels that they give back.
  obtain ⟨one, receive, transmitter, receiver, _⟩ := settled.running running
  obtain ⟨other, receiveToo, transmitterToo, receiverToo, _⟩ :=
    settledToo.running (initialized.symm.trans running)
  obtain ⟨pool, _, _, left⟩ := Session.releaseChannels_some Simulator.engine transmitter receiver
  obtain ⟨poolToo, _, _, right⟩ :=
    Session.releaseChannels_some Simulator.engine transmitterToo receiverToo
  rw [left, right]
  refine ⟨alike.link, rfl, rfl, ?_, ?_, .of_empty rfl rfl alike.left.line,
    .of_empty rfl rfl alike.right.line⟩
  · rw [Simulator.bare_foldl_deconfigure, Simulator.bare_foldl_deconfigure, alike.device]
  · -- Giving channels back sends no frame.
    have quiet (hardware : Hardware Simulator) (device : Simulator) (transmit : Channel)
        (receive : Option Channel) :
        (hardware.afterUses device (giveUpUses transmit receive)).frames = hardware.frames := by
      rw [Hardware.frames_afterUses, (giveUpUses_quiet ..).1, List.append_nil]
    exact (quiet s.hardware s.hardware.device one receive).trans
      (alike.frames.trans (quiet t.hardware t.hardware.device other receiveToo).symm)

/-- An end comes to the same on both sides. -/
theorem stop (alike : Alike s t) (now : Nat) (settled : s.link.Settled)
    (settledToo : t.link.Settled) :
    Alike (s.stop Simulator.engine now) (t.stop Simulator.engine now) := by
  have initialized := alike.initialized
  unfold Session.stop
  cases ran : s.link.initialized with
  | false =>
    rw [if_neg Bool.false_ne_true, if_neg (by simp [← initialized, ran])]
    exact alike
  | true =>
    -- The channels are still held after the last frame.
    have holds (u : Session Simulator) (settled : u.link.Settled) :
        (u.sendIdle Simulator.engine now).link.Settled ∧
          (u.sendIdle Simulator.engine now).link.initialized = u.link.initialized := by
      rw [Session.link_sendIdle]
      exact ⟨settled.relink ⟨rfl, rfl, rfl, rfl⟩ rfl, rfl⟩
    obtain ⟨held, runs⟩ := holds s settled
    have ended := (alike.sendIdle now).releaseChannels (runs.trans ran) held (holds t settledToo).1
    rw [if_pos rfl, if_pos (initialized.symm.trans ran)]
    exact ended.relink ({ · with
      state := .disarmed, initialized := false, nextDue := 0, requestCount := 0, cache := .empty })
      (fun _ => rfl) (fun _ => ⟨rfl, rfl, rfl, rfl⟩)

/-- With enough free channels every call comes to the same on both sides. -/
theorem perform (alike : Alike s t) (now : Nat) (call : Call) (roomy : Roomy s)
    (roomyToo : Roomy t) :
    let first := s.perform Simulator.engine now call
    let second := t.perform Simulator.engine now call
    first.1 = second.1 ∧ Alike first.2 second.2 := by
  -- One case for each call; only a start needs the free channels.
  cases call with
  | start =>
    obtain ⟨answer, after⟩ := alike.start now roomy roomyToo
    exact ⟨congrArg Answer.started answer, after⟩
  | stop => exact ⟨rfl, alike.stop now roomy.settled roomyToo.settled⟩
  | arm on =>
    cases on with
    | true => exact ⟨rfl, alike.arm⟩
    | false => exact ⟨rfl, alike.disarm now⟩
  | write throttle =>
    obtain ⟨answer, after⟩ := alike.write now throttle
    exact ⟨congrArg Answer.sent answer, after⟩
  | special code =>
    obtain ⟨answer, after⟩ := alike.sendSpecial now code
    exact ⟨congrArg Answer.sent answer, after⟩
  | command command =>
    obtain ⟨answer, after⟩ := alike.sendCommand now command
    exact ⟨congrArg Answer.sent answer, after⟩
  | direction reversed =>
    obtain ⟨answer, after⟩ := alike.sendCommand now (.reverse reversed)
    exact ⟨congrArg Answer.sent answer, after⟩
  | setRate rateHz =>
    exact ⟨rfl, alike.relink (·.setRate rateHz) (fun _ => rfl) (fun _ => ⟨rfl, rfl, rfl, rfl⟩)⟩
  | setPolePairs polePairs =>
    exact ⟨rfl, alike.relink (·.setPolePairs polePairs) (fun _ => rfl)
      (fun _ => ⟨rfl, rfl, rfl, rfl⟩)⟩
  | read =>
    refine ⟨congrArg Answer.telemetry (congrArg (fun link => link.read.1) alike.link :),
      alike.relink (·.read.2) (fun _ => rfl) (fun _ => ⟨rfl, rfl, rfl, rfl⟩)⟩
  | discard =>
    refine ⟨rfl, ?_⟩
    show Alike (s.discard Simulator.engine now) (t.discard Simulator.engine now)
    -- After the end nothing is left to give back.
    rw [Session.discard_eq_stop_of_settled Simulator.engine now s.hardware roomy.settled,
      Session.discard_eq_stop_of_settled Simulator.engine now t.hardware roomyToo.settled]
    exact alike.stop now roomy.settled roomyToo.settled

end Alike

end MotorLink
