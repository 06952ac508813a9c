import MotorLink.Proofs.Config.Validate
import MotorLink.Proofs.Link.Session
import MotorLink.Proofs.Link.Uses
import MotorLink.Proofs.Reply.Tolerance

/-! Wiring: a link with checked settings gets its channels, works over them and gives them back. -/

namespace MotorLink

/-- The line that the settings describe. -/
def Config.line (config : Config) : Line :=
  .forClock config.timing.clockHz.toNat config.motor.bidirectional

/-- The pulses that go out under checked settings can be told apart. -/
theorem Config.legible_line {config : Config} (valid : config.validate = .ok config) :
    config.line.timing.Legible :=
  BitTiming.legible_forClock (by have := clock_of_validate valid; omega)

/-- A bit of a reply takes some time under checked settings. -/
theorem Config.replyBitTicks_line_pos {config : Config} (valid : config.validate = .ok config) :
    0 < config.line.timing.replyBitTicks := by
  -- Even the slowest clock that passes the check makes several ticks of a bit.
  have clock := (clock_of_validate valid).1
  simp only [line, Line.forClock, BitTiming.forClock, BitTiming.bitRate]
  omega

/-- A session still has the settings and the pool that it was made with. -/
structure Fits (config : Config) (s : Session Simulator) : Prop where
  settings : s.link.settings = .ofConfig config
  line : s.link.line = config.line
  size : s.hardware.pool.size = config.channels.poolSize.toNat

/-- No channel is in use. -/
structure Resting (config : Config) (s : Session Simulator) : Prop extends Fits config s where
  transmitter : s.link.transmitter = .empty
  receiver : s.link.receiver = .empty
  free : ∀ channel, s.hardware.pool.isTaken channel = false

/-- A channel is set up to transmit, possibly another one to receive, and no others are in use. -/
structure Wired (config : Config) (s : Session Simulator) (transmit : Nat)
    (receive : Option Nat) : Prop extends Fits config s where
  transmitter : s.link.transmitter = ⟨some transmit⟩
  receiver : s.link.receiver = ⟨receive⟩
  sends : s.hardware.device.setup? transmit = some ⟨false, config.line⟩
  hears : ∀ channel, receive = some channel →
    s.hardware.device.setup? channel = some ⟨true, config.line⟩
  taken : ∀ channel : Nat, s.hardware.pool.isTaken channel = true ↔
    channel = transmit ∨ receive = some channel

namespace Hardware

variable (hardware : Hardware Simulator)

/-- The hardware after a channel was taken, which leaves another pool, and set up. -/
def afterSetUp (pool : Pool) (channel : Channel) (setup : ChannelSetup) : Hardware Simulator :=
  let configured : Event :=
    if setup.receiver then .configuredReceive channel setup.line (.ok ())
    else .configuredTransmit channel setup.line (.ok ())
  ⟨pool, hardware.device.configure channel setup,
    hardware.journal ++ [.acquired channel] ++ [configured]⟩

/-- The hardware after the set-up of a channel was undone and the channel was given back. -/
def afterGivingUp (channel : Channel) : Hardware Simulator :=
  ⟨hardware.pool.release channel, hardware.device.deconfigure channel,
    hardware.journal ++ [.deconfigured channel] ++ [.released channel]⟩

/-- The hardware after a reply was taken off the line on a channel. -/
def afterReply (channel : Channel) (reply : Capture) : Hardware Simulator :=
  ⟨hardware.pool, { hardware.device with pendingReply := none, windowOpen := false },
    hardware.journal ++ [.windowOpened channel (.ok ())] ++ [.polled channel (some reply)] ++
      [.windowClosed channel]⟩

/-- The channel is found as it was set up, and the others as before. -/
theorem setup?_afterSetUp (pool : Pool) (channel other : Nat) (setup : ChannelSetup) :
    (hardware.afterSetUp pool channel setup).device.setup? other =
      if other = channel then some setup else hardware.device.setup? other :=
  hardware.device.setup?_configure channel other setup

/-- A channel that was given up is not set up any more, and the others are as before. -/
theorem setup?_afterGivingUp (channel other : Nat) :
    (hardware.afterGivingUp channel).device.setup? other =
      if other = channel then none else hardware.device.setup? other :=
  hardware.device.setup?_deconfigure channel other

/-- A channel that was given up is free, and the others are as before. -/
theorem isTaken_afterGivingUp (channel other : Nat) :
    (hardware.afterGivingUp channel).pool.isTaken other =
      (hardware.pool.isTaken other && !decide (other = channel)) :=
  hardware.pool.isTaken_release channel other

/-- A channel that was just taken is set up to transmit if the clock of the line runs. -/
theorem configureTransmit_acquired (pool : Pool) (channel : Nat) {line : Line}
    (running : line.clockHz ≠ 0) :
    ({ hardware with pool }.record (.acquired channel)).configureTransmit Simulator.engine channel
      line = (.ok (), hardware.afterSetUp pool channel ⟨false, line⟩) := by
  simp only [configureTransmit, Simulator.engine, record,
    hardware.device.configureTransmit_eq channel running]
  rfl

/-- A channel that was just taken is set up to receive if the line is open drain. -/
theorem configureReceive_acquired (pool : Pool) (channel : Nat) {line : Line}
    (openDrain : line.openDrain = true) :
    ({ hardware with pool }.record (.acquired channel)).configureReceive Simulator.engine channel
      line = (.ok (), hardware.afterSetUp pool channel ⟨true, line⟩) := by
  simp only [configureReceive, Simulator.engine, record,
    hardware.device.configureReceive_eq channel openDrain]
  rfl

end Hardware

namespace Sends

variable {line : Line} (hardware : Hardware Simulator)

/-- Taking and setting up a channel sends nothing. -/
theorem afterSetUp (pool : Pool) (channel : Nat) (setup : ChannelSetup) :
    Sends line hardware (hardware.afterSetUp pool channel setup) [] := by
  refine .quiet (List.append_assoc ..) ?_ rfl rfl rfl
  cases setup.receiver <;> simp [Event.succeeded, Event.pulses?, Outcome.succeeded]

/-- Giving a channel up sends nothing. -/
theorem afterGivingUp (channel : Nat) :
    Sends line hardware (hardware.afterGivingUp channel) [] := by
  refine .quiet (List.append_assoc ..) ?_ rfl rfl rfl
  simp [Event.succeeded, Event.pulses?]

/-- Taking a reply off the line sends nothing. -/
theorem afterReply (channel : Nat) (reply : Capture) :
    Sends line hardware (hardware.afterReply channel reply) [] := by
  refine .quiet (by rw [Hardware.afterReply, List.append_assoc, List.append_assoc]) ?_ rfl rfl rfl
  simp [Event.succeeded, Event.pulses?, Outcome.succeeded]

end Sends

namespace Resting

variable {config : Config} {s : Session Simulator}

/-- At rest there is a channel to transmit on, and setting it up is not refused. -/
theorem setUpTransmitter (resting : Resting config s) (valid : config.validate = .ok config) :
    ∃ transmit after, Wired config after transmit none ∧
      Sends config.line s.hardware after.hardware [] ∧
      s.setUpChannels Simulator.engine =
        if config.motor.bidirectional then after.setUpReceiver Simulator.engine transmit
        else (.ok (), after) := by
  -- No channel is taken and the pool has one, so the least free one is handed out.
  have roomy := Config.poolSize_of_validate valid
  have clock := (Config.clock_of_validate valid).1
  have running : config.line.clockHz ≠ 0 := by
    simp only [Config.line, Line.forClock]
    omega
  obtain ⟨transmit, pool, acquired⟩ :=
    Pool.acquireAny_isSome (by rw [resting.size]; omega) (resting.free 0)
  obtain ⟨_, _, size, taken⟩ := Pool.acquireAny_eq_some acquired
  let setup : ChannelSetup := ⟨false, config.line⟩
  let link : Link := { s.link with transmitter := ⟨some transmit⟩ }
  refine ⟨transmit, ⟨link, s.hardware.afterSetUp pool transmit setup⟩, ?_, .afterSetUp .., ?_⟩
  · refine ⟨⟨resting.settings, resting.line, size.trans resting.size⟩, rfl, resting.receiver, ?_,
      by simp, ?_⟩
    · rw [Hardware.setup?_afterSetUp, if_pos rfl]
    · -- What was free stays free, but for the channel that was handed out.
      intro channel
      show pool.isTaken channel = true ↔ _
      simp [taken, resting.free]
  · have first : s.acquireTransmitter =
        ⟨link, { s.hardware with pool }.record (.acquired transmit)⟩ :=
      Session.acquireTransmitter_some resting.transmitter acquired
    have second := s.hardware.configureTransmit_acquired pool transmit running
    simp only [Session.setUpChannels, first, link, resting.line, resting.settings, second,
      LinkSettings.ofConfig, setup]

end Resting

namespace Wired

variable {config : Config} {s : Session Simulator} {transmit channel : Nat}
  {receive : Option Nat}

/-- The pool has a free channel beside the one that transmits. -/
theorem exists_free (wired : Wired config s transmit none) (roomy : 2 ≤ s.hardware.pool.size) :
    ∃ channel, channel < s.hardware.pool.size ∧ s.hardware.pool.isTaken channel = false := by
  -- One of the first two channels is not the one that transmits, which alone is taken.
  refine ⟨if transmit = 0 then 1 else 0, by split <;> omega, ?_⟩
  rw [Bool.eq_false_iff]
  intro held
  rcases (wired.taken _).mp held with same | absent
  · split at same <;> omega
  · cases absent

/-- A second channel is left to receive on, and setting it up is not refused. -/
theorem setUpReceiver (wired : Wired config s transmit none) (valid : config.validate = .ok config)
    (bidirectional : config.motor.bidirectional = true) :
    ∃ receive after, Wired config after transmit (some receive) ∧
      Sends config.line s.hardware after.hardware [] ∧
      s.setUpReceiver Simulator.engine transmit = (.ok (), after) := by
  have roomy := Config.two_le_poolSize_of_validate valid bidirectional
  obtain ⟨channel, inside, free⟩ := wired.exists_free (by rw [wired.size]; omega)
  obtain ⟨receive, pool, acquired⟩ := Pool.acquireAny_isSome inside free
  obtain ⟨_, fresh, size, taken⟩ := Pool.acquireAny_eq_some acquired
  -- The new channel was free, so it does not take the place of the one that transmits.
  have apart : transmit ≠ receive := by
    rintro rfl
    rw [(wired.taken _).mpr (.inl rfl)] at fresh
    cases fresh
  let setup : ChannelSetup := ⟨true, config.line⟩
  let link : Link := { s.link with receiver := ⟨some receive⟩ }
  refine ⟨receive, ⟨link, s.hardware.afterSetUp pool receive setup⟩, ?_, .afterSetUp .., ?_⟩
  · refine ⟨⟨wired.settings, wired.line, size.trans wired.size⟩, wired.transmitter, rfl, ?_, ?_, ?_⟩
    · rw [Hardware.setup?_afterSetUp, if_neg apart, wired.sends]
    · rintro _ ⟨⟩
      rw [Hardware.setup?_afterSetUp, if_pos rfl]
    · intro channel
      show pool.isTaken channel = true ↔ _
      rw [taken, Bool.or_eq_true, decide_eq_true_eq, wired.taken]
      simp [eq_comm]
  · have first : s.acquireReceiver =
        ⟨link, { s.hardware with pool }.record (.acquired receive)⟩ :=
      Session.acquireReceiver_some wired.receiver acquired
    have second := s.hardware.configureReceive_acquired pool receive
      (show config.line.openDrain = true from bidirectional)
    simp only [Session.setUpReceiver, first, link, wired.line, second, setup]

/-- The two channels are different. -/
theorem apart (wired : Wired config s transmit (some channel)) : transmit ≠ channel := by
  -- A channel cannot be set up both ways.
  rintro rfl
  have both := wired.sends.symm.trans (wired.hears _ rfl)
  cases both

/-- A link that gave up receiving can still transmit. -/
theorem giveUpReceiver (wired : Wired config s transmit (some channel)) :
    let after := (s.deconfigure Simulator.engine channel).releaseReceiver
    Wired config after transmit none ∧ Sends config.line s.hardware after.hardware [] := by
  have released : (s.deconfigure Simulator.engine channel).releaseReceiver =
      ⟨{ s.link with receiver := .empty }, s.hardware.afterGivingUp channel⟩ :=
    Session.releaseReceiver_some wired.receiver
  have apart := wired.apart
  rw [released]
  refine ⟨⟨⟨wired.settings, wired.line, (Pool.size_release ..).trans wired.size⟩, wired.transmitter,
    rfl, ?_, by simp, ?_⟩, .afterGivingUp ..⟩
  · rw [Hardware.setup?_afterGivingUp, if_neg apart, wired.sends]
  · -- Of the two taken channels one is given back.
    intro other
    rw [Hardware.isTaken_afterGivingUp, Bool.and_eq_true, wired.taken]
    grind

/-- A link that gave up its last channel is at rest. -/
theorem giveUpTransmitter (wired : Wired config s transmit none) :
    let after := (s.deconfigure Simulator.engine transmit).releaseTransmitter
    Resting config after ∧ Sends config.line s.hardware after.hardware [] := by
  have released : (s.deconfigure Simulator.engine transmit).releaseTransmitter =
      ⟨{ s.link with transmitter := .empty }, s.hardware.afterGivingUp transmit⟩ :=
    Session.releaseTransmitter_some wired.transmitter
  rw [released]
  refine ⟨⟨⟨wired.settings, wired.line, (Pool.size_release ..).trans wired.size⟩, rfl,
    wired.receiver, ?_⟩, .afterGivingUp ..⟩
  -- The one channel that was still taken is the one that is given back.
  intro other
  have taken := wired.taken other
  rw [Hardware.isTaken_afterGivingUp]
  grind

/-- A link gives back all that it has, and nothing that it does on the way is refused. -/
theorem releaseChannels (wired : Wired config s transmit receive) :
    let after := s.releaseChannels Simulator.engine
    Resting config after ∧ Sends config.line s.hardware after.hardware [] := by
  -- The receive channel goes first, if there is one, and the transmit channel last.
  cases receive with
  | none =>
    have rest : s.releaseChannels Simulator.engine =
        (s.deconfigure Simulator.engine transmit).releaseTransmitter := by
      simp only [Session.releaseChannels, wired.receiver, wired.transmitter]
    rw [rest]
    obtain ⟨resting, sends⟩ := wired.giveUpTransmitter
    exact ⟨resting, sends⟩
  | some channel =>
    obtain ⟨half, early⟩ := wired.giveUpReceiver
    have rest : s.releaseChannels Simulator.engine =
        (((s.deconfigure Simulator.engine channel).releaseReceiver).deconfigure Simulator.engine
          transmit).releaseTransmitter := by
      simp only [Session.releaseChannels, wired.receiver, half.transmitter]
    rw [rest]
    obtain ⟨resting, late⟩ := half.giveUpTransmitter
    exact ⟨resting, early.trans late⟩

/-- What a link knows besides its settings, line and channels does not matter to its wiring. -/
theorem relink {link : Link} (wired : Wired config s transmit receive)
    (kin : link.Kin s.link) : Wired config { s with link } transmit receive where
  settings := kin.settings.trans wired.settings
  line := kin.line.trans wired.line
  size := wired.size
  transmitter := kin.transmitter.trans wired.transmitter
  receiver := kin.receiver.trans wired.receiver
  sends := wired.sends
  hears := wired.hears
  taken := wired.taken

/-- An order leaves the wiring as it is. -/
theorem afterOrder (wired : Wired config s transmit receive) (order : Order) :
    Wired config { s with hardware := s.hardware.afterOrder config.line transmit order }
      transmit receive where
  settings := wired.settings
  line := wired.line
  size := wired.size
  transmitter := wired.transmitter
  receiver := wired.receiver
  sends := by
    -- The controller takes the order in without touching how its channels are set up.
    rw [← wired.sends]
    exact congrArg (List.lookup transmit) (Simulator.channels_accept ..)
  hears := by
    intro channel held
    rw [← wired.hears channel held]
    exact congrArg (List.lookup channel) (Simulator.channels_accept ..)
  taken := wired.taken

/-- Every frame that is sent goes out and is taken in. -/
theorem transmit_eq (wired : Wired config s transmit receive)
    (legible : config.line.timing.Legible) (order : Order) :
    s.transmit Simulator.engine order.value order.request =
      (true, { s with hardware := s.hardware.afterOrder config.line transmit order }) := by
  -- The frame is legible and valid, and the channel was set up to transmit.
  have accepted := s.hardware.device.transmit_eq wired.sends
    (legible.ofPulses?_pulses order.frame) (Frame.isValid_ofValue ..)
  simp only [Session.transmit, wired.transmitter, wired.line, Hardware.transmit, Simulator.engine]
  rw [← Order.frame, accepted]
  rfl

/-- The frame that sends the motor to rest goes out and is taken in. -/
theorem sendIdle (wired : Wired config s transmit receive)
    (legible : config.line.timing.Legible) (now : Nat) :
    let after := s.sendIdle Simulator.engine now
    Wired config after transmit receive ∧
      Sends config.line s.hardware after.hardware [⟨s.link.idleValue, false⟩] ∧
      after.link = s.link.restartGate now := by
  -- Only when the next frame is due has changed before the frame is sent.
  have relinked : Wired config { s with link := s.link.restartGate now } transmit receive :=
    wired.relink ⟨rfl, rfl, rfl, rfl⟩
  have sent : s.sendIdle Simulator.engine now =
      ⟨s.link.restartGate now,
        s.hardware.afterOrder config.line transmit ⟨s.link.idleValue, false⟩⟩ :=
    congrArg Prod.snd (relinked.transmit_eq legible ⟨s.link.idleValue, false⟩)
  rw [sent]
  exact ⟨relinked.afterOrder _, .one .., rfl⟩

/-- Taking a reply off the line leaves the wiring as it is. -/
theorem afterReply (wired : Wired config s transmit receive) (reply : Capture) :
    Wired config { s with hardware := s.hardware.afterReply channel reply } transmit receive where
  settings := wired.settings
  line := wired.line
  size := wired.size
  transmitter := wired.transmitter
  receiver := wired.receiver
  sends := wired.sends
  hears := wired.hears
  taken := wired.taken

/-- A reply that waits is taken off the line, and its reading goes into the cache. -/
theorem collectTelemetry_eq (wired : Wired config s transmit (some channel)) {payload : BitVec 12}
    {reply : Capture} (positive : 0 < config.line.timing.replyBitTicks)
    (made : reply =
      LineCode.captureReply (Checked.ofPayload payload) config.line.timing.replyBitTicks)
    (waiting : s.hardware.device.pendingReply = some reply) :
    s.collectTelemetry Simulator.engine =
      ⟨{ s.link with
          cache := s.link.cache.update s.link.settings s.link.polePairs
            (Reading.classify payload (checksum payload).toNat) },
        s.hardware.afterReply channel reply⟩ := by
  -- The window opens, since the channel was set up to receive, and the reply is in it.
  have opened := s.hardware.device.openWindow_eq (wired.hears channel rfl)
  have read := Reading.ofCapture_captureReply payload positive
  rw [← made] at read
  simp only [Session.collectTelemetry, wired.receiver, Hardware.openWindow, Simulator.engine,
    opened, Hardware.poll, Simulator.poll, if_true, waiting, Session.absorb, wired.line, read,
    Hardware.closeWindow, Simulator.closeWindow, Hardware.record, Hardware.afterReply]

/-- A link that cannot receive does not listen. -/
theorem collectTelemetry_eq_self (wired : Wired config s transmit none) :
    s.collectTelemetry Simulator.engine = s := by
  simp only [Session.collectTelemetry, wired.receiver]

end Wired

end MotorLink
