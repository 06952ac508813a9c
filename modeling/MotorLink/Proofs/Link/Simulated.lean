import MotorLink.Proofs.Link.Telemetry
import MotorLink.Proofs.Link.Wiring

/-! A link with checked settings and the simulated controller work together through every run. -/

namespace MotorLink

/-- A session between two calls: it is at rest, or it has all channels that it needs. -/
inductive Sound (config : Config) (s : Session Simulator) : Prop where
  | resting (stopped : s.link.initialized = false) (resting : Resting config s)
  | running (started : s.link.initialized = true) (transmit : Nat) (receive : Option Nat)
    (complete : receive.isSome = config.motor.bidirectional)
    (wired : Wired config s transmit receive)

/-- A session that sent orders on the way from another one, had nothing refused, and is sound. -/
structure Leads (config : Config) (before : Session Simulator) (orders : List Order)
    (after : Session Simulator) : Prop where
  sound : Sound config after
  sends : Sends config.line before.hardware after.hardware orders

/-- A session sent one order or none on the way from another one, without asking for telemetry. -/
def LeadsQuietly (config : Config) (before : Session Simulator) (sent : Bool)
    (after : Session Simulator) : Prop :=
  ∃ orders, orders.length = sent.toNat ∧ (∀ order ∈ orders, order.request = false) ∧
    Leads config before orders after

/-- What sends no order asks for no telemetry. -/
theorem Leads.quietly {config : Config} {before after : Session Simulator}
    (leads : Leads config before [] after) : LeadsQuietly config before false after :=
  ⟨[], rfl, by simp, leads⟩

/-- An order may ask for no telemetry. -/
theorem Leads.quietly_one {config : Config} {before after : Session Simulator} {value : BitVec 11}
    (leads : Leads config before [⟨value, false⟩] after) : LeadsQuietly config before true after :=
  ⟨[⟨value, false⟩], rfl, by simp, leads⟩

/-- The payload that the controller reports next after a call, at the throttle that it leaves. -/
def Step.report (step : Step Simulator) : BitVec 12 :=
  step.after.hardware.device.reportAt step.before.hardware.device.replyIndex

/-- The reading that the report of a call stands for. -/
def Step.reading (step : Step Simulator) : Reading :=
  .classify step.report (checksum step.report).toNat

/-- The report of a call came in, went into the cache, and is what the next look finds. -/
structure Step.Replied (line : Line) (step : Step Simulator) : Prop where
  polled : ∃ channel, Event.polled channel (some (LineCode.captureReply
    (Checked.ofPayload step.report) line.timing.replyBitTicks)) ∈ step.events
  cached : step.after.link.cache = step.before.link.cache.update step.before.link.settings
    step.before.link.polePairs step.reading
  found : ∃ telemetry, step.after.link.read.1 = some telemetry ∧
    telemetry.lastReading = step.reading

/-- All that a call comes to when it works: orders go out, and what it asks for is answered. -/
structure Step.Works (config : Config) (step : Step Simulator) (orders : List Order) : Prop where
  count : orders.length = step.sends.toNat
  leads : Leads config step.before orders step.after
  started : step.call = .start → step.answer = .started (.ok ())
  replied : config.motor.bidirectional = true → ∀ order ∈ orders, order.request = true →
    step.Replied config.line

/-- A call other than starting works if it leads on without asking for telemetry. -/
theorem LeadsQuietly.works {config : Config} {step : Step Simulator} (other : step.call ≠ .start)
    (leads : LeadsQuietly config step.before step.sends step.after) :
    ∃ orders, step.Works config orders := by
  obtain ⟨orders, count, unasked, leads⟩ := leads
  refine ⟨orders, count, leads, fun same => absurd same other, ?_⟩
  -- There is no order with a request, so nothing has to be replied to.
  intro _ order listed request
  rw [unasked order listed] at request
  cases request

namespace Sound

variable {config : Config} {s : Session Simulator} {now : Nat}

/-- A session is sound whatever its link knows besides its settings, line, channels and start. -/
theorem relink {link : Link} (sound : Sound config s) (kin : link.Kin s.link)
    (initialized : link.initialized = s.link.initialized) : Leads config s [] { s with link } := by
  -- Neither being at rest nor being wired depends on anything else that the link knows.
  refine ⟨?_, .refl ..⟩
  cases sound with
  | resting stopped resting =>
    refine .resting (initialized.trans stopped) ⟨⟨kin.settings.trans resting.settings,
      kin.line.trans resting.line, resting.size⟩, kin.transmitter.trans resting.transmitter,
      kin.receiver.trans resting.receiver, resting.free⟩
  | running started transmit receive complete wired =>
    exact .running (initialized.trans started) transmit receive complete (wired.relink kin)

/-- A sound session that is not running is at rest. -/
theorem resting_of_stopped (sound : Sound config s) (stopped : s.link.initialized = false) :
    Resting config s := by
  cases sound with
  | resting _ resting => exact resting
  | running started => rw [stopped] at started; cases started

/-- Starting a sound session is not refused, and it stays sound. -/
theorem start (sound : Sound config s) (valid : config.validate = .ok config) :
    (s.start Simulator.engine now).1 = .ok () ∧
      Leads config s [] (s.start Simulator.engine now).2 := by
  -- A running session is left alone; a resting one sets up one channel, and a second for replies.
  cases sound with
  | running started transmit receive complete wired =>
    rw [Session.start, if_pos started]
    exact ⟨rfl, .running started transmit receive complete wired, .refl ..⟩
  | resting stopped resting =>
    rw [Session.start, if_neg (by simp [stopped])]
    obtain ⟨transmit, half, wired, early, setUp⟩ := resting.setUpTransmitter valid
    rw [setUp]
    cases replies : config.motor.bidirectional with
    | false =>
      refine ⟨rfl, .running rfl transmit none (by simp [replies]) ?_, early⟩
      exact wired.relink ⟨rfl, rfl, rfl, rfl⟩
    | true =>
      obtain ⟨receive, after, whole, late, added⟩ := wired.setUpReceiver valid replies
      simp only [if_true, added]
      refine ⟨trivial, .running rfl transmit (some receive) (by simp [replies]) ?_,
        early.trans late⟩
      exact whole.relink ⟨rfl, rfl, rfl, rfl⟩

/-- Ending a sound session sends the motor to rest, if it was running. -/
theorem stop (sound : Sound config s) (valid : config.validate = .ok config) :
    LeadsQuietly config s s.link.initialized (s.stop Simulator.engine now) := by
  -- A session that is running sends its last frame while it still has its channels.
  cases sound with
  | resting stopped resting =>
    rw [Session.stop, if_neg (by simp [stopped]), stopped]
    exact Leads.quietly ⟨.resting stopped resting, .refl ..⟩
  | running started transmit receive complete wired =>
    obtain ⟨idle, early, _⟩ := wired.sendIdle (Config.legible_line valid) now
    obtain ⟨resting, late⟩ := idle.releaseChannels
    rw [Session.stop, if_pos started, started]
    refine Leads.quietly_one ⟨.resting rfl ?_, early.trans late⟩
    exact ⟨⟨resting.settings, resting.line, resting.size⟩, resting.transmitter, resting.receiver,
      resting.free⟩

/-- Ending a sound session leaves no channel in use, so that discarding it comes to the same. -/
theorem discard_eq_stop (sound : Sound config s) (valid : config.validate = .ok config) :
    s.discard Simulator.engine now = s.stop Simulator.engine now := by
  -- There is nothing left to give back after the end.
  obtain ⟨_, _, _, leads⟩ : LeadsQuietly config s _ (s.stop Simulator.engine now) :=
    sound.stop valid
  have resting := leads.sound.resting_of_stopped (Session.initialized_stop ..)
  exact (congrArg Session.releaseReceiver (Session.releaseTransmitter_none resting.transmitter)).trans
    (Session.releaseReceiver_none resting.receiver)

/-- Disarming a sound session sends the motor to rest, if it is running. -/
theorem disarm (sound : Sound config s) (valid : config.validate = .ok config) :
    LeadsQuietly config s s.link.initialized (s.disarm Simulator.engine now) := by
  -- The link is disarmed first, which changes nothing about its channels.
  have disarmed : Leads config s [] { s with link.state := .disarmed } :=
    sound.relink ⟨rfl, rfl, rfl, rfl⟩ rfl
  cases disarmed.sound with
  | resting stopped resting =>
    have stopped : s.link.initialized = false := stopped
    have rests : s.disarm Simulator.engine now = { s with link.state := .disarmed } :=
      if_neg (by simp [stopped])
    rw [rests, stopped]
    exact disarmed.quietly
  | running started transmit receive complete wired =>
    have started : s.link.initialized = true := started
    have idles : s.disarm Simulator.engine now =
        Session.sendIdle Simulator.engine now { s with link.state := .disarmed } := if_pos started
    obtain ⟨idle, sends, link⟩ := wired.sendIdle (Config.legible_line valid) now
    rw [idles, started]
    refine Leads.quietly_one ⟨.running ?_ transmit receive complete idle, sends⟩
    rw [link]
    exact started

/-- Arming a sound session leaves it sound. -/
theorem arm (sound : Sound config s) : Leads config s [] s.arm := by
  unfold Session.arm
  -- Arming is a change of state alone, and only of a link that is disarmed.
  split
  · exact sound.relink ⟨rfl, rfl, rfl, rfl⟩ rfl
  · exact ⟨sound, .refl ..⟩
  · exact ⟨sound, .refl ..⟩

/-- A special command goes out exactly when it is answered so. -/
theorem sendSpecial (sound : Sound config s) (valid : config.validate = .ok config) (code : Nat) :
    let (sent, after) := s.sendSpecial Simulator.engine now code
    LeadsQuietly config s sent after := by
  -- Whatever gets as far as sending comes from a running session, so it has a channel.
  rcases s.sendSpecial_cases Simulator.engine now code with
    held | ⟨link, value, paced, started, sent⟩
  · rw [held]
    exact Leads.quietly ⟨sound, .refl ..⟩
  · cases sound with
    | resting stopped resting => rw [stopped] at started; cases started
    | running _ transmit receive complete wired =>
      have relinked := wired.relink paced.toKin
      rw [sent, relinked.transmit_eq (Config.legible_line valid) ⟨value, false⟩]
      refine Leads.quietly_one ⟨?_, .one s.hardware transmit _⟩
      exact .running (paced.initialized.trans started) transmit receive complete
        (relinked.afterOrder _)

/-- A named command goes out exactly when it is answered so. -/
theorem sendCommand (sound : Sound config s) (valid : config.validate = .ok config)
    (command : Command) :
    let (sent, after) := s.sendCommand Simulator.engine now command
    LeadsQuietly config s sent after := by
  unfold Session.sendCommand
  -- A command whose parameters are out of range has no code, and is not sent.
  cases command.code with
  | ok code => exact sound.sendSpecial valid code
  | error _ => exact Leads.quietly ⟨sound, .refl ..⟩

/-- On a link that can receive, a throttle that asks for telemetry is replied to. -/
theorem replied {link : Link} {value : BitVec 11} {throttle : Single} {transmit channel : Nat}
    (valid : config.validate = .ok config) (wired : Wired config s transmit (some channel))
    (started : s.link.initialized = true) (complete : true = config.motor.bidirectional)
    (paced : link.Paced s.link)
    (sent : s.write Simulator.engine now throttle =
      (true, Session.collectTelemetry Simulator.engine
        ⟨link, s.hardware.afterOrder config.line transmit ⟨value, true⟩⟩)) :
    let step := s.step Simulator.engine now (.write throttle)
    Leads config s [⟨value, true⟩] step.after ∧ step.Replied config.line := by
  intro step
  have relinked := wired.relink paced.toKin
  have positive := Config.replyBitTicks_line_pos valid
  have waiting := s.hardware.device.pendingReply_accept config.line
    (show (Order.frame ⟨value, true⟩).requestsTelemetry = true by simp [Order.frame])
  have after : step.after = _ := (congrArg Prod.snd sent).trans
    ((relinked.afterOrder ⟨value, true⟩).collectTelemetry_eq positive rfl waiting)
  -- Taking the reply off the line changes neither the throttle nor what was reported at it.
  have report : step.report =
      (s.hardware.device.accept config.line (Order.frame ⟨value, true⟩)).reportAt
        s.hardware.device.replyIndex := by
    rw [Step.report, after]
    exact Simulator.reportAt_congr rfl _
  refine ⟨⟨?_, ?_⟩, ?_, ?_, ?_⟩
  · rw [after]
    exact .running (paced.initialized.trans started) transmit (some channel) complete
      (((relinked.afterOrder _).afterReply _).relink ⟨rfl, rfl, rfl, rfl⟩)
  · rw [after]
    exact (Sends.one s.hardware transmit ⟨value, true⟩).trans (.afterReply ..)
  · refine ⟨channel, ?_⟩
    rw [Step.events, after, report]
    show _ ∈ List.drop s.hardware.journal.length _
    simp [Hardware.afterReply, Hardware.afterOrder, Hardware.record]
  · rw [Step.reading, report, after]
    show TelemetryCache.update link.cache link.settings link.polePairs _ = _
    rw [paced.cache, paced.settings, paced.polePairs]
    rfl
  · rw [Step.reading, report, after]
    exact TelemetryCache.take_update (Simulator.kind_classify_reportAt _ _ _)

/-- A throttle goes out exactly when it is answered so, and a request is replied to. -/
theorem write (sound : Sound config s) (valid : config.validate = .ok config) (throttle : Single) :
    ∃ orders, (s.step Simulator.engine now (.write throttle)).Works config orders := by
  let step := s.step Simulator.engine now (.write throttle)
  rcases s.write_cases Simulator.engine now throttle with
    ⟨link, paced, held⟩ | ⟨link, value, request, paced, started, sent⟩
  · -- Nothing goes out, and the link differs only in what it knows.
    have answer : step.sends = false := congrArg Prod.fst held
    have after : step.after = { s with link } := congrArg Prod.snd held
    have leads := (sound.relink paced.toKin paced.initialized).quietly
    rw [← answer, ← after] at leads
    exact leads.works nofun
  · cases sound with
    | resting stopped resting => rw [stopped] at started; cases started
    | running _ transmit receive complete wired =>
      have relinked := wired.relink paced.toKin
      rw [relinked.transmit_eq (Config.legible_line valid) ⟨value, request⟩] at sent
      have answer : step.sends = true := congrArg Prod.fst sent
      have count : [Order.mk value request].length = step.sends.toNat := by rw [answer]; rfl
      -- Where no reply is collected the order is all that happens.
      have unheard (deaf : step.after =
          ⟨link, s.hardware.afterOrder config.line transmit ⟨value, request⟩⟩) :
          Leads config s [⟨value, request⟩] step.after := by
        rw [deaf]
        exact ⟨.running (paced.initialized.trans started) transmit receive complete
          (relinked.afterOrder _), .one ..⟩
      cases request with
      | false => exact ⟨_, count, unheard (congrArg Prod.snd sent), nofun, by simp⟩
      | true =>
        cases receive with
        | none =>
          have deaf := (congrArg Prod.snd sent).trans
            (relinked.afterOrder ⟨value, true⟩).collectTelemetry_eq_self
          refine ⟨_, count, unheard deaf, nofun, ?_⟩
          intro bidirectional
          rw [bidirectional] at complete
          cases complete
        | some channel =>
          obtain ⟨leads, replied⟩ := replied valid wired started complete paced sent
          exact ⟨_, count, leads, nofun, fun _ _ _ _ => replied⟩

/-- Each call works and keeps the session sound. -/
theorem step (sound : Sound config s) (valid : config.validate = .ok config) (call : Call) :
    ∃ orders, (s.step Simulator.engine now call).Works config orders := by
  -- Only starting may fail, and only throttles ask for telemetry.
  cases call with
  | start =>
    obtain ⟨answer, leads⟩ := sound.start valid
    exact ⟨[], rfl, leads, fun _ => congrArg Answer.started answer, by simp⟩
  | write throttle => exact sound.write valid throttle
  | stop => exact LeadsQuietly.works nofun (sound.stop valid)
  | arm on =>
    cases on with
    | true => exact LeadsQuietly.works nofun sound.arm.quietly
    | false => exact LeadsQuietly.works nofun (sound.disarm valid)
  | special code => exact LeadsQuietly.works nofun (sound.sendSpecial valid code)
  | command command => exact LeadsQuietly.works nofun (sound.sendCommand valid command)
  | direction reversed =>
    exact LeadsQuietly.works nofun (sound.sendCommand valid (.reverse reversed))
  | setRate _ | setPolePairs _ | read =>
    refine LeadsQuietly.works nofun (Leads.quietly ?_)
    exact sound.relink ⟨rfl, rfl, rfl, rfl⟩ rfl
  | discard =>
    refine LeadsQuietly.works nofun ?_
    have stopped : (s.step Simulator.engine now .discard).after = s.stop Simulator.engine now :=
      sound.discard_eq_stop valid
    rw [stopped]
    exact sound.stop valid

/-- Along a run a sound session stays sound, and what is started, sent and asked for succeeds. -/
theorem run (sound : Sound config s) (valid : config.validate = .ok config)
    (calls : List (Nat × Call)) :
    ∃ orders, orders.length = (s.steps Simulator.engine calls).countP Step.sends ∧
      Leads config s orders (s.final Simulator.engine calls) ∧
      ∀ step ∈ s.steps Simulator.engine calls,
        (step.call = .start → step.answer = .started (.ok ())) ∧
        (config.motor.bidirectional = true → step.asks config.line → step.Replied config.line) := by
  -- The rest of the run goes on from what its first call leaves.
  induction calls generalizing s with
  | nil => exact ⟨[], rfl, ⟨sound, .refl ..⟩, by simp [Session.steps]⟩
  | cons timed rest ih =>
    obtain ⟨time, call⟩ := timed
    obtain ⟨early, count, leads, started, replied⟩ :
        ∃ orders, (s.step Simulator.engine time call).Works config orders := sound.step valid call
    obtain ⟨late, counts, leadsOn, others⟩ := ih leads.sound
    refine ⟨early ++ late, ?_, ⟨leadsOn.sound, leads.sends.trans leadsOn.sends⟩, ?_⟩
    · rw [List.length_append, count, counts, Session.steps, List.countP_cons, Nat.add_comm]
      congr 1
      cases (s.step Simulator.engine time call).sends <;> rfl
    · intro step listed
      rw [Session.steps, List.mem_cons] at listed
      rcases listed with rfl | later
      · refine ⟨started, fun bidirectional asks => ?_⟩
        obtain ⟨value, requested⟩ := asks
        obtain ⟨order, sent, same⟩ := leads.sends.exists_order_of_pulses requested
        have request := Order.request_eq_of_pulses (Config.legible_line valid) same
        exact replied bidirectional order sent request
      · exact others step later

end Sound

/-- A session that has done nothing yet is sound. -/
theorem Sound.initial (config : Config) :
    Sound config (.initial (.ofConfig config) config.channels.poolSize.toNat Simulator.initial) :=
  .resting rfl ⟨⟨rfl, rfl, Pool.size_ofSize _⟩, rfl, rfl, Pool.isTaken_ofSize _⟩

/--
A link with checked settings and the simulated controller work together through every run.

Starting never fails and the engine refuses nothing.
The controller takes in exactly the frames that the calls say they send, without a checksum error,
and its throttle is that of the last frame that sets one.
Each request is replied to before its call returns, and the next look finds the reading.
-/
theorem Session.simulated_run {config : Config} (valid : config.validate = .ok config)
    (calls : List (Nat × Call)) :
    let first : Session Simulator :=
      .initial (.ofConfig config) config.channels.poolSize.toNat Simulator.initial
    let steps := first.steps Simulator.engine calls
    let hardware := (first.final Simulator.engine calls).hardware
    (∀ step ∈ steps, step.call = .start → step.answer = .started (.ok ())) ∧
    (∀ event ∈ hardware.journal, event.succeeded = true) ∧
    hardware.device.checksumErrors = 0 ∧
    hardware.device.framesReceived = steps.countP Step.sends ∧
    (∃ orders : List Order,
      hardware.journal.filterMap Event.pulses? = orders.map (·.pulses config.line) ∧
      hardware.device.throttleCode =
        ((orders.map fun order => order.value.toNat).filter
          fun value => value = 0 ∨ 48 ≤ value).getLast?.getD 0) ∧
    (config.motor.bidirectional = true →
      ∀ step ∈ steps, step.asks config.line → step.Replied config.line) := by
  intro first steps hardware
  obtain ⟨orders, count, leads, each⟩ := (Sound.initial config).run valid calls
  obtain ⟨events, journal, passed, pulses⟩ := leads.sends.journal
  have whole : hardware.journal = events := journal
  -- All parts follow from what the whole run leads to, but the answers, which are those of a step.
  rw [whole]
  refine ⟨fun step listed => (each step listed).1, passed, leads.sends.errors, ?_,
    ⟨orders, pulses, ?_⟩, fun replies step listed => (each step listed).2 replies⟩
  · have received := leads.sends.received
    rw [count] at received
    exact received.trans (Nat.zero_add _)
  · exact leads.sends.throttle.trans (throttleAfterAll_eq ..)

/-- At half throttle with a request in each frame, the second reply is a warmth of 52 degrees. -/
theorem Session.simulated_run_half_throttle :
    let config : Config := { motor := { requestDivisor := 1 } }
    let early : List (Nat × Call) :=
      [(0, .start), (0, .arm true), (1000, .write (.ofRatio false 1 2))]
    let late : List (Nat × Call) :=
      [(2000, .write (.ofRatio false 1 2)), (2100, .special 6), (3000, .stop)]
    let first : Session Simulator :=
      .initial (.ofConfig config) config.channels.poolSize.toNat Simulator.initial
    let second := (first.final Simulator.engine early).step Simulator.engine 2000
      (.write (.ofRatio false 1 2))
    config.validate = .ok config ∧
      (first.final Simulator.engine (early ++ late)).hardware.device.framesReceived = 3 ∧
      second.Replied config.line ∧ second.reading = ⟨.temperature, 0x234, 5, 52⟩ := by
  intro config early late first second
  have valid : config.validate = .ok config :=
    Config.validate_eq_ok_iff.mpr (by decide +kernel)
  obtain ⟨_, _, _, received, _, replied⟩ := Session.simulated_run valid (early ++ late)
  have listed : second ∈ first.steps Simulator.engine (early ++ late) := by
    rw [Session.steps_append]
    exact List.mem_append_right _ (.head _)
  have asks : second.asks config.line := ⟨1048, by decide +kernel⟩
  -- The special command came too early to be sent.
  have three :
      (first.final Simulator.engine (early ++ late)).hardware.device.framesReceived = 3 := by
    rw [received]
    decide +kernel
  have warm : second.reading = ⟨.temperature, 0x234, 5, 52⟩ := by decide +kernel
  exact ⟨valid, three, replied rfl second listed asks, warm⟩

end MotorLink
