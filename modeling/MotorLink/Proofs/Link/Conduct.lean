import MotorLink.Proofs.Link.Session
import MotorLink.Proofs.Link.Uses

/-! Conduct: all that a call on a link can come to, whatever the engine answers. -/

namespace MotorLink

/-- The channels that a link holds. -/
def Link.channels (link : Link) : List Channel :=
  link.receiver.channel.toList ++ link.transmitter.channel.toList

/-- Between two calls a link holds a channel to transmit on exactly while it is running. -/
structure Link.Settled (link : Link) : Prop where
  transmitter : link.transmitter.isHeld = link.initialized
  receiver : link.receiver.isHeld = (link.initialized && link.settings.bidirectional)

/-- A link that still has the settings, the line and the scale that it was made with. -/
structure Link.MadeOf (given : LinkSettings) (link : Link) : Prop where
  settings : link.settings = given
  line : link.line = (ofSettings given).line
  scale : link.scale = (ofSettings given).scale

namespace Link

variable {link : Link}

/-- A link that has done nothing yet holds nothing. -/
theorem settled_ofSettings (settings : LinkSettings) : (ofSettings settings).Settled := ⟨rfl, rfl⟩

/-- A running link has a channel to transmit on, and one to receive on if replies are to come. -/
theorem Settled.running (settled : link.Settled) (started : link.initialized = true) :
    ∃ transmit receive, link.transmitter = ⟨some transmit⟩ ∧ link.receiver = ⟨receive⟩ ∧
      receive.isSome = link.settings.bidirectional := by
  -- The two conditions on a settled link are read off for one that is running.
  have held := settled.transmitter
  rw [started, Lease.isHeld, Option.isSome_iff_exists] at held
  obtain ⟨transmit, held⟩ := held
  refine ⟨transmit, link.receiver.channel, congrArg Lease.mk held, rfl, ?_⟩
  have complete := settled.receiver
  rwa [started, Bool.true_and] at complete

/-- A link that is not running holds nothing. -/
theorem Settled.resting (settled : link.Settled) (stopped : link.initialized = false) :
    link.transmitter = .empty ∧ link.receiver = .empty := by
  have transmitter := settled.transmitter
  have receiver := settled.receiver
  rw [stopped, Lease.isHeld, Option.isSome_eq_false_iff, Option.isNone_iff_eq_none] at transmitter
  rw [stopped, Bool.false_and, Lease.isHeld, Option.isSome_eq_false_iff,
    Option.isNone_iff_eq_none] at receiver
  exact ⟨congrArg Lease.mk transmitter, congrArg Lease.mk receiver⟩

/-- A link that is not running holds no channel. -/
theorem Settled.channels_eq_nil (settled : link.Settled)
    (stopped : link.initialized = false) : link.channels = [] := by
  obtain ⟨transmitter, receiver⟩ := settled.resting stopped
  rw [channels, transmitter, receiver]
  rfl

/-- What a link knows besides what it holds does not matter to whether it is settled. -/
theorem Settled.relink {other : Link} (settled : link.Settled) (kin : other.Kin link)
    (initialized : other.initialized = link.initialized) : other.Settled where
  transmitter := by rw [kin.transmitter, initialized, settled.transmitter]
  receiver := by rw [kin.receiver, initialized, kin.settings, settled.receiver]

/-- A call that is heeded keeps what a link was made with. -/
theorem MadeOf.heed {settings : LinkSettings} (made : link.MadeOf settings) (call : Call) :
    (link.heed call).MadeOf settings := by
  -- Heeding a call changes four fields at most, and what a link was made with is none of them.
  obtain ⟨_, _, _, _, heed⟩ := link.heed_eq call
  rw [heed]
  exact ⟨made.settings, made.line, made.scale⟩

/-- A rate keeps commands at least the shortest time apart if they were so before. -/
theorem minPeriod_le_setRate (rateHz : UInt16) (paced : minPeriod ≤ link.period) :
    minPeriod ≤ (link.setRate rateHz).period := by
  -- A rate of zero keeps the period, and any other one is cut off at the shortest.
  unfold setRate periodForRate?
  split
  · exact paced
  · exact Nat.le_max_right _ _

/-- A new link keeps commands at least the shortest time apart. -/
theorem minPeriod_le_ofSettings (settings : LinkSettings) :
    minPeriod ≤ (ofSettings settings).period := by
  -- Without a rate the period is the default, which is long enough.
  unfold ofSettings periodForRate?
  dsimp only
  split
  · decide
  · exact Nat.le_max_right _ _

end Link

namespace Call

/-- When a call leaves the hardware of a link alone. -/
def Spares (call : Call) (now : Nat) (link : Link) : Prop :=
  match call with
  | .start => link.initialized = true
  | .stop | .discard | .arm false => link.initialized = false
  | _ => call.isGated = true → link.isReady = true → now < link.nextDue

/-- A call that has to wait its turn leaves the hardware alone until then. -/
theorem spares_of_isGated {call : Call} {now : Nat} {link : Link} (gated : call.isGated = true)
    (early : link.isReady = true → now < link.nextDue) : call.Spares now link := by
  -- The calls that have a condition of their own are none that have to wait.
  unfold Spares
  split
  · cases gated
  · cases gated
  · cases gated
  · cases gated
  · exact fun _ => early

/-- A call that leaves the hardware alone has nothing sent. -/
theorem order?_of_spares {call : Call} {now : Nat} {link : Link} (spares : call.Spares now link) :
    link.order? now call = none := by
  -- Where a command would be due it cannot be one that has to wait.
  have early (gated : call.isGated = true)
      (held : call.isGated = true → link.isReady = true → now < link.nextDue) :
      link.isDue now = false := by
    rw [Link.isDue, Bool.and_eq_false_imp, decide_eq_false_iff_not]
    exact fun ready => Nat.not_le_of_lt (held gated ready)
  cases call with
  | start | setRate | setPolePairs | read => rfl
  | stop | discard =>
    have stopped : link.initialized = false := spares
    rw [Link.order?, stopped, if_neg Bool.false_ne_true]
  | arm on =>
    cases on with
    | true => rfl
    | false =>
      have stopped : link.initialized = false := spares
      rw [Link.order?, stopped, if_neg Bool.false_ne_true]
  | write | special | direction =>
    rw [Link.order?, early rfl spares, if_neg Bool.false_ne_true]
  | command named =>
    rw [Link.order?, code?]
    cases result : named.code with
    | error => simp [Except.toOption]
    | ok code =>
      have gated : (Call.command named).isGated = true := by
        simp [isGated, result, Except.isOk, Except.toBool]
      rw [early gated spares, if_neg Bool.false_ne_true]

end Call

/-- What a call at a time leaves of a session, and the uses of the hardware on the way. -/
inductive Conduct {σ : Type} (now : Nat) (link : Link) (hardware : Hardware σ) :
    Call → List Event → Session σ → Prop
  | spared {call : Call} {after : Link} (spares : call.Spares now link) (kin : after.Kin link)
      (initialized : after.initialized = link.initialized) (nextDue : after.nextDue = link.nextDue)
      (pace : Link.minPeriod ≤ link.period → Link.minPeriod ≤ after.period)
      (heeds : after = link.heed call) :
    Conduct now link hardware call [] ⟨after, hardware⟩
  | refused {error : LinkError} {events : List Event} {device : σ}
      (stopped : link.initialized = false)
      (refusal : RefusedStart link.line link.settings.bidirectional hardware.pool error events) :
    Conduct now link hardware .start events ⟨link, hardware.afterUses device events⟩
  | started {transmit : Channel} {receive : Option Channel} {pool : Pool} {device : σ}
      (stopped : link.initialized = false) (complete : receive.isSome = link.settings.bidirectional)
      (apart : receive ≠ some transmit) (size : pool.size = hardware.pool.size)
      (lent : ∀ held, hardware.pool.Lends held → pool.Lends (receive.toList ++ transmit :: held)) :
    Conduct now link hardware .start (setUpUses link.line transmit receive)
      ⟨{ link with
          transmitter := ⟨some transmit⟩, receiver := ⟨receive⟩, initialized := true,
          state := .disarmed, requestCount := 0, nextDue := now },
        ⟨pool, device, hardware.journal ++ setUpUses link.line transmit receive⟩⟩
  | sent {call : Call} {after : Link} {transmit : Channel} {order : Order} {outcome : Outcome}
      {more : List Event} {device : σ} (running : link.initialized = true)
      (sender : call = .arm false ∨
        call.isGated = true ∧ link.isReady = true ∧ link.nextDue ≤ now)
      (held : link.transmitter = ⟨some transmit⟩)
      (followUp : FollowUp link.receiver.channel order.request outcome more)
      (kin : after.Kin link) (initialized : after.initialized = link.initialized)
      (nextDue : after.nextDue = now + link.period) (period : after.period = link.period)
      (ordered : link.order? now call = some order)
      (heard : after = (link.ahead now call).hear more) :
    Conduct now link hardware call (.transmitted transmit (order.pulses link.line) outcome :: more)
      ⟨after, hardware.afterUses device
        (.transmitted transmit (order.pulses link.line) outcome :: more)⟩
  | ended {call : Call} {transmit : Channel} {receive : Option Channel} {order : Order}
      {outcome : Outcome} {pool : Pool} {device : σ} (ends : call = .stop ∨ call = .discard)
      (running : link.initialized = true) (transmitter : link.transmitter = ⟨some transmit⟩)
      (receiver : link.receiver = ⟨receive⟩) (size : pool.size = hardware.pool.size)
      (lent : ∀ held, hardware.pool.Lends (receive.toList ++ transmit :: held) → pool.Lends held)
      (rests : order = link.idleOrder) :
    Conduct now link hardware call
      (.transmitted transmit (order.pulses link.line) outcome :: giveUpUses transmit receive)
      ⟨{ link with
          transmitter := .empty, receiver := .empty, state := .disarmed, initialized := false,
          nextDue := 0, requestCount := 0, cache := .empty },
        ⟨pool, device, hardware.journal ++
          .transmitted transmit (order.pulses link.line) outcome :: giveUpUses transmit receive⟩⟩

namespace Conduct

variable {σ : Type} {now : Nat} {link : Link} {hardware : Hardware σ} {call : Call}
  {events : List Event} {after : Session σ}

/-- The journal grows by the uses of the hardware. -/
theorem journal (conduct : Conduct now link hardware call events after) :
    after.hardware.journal = hardware.journal ++ events := by
  cases conduct with
  | spared => exact (List.append_nil _).symm
  | refused | started | sent | ended => rfl

/-- A call keeps the settings and the line of a link. -/
theorem settings_line (conduct : Conduct now link hardware call events after) :
    after.link.settings = link.settings ∧ after.link.line = link.line := by
  -- In every case the link after is made from the one before without touching either.
  cases conduct with
  | spared _ kin => exact ⟨kin.settings, kin.line⟩
  | sent _ _ _ _ kin => exact ⟨kin.settings, kin.line⟩
  | refused | started | ended => exact ⟨rfl, rfl⟩

/-- A call keeps what a link was made with. -/
theorem madeOf (conduct : Conduct now link hardware call events after) {settings : LinkSettings}
    (made : link.MadeOf settings) : after.link.MadeOf settings := by
  -- Neither heeding a call nor sending for it touches the three.
  have heeded := made.heed call
  cases conduct with
  | spared _ _ _ _ _ heeds => exact heeds ▸ heeded
  | sent _ _ _ _ _ _ _ _ _ heard =>
    obtain ⟨_, ahead⟩ := link.ahead_eq now call
    rw [heard, ahead]
    exact ⟨heeded.settings, heeded.line, heeded.scale⟩
  | refused | started | ended => exact ⟨made.settings, made.line, made.scale⟩

/-- A call hands to the engine the frame of its order, and no frame without one. -/
theorem frames_eq (conduct : Conduct now link hardware call events after) :
    events.filterMap Event.pulses? = (link.order? now call).toList.map (·.pulses link.line) := by
  cases conduct with
  | spared spares =>
    rw [Call.order?_of_spares spares]
    rfl
  | refused _ refusal => exact refusal.quiet.1
  | started => exact (setUpUses_quiet ..).1
  | sent _ _ _ followUp _ _ _ _ ordered =>
    rw [ordered]
    exact congrArg (List.cons _) followUp.pulses_eq_nil
  | ended ends running _ _ _ _ rests =>
    -- Both calls that end a session send the motor to rest.
    have ordered : link.order? now call = some link.idleOrder := by
      rcases ends with rfl | rfl <;> exact if_pos running
    rw [ordered, ← rests]
    exact congrArg (List.cons _) (giveUpUses_quiet ..).1

/-- A call leaves a settled link settled. -/
theorem settled (conduct : Conduct now link hardware call events after) (settled : link.Settled) :
    after.link.Settled := by
  -- Only a start and an end change what a link holds, and they change all of it.
  cases conduct with
  | spared _ kin initialized => exact settled.relink kin initialized
  | refused => exact settled
  | started _ complete => exact ⟨rfl, complete⟩
  | sent _ _ _ _ kin initialized => exact settled.relink kin initialized
  | ended => exact ⟨rfl, rfl⟩

/-- After a call only a link that was started, or not stopped, is running. -/
theorem running (conduct : Conduct now link hardware call events after)
    (running : after.link.initialized = true) :
    call = .start ∨ link.initialized = true ∧ call ≠ .stop ∧ call ≠ .discard := by
  -- Only a start sets the link running, and a stop that finds it running ends that.
  cases conduct with
  | spared spares _ initialized =>
    have ran : link.initialized = true := initialized ▸ running
    -- A call that ends a session is only spared on a link that is not running.
    refine .inr ⟨ran, ?_, ?_⟩ <;> rintro rfl <;> cases ran.symm.trans spares
  | refused => exact .inl rfl
  | started => exact .inl rfl
  | sent ran sender =>
    refine .inr ⟨ran, ?_, ?_⟩ <;> rintro rfl <;> simp [Call.isGated] at sender
  | ended => cases running

/-- A call keeps commands at least the shortest time apart. -/
theorem minPeriod_le (conduct : Conduct now link hardware call events after)
    (paced : Link.minPeriod ≤ link.period) : Link.minPeriod ≤ after.link.period := by
  -- Only a call that leaves the hardware alone can set another rate.
  cases conduct with
  | spared _ _ _ _ pace => exact pace paced
  | sent _ _ _ _ _ _ _ period => exact period ▸ paced
  | refused | started | ended => exact paced

/-- A call keeps the number of channels in the pool. -/
theorem size (conduct : Conduct now link hardware call events after) :
    after.hardware.pool.size = hardware.pool.size := by
  -- Only a start takes channels, and only an end gives them back.
  cases conduct with
  | spared | refused | sent => rfl
  | started _ _ _ size => exact size
  | ended _ _ _ _ size => exact size

/-- The pool lends what the link holds, beside what it lends to others. -/
theorem lends (conduct : Conduct now link hardware call events after) (settled : link.Settled)
    {others : List Channel} (lends : hardware.pool.Lends (link.channels ++ others)) :
    after.hardware.pool.Lends (after.link.channels ++ others) := by
  -- What others hold is carried through unseen, since only the link's own channels move.
  cases conduct with
  | spared _ kin =>
    rwa [Link.channels, kin.receiver, kin.transmitter]
  | refused => exact lends
  | started stopped _ _ _ lent =>
    obtain ⟨transmitter, receiver⟩ := settled.resting stopped
    rw [Link.channels, transmitter, receiver] at lends
    simpa [Link.channels] using lent others lends
  | sent _ _ _ _ kin =>
    rwa [Link.channels, kin.receiver, kin.transmitter]
  | ended _ _ transmitter receiver _ lent =>
    rw [Link.channels, transmitter, receiver] at lends
    exact lent others (by simpa using lends)

end Conduct

namespace Session

variable {σ : Type} (engine : Engine σ) (now : Nat) {link : Link} (hardware : Hardware σ)

/-- A start is refused and leaves the link and the pool as they were, or has the link running. -/
theorem start_cases (settled : link.Settled) (stopped : link.initialized = false) :
    (∃ error events device,
      RefusedStart link.line link.settings.bidirectional hardware.pool error events ∧
      (hardware.pool.countFree = 0 → device = hardware.device) ∧
      start engine now ⟨link, hardware⟩ =
        (.error error, ⟨link, hardware.afterUses device events⟩)) ∨
    ∃ transmit receive pool device, receive.isSome = link.settings.bidirectional ∧
      hardware.pool.Serves transmit receive pool ∧
      start engine now ⟨link, hardware⟩ =
        (.ok (), ⟨{ link with
            transmitter := ⟨some transmit⟩, receiver := ⟨receive⟩, initialized := true,
            state := .disarmed, requestCount := 0, nextDue := now },
          ⟨pool, device, hardware.journal ++ setUpUses link.line transmit receive⟩⟩) := by
  -- A link that is not running holds nothing, so that all channels have to be taken.
  obtain ⟨transmitter, receiver⟩ := settled.resting stopped
  rw [start, if_neg (by simp [stopped])]
  rcases setUpChannels_cases engine transmitter receiver with
    ⟨error, events, device, refusal, uncalled, refused⟩ |
    ⟨transmit, receive, pool, device, complete, serves, set⟩
  · rw [refused]
    exact .inl ⟨error, events, device, refusal, uncalled, rfl⟩
  · rw [set]
    exact .inr ⟨transmit, receive, pool, device, complete, serves, rfl⟩

/-- A start sets up all channels, or leaves the link and the pool as they were. -/
theorem start_conduct (settled : link.Settled) :
    ∃ events, Conduct now link hardware .start events (start engine now ⟨link, hardware⟩).2 := by
  -- A link that runs already is spared; else the start is refused whole or carried out whole.
  cases running : link.initialized with
  | true =>
    rw [start, if_pos running]
    exact ⟨[], .spared running ⟨rfl, rfl, rfl, rfl⟩ rfl rfl id rfl⟩
  | false =>
    rcases start_cases engine now hardware settled running with
      ⟨error, events, device, refusal, _, refused⟩ |
      ⟨transmit, receive, pool, device, complete, serves, started⟩
    · rw [refused]
      exact ⟨events, .refused running refusal⟩
    · rw [started]
      exact ⟨_, .started running complete serves.apart serves.size fun held => serves.lends⟩

/-- A frame goes out on the channel of a link, and a request that went out is listened for. -/
theorem transmit_followUp {transmit : Channel} (held : link.transmitter = ⟨some transmit⟩)
    (order : Order) :
    ∃ outcome more device, FollowUp link.receiver.channel order.request outcome more ∧
      (let (sent, after) := Session.transmit engine ⟨link, hardware⟩ order.value order.request
      if sent && order.request then after.collectTelemetry engine else after) =
        ⟨link.hear more, hardware.afterUses device
          (.transmitted transmit (order.pulses link.line) outcome :: more)⟩ := by
  obtain ⟨outcome, device, sent⟩ := transmit_some engine held order
  rw [sent]
  -- Only a request that the engine took is listened for.
  by_cases listen : (outcome.succeeded && order.request) = true
  · obtain ⟨taken, asked⟩ := Bool.and_eq_true_iff.mp listen
    obtain ⟨later, events, listens, collected⟩ := collectTelemetry_listens engine
    refine ⟨outcome, events, later, .listening asked ?_ listens, ?_⟩
    · cases outcome with
      | ok => rfl
      | error => cases taken
    · refine (if_pos listen).trans (collected.trans ?_)
      simp [Hardware.afterUses]
  · refine ⟨outcome, [], device, .silent ?_, (if_neg listen).trans ?_⟩
    · rintro asked rfl
      exact listen (Bool.and_eq_true_iff.mpr ⟨rfl, asked⟩)
    · rw [Link.hear_of_silent rfl]

/-- The value of rest goes out on the channel of a link, and the wait starts anew. -/
theorem sendIdle_some {transmit : Channel} (held : link.transmitter = ⟨some transmit⟩) :
    ∃ outcome device, sendIdle engine now ⟨link, hardware⟩ =
      ⟨link.restartGate now, hardware.afterUses device
        [.transmitted transmit (Order.pulses ⟨link.idleValue, false⟩ link.line) outcome]⟩ := by
  have restarted : (link.restartGate now).transmitter = ⟨some transmit⟩ := held
  obtain ⟨outcome, device, sent⟩ := transmit_some engine restarted ⟨link.idleValue, false⟩
  exact ⟨outcome, device, congrArg Prod.snd sent⟩

/-- An end gives all channels back after a last frame, or finds nothing to end. -/
theorem stop_conduct (settled : link.Settled) {call : Call} (ends : call = .stop ∨ call = .discard) :
    ∃ events, Conduct now link hardware call events (stop engine now ⟨link, hardware⟩) := by
  -- The last frame goes out while the channels are still held.
  cases running : link.initialized with
  | false =>
    have spares : call.Spares now link := by rcases ends with rfl | rfl <;> exact running
    have heeds : link = link.heed call := by rcases ends with rfl | rfl <;> rfl
    rw [stop, if_neg (by simp [running])]
    exact ⟨[], .spared spares ⟨rfl, rfl, rfl, rfl⟩ rfl rfl id heeds⟩
  | true =>
    obtain ⟨transmit, receive, transmitter, receiver, _⟩ := settled.running running
    obtain ⟨outcome, device, idle⟩ := sendIdle_some engine now hardware transmitter
    obtain ⟨pool, size, lent, released⟩ := releaseChannels_some engine
      (show (link.restartGate now).transmitter = ⟨some transmit⟩ from transmitter)
      (show (link.restartGate now).receiver = ⟨receive⟩ from receiver)
    rw [stop, if_pos running, idle, released, Hardware.afterUses, List.append_assoc]
    exact ⟨_, .ended ends running transmitter receiver size lent rfl⟩

/-- Discarding comes to the same as ending, since nothing is left to give back after the end. -/
theorem discard_eq_stop_of_settled (settled : link.Settled) :
    discard engine now ⟨link, hardware⟩ = stop engine now ⟨link, hardware⟩ := by
  obtain ⟨events, conduct⟩ := stop_conduct engine now hardware settled (.inl rfl)
  rw [discard]
  generalize stop engine now ⟨link, hardware⟩ = after at conduct ⊢
  -- A link that was not running held nothing to begin with.
  cases conduct with
  | spared stopped kin =>
    obtain ⟨transmitter, receiver⟩ := settled.resting stopped
    rw [releaseTransmitter_none (kin.transmitter.trans transmitter),
      releaseReceiver_none (kin.receiver.trans receiver)]
  | sent _ sender => simp [Call.isGated] at sender
  | ended => rw [releaseTransmitter_none rfl, releaseReceiver_none rfl]

/-- Disarming sends the motor to rest if the link is running. -/
theorem disarm_conduct (settled : link.Settled) :
    ∃ events, Conduct now link hardware (.arm false) events
      (disarm engine now ⟨link, hardware⟩) := by
  -- The state changes either way, and only a link that is running has a channel to send on.
  cases running : link.initialized with
  | false =>
    have rests : disarm engine now ⟨link, hardware⟩ = ⟨{ link with state := .disarmed }, hardware⟩ :=
      if_neg (by simp [running])
    rw [rests]
    exact ⟨[], .spared running ⟨rfl, rfl, rfl, rfl⟩ rfl rfl id rfl⟩
  | true =>
    obtain ⟨transmit, receive, transmitter, receiver, _⟩ := settled.running running
    obtain ⟨outcome, device, idle⟩ := sendIdle_some engine now hardware
      (show ({ link with state := .disarmed } : Link).transmitter = ⟨some transmit⟩ from transmitter)
    have rests : disarm engine now ⟨link, hardware⟩ =
        sendIdle engine now ⟨{ link with state := .disarmed }, hardware⟩ := if_pos running
    rw [rests, idle]
    exact ⟨_, .sent running (.inl rfl) transmitter (.silent nofun) ⟨rfl, rfl, rfl, rfl⟩ rfl rfl rfl
      (if_pos running) rfl⟩

/-- A frame that has waited its turn goes out on a link that is running. -/
theorem sent_conduct (settled : link.Settled) {call : Call} (gated : call.isGated = true)
    (ready : link.isReady = true) (due : link.nextDue ≤ now) {order : Order}
    (ordered : link.order? now call = some order) :
    ∃ events, Conduct now link hardware call events
      (let (sent, after) :=
        Session.transmit engine ⟨link.ahead now call, hardware⟩ order.value order.request
      if sent && order.request then after.collectTelemetry engine else after) := by
  -- The link ahead has the channels and the line of the one that was asked.
  have running := Link.initialized_of_isReady ready
  obtain ⟨paced, nextDue, period⟩ := link.ahead_of_isGated now gated
  obtain ⟨transmit, receive, transmitter, receiver, _⟩ := settled.running running
  obtain ⟨outcome, more, device, followUp, sent⟩ :=
    transmit_followUp engine hardware (paced.transmitter.trans transmitter) order
  rw [paced.receiver] at followUp
  rw [sent, show order.pulses (link.ahead now call).line = order.pulses link.line by
    rw [paced.line]]
  exact ⟨_, .sent running (.inr ⟨gated, ready, due⟩) transmitter followUp
    ⟨paced.settings, paced.line, paced.transmitter, paced.receiver⟩ paced.initialized nextDue period
    ordered rfl⟩

/-- A throttle is held back, or its frame goes out and the reply to a request is listened for. -/
theorem write_conduct (settled : link.Settled) (throttle : Single) :
    ∃ events, Conduct now link hardware (.write throttle) events
      (write engine now throttle ⟨link, hardware⟩).2 := by
  cases ready : link.isReady with
  | false =>
    have idle : write engine now throttle ⟨link, hardware⟩ = (false, ⟨link, hardware⟩) :=
      if_neg (by simp [ready])
    have heeds : link = link.heed (.write throttle) := by simp [Link.heed, ready]
    rw [idle]
    refine ⟨[], .spared (fun _ moves => ?_) ⟨rfl, rfl, rfl, rfl⟩ rfl rfl id heeds⟩
    rw [ready] at moves
    cases moves
  | true =>
    -- The state follows the throttle before the wait is looked at.
    let moved : Link := { link with state := link.state.afterThrottle (limitThrottle throttle) }
    have heeds : link.heed (.write throttle) = moved := if_pos ready
    by_cases early : now < link.nextDue
    · have held : write engine now throttle ⟨link, hardware⟩ = (false, ⟨moved, hardware⟩) := by
        simp only [write, ready, if_true, Link.passGate?, if_pos early, moved]
      rw [held]
      exact ⟨[], .spared (fun _ _ => early) ⟨rfl, rfl, rfl, rfl⟩ rfl rfl id heeds.symm⟩
    · let counted := (moved.restartGate now).countRequest
      have due := Nat.le_of_not_lt early
      have ordered : link.order? now (.write throttle) =
          some ⟨counted.2.throttleValue (limitThrottle throttle), counted.1⟩ := by
        simp only [Link.order?, heeds, Link.isDue, ready, due, decide_true, Bool.and_true, if_true]
        rfl
      obtain ⟨events, conduct⟩ := sent_conduct engine now hardware settled rfl ready due ordered
      refine ⟨events, ?_⟩
      have ahead : link.ahead now (.write throttle) = counted.2 := by
        simp only [Link.ahead, heeds, counted]
      simpa only [write, ready, if_true, Link.passGate?, if_neg early, ahead] using conduct

/-- A special command is held back or goes out, whichever call asks for it. -/
theorem sendSpecial_conduct (settled : link.Settled) {call : Call} {code : Nat}
    (coded : call.code? = some code) :
    ∃ events, Conduct now link hardware call events
      (sendSpecial engine now code ⟨link, hardware⟩).2 := by
  have gated := Call.isGated_of_code? coded
  obtain ⟨heeds, ahead, order⟩ := link.intent_of_code? now coded
  -- Either condition alone holds the command back, and then nothing changes at all.
  by_cases due : link.isReady = true ∧ link.nextDue ≤ now
  · obtain ⟨ready, due⟩ := due
    have ordered : link.order? now call = some (Link.specialOrder code) := by
      simp only [order, Link.isDue, ready, due, decide_true, Bool.and_true, if_true]
    obtain ⟨events, conduct⟩ := sent_conduct engine now hardware settled gated ready due ordered
    refine ⟨events, ?_⟩
    simpa only [sendSpecial, ready, if_true, Link.passGate?, if_neg (Nat.not_lt_of_le due), ahead,
      Link.specialOrder, Bool.and_false, Bool.false_eq_true, if_false] using conduct
  · have early (ready : link.isReady = true) : now < link.nextDue :=
      Nat.lt_of_not_le fun passed => due ⟨ready, passed⟩
    have held : sendSpecial engine now code ⟨link, hardware⟩ = (false, ⟨link, hardware⟩) := by
      cases ready : link.isReady with
      | false => exact if_neg (by simp [ready])
      | true => simp only [sendSpecial, ready, if_true, Link.passGate?, if_pos (early ready)]
    rw [held]
    exact ⟨[], .spared (Call.spares_of_isGated gated early) ⟨rfl, rfl, rfl, rfl⟩ rfl rfl id
      heeds.symm⟩

/-- A named command is held back or goes out; one that has no code does neither. -/
theorem sendCommand_conduct (settled : link.Settled) (command : Command) :
    ∃ events, Conduct now link hardware (.command command) events
      (sendCommand engine now command ⟨link, hardware⟩).2 := by
  -- A command that has no code is none that has to wait, so it is spared at any time.
  rcases coded : command.code with error | code
  · have held : sendCommand engine now command ⟨link, hardware⟩ = (false, ⟨link, hardware⟩) := by
      simp only [sendCommand, coded]
    rw [held]
    refine ⟨[], .spared (fun gated => ?_) ⟨rfl, rfl, rfl, rfl⟩ rfl rfl id rfl⟩
    simp [Call.isGated, coded, Except.isOk, Except.toBool] at gated
  · have sent : sendCommand engine now command ⟨link, hardware⟩ =
        sendSpecial engine now code ⟨link, hardware⟩ := by
      simp only [sendCommand, coded]
    rw [sent]
    exact sendSpecial_conduct engine now hardware settled
      (by simp [Call.code?, coded, Except.toOption])

/-- Every call on a settled link comes to one of these. -/
theorem perform_conduct (settled : link.Settled) (call : Call) :
    ∃ events, Conduct now link hardware call events
      (perform engine now call ⟨link, hardware⟩).2 := by
  -- What asks for no frame has nothing to wait for.
  have idle (asks : false = true) : link.isReady = true → now < link.nextDue :=
    absurd asks Bool.false_ne_true
  cases call with
  | start => exact start_conduct engine now hardware settled
  | stop => exact stop_conduct engine now hardware settled (.inl rfl)
  | discard =>
    show ∃ events, Conduct now link hardware .discard events (discard engine now ⟨link, hardware⟩)
    rw [discard_eq_stop_of_settled engine now hardware settled]
    exact stop_conduct engine now hardware settled (.inr rfl)
  | arm on =>
    cases on with
    | false => exact disarm_conduct engine now hardware settled
    | true =>
      refine ⟨[], ?_⟩
      show Conduct now link hardware (.arm true) [] (arm ⟨link, hardware⟩)
      have arms : arm ⟨link, hardware⟩ = ⟨link.heed (.arm true), hardware⟩ := by
        cases state : link.state <;> simp [arm, Link.heed, state]
      obtain ⟨kin, initialized, nextDue, period⟩ := link.heed_arm
      rw [arms]
      exact .spared idle kin initialized nextDue (fun pace => pace.trans_eq period.symm) rfl
  | write throttle => exact write_conduct engine now hardware settled throttle
  | special code => exact sendSpecial_conduct engine now hardware settled rfl
  | command command => exact sendCommand_conduct engine now hardware settled command
  | direction reversed => exact sendSpecial_conduct engine now hardware settled rfl
  | setRate rateHz =>
    exact ⟨[], .spared idle ⟨rfl, rfl, rfl, rfl⟩ rfl rfl (Link.minPeriod_le_setRate rateHz) rfl⟩
  | setPolePairs | read => exact ⟨[], .spared idle ⟨rfl, rfl, rfl, rfl⟩ rfl rfl id rfl⟩

end Session

end MotorLink
