import MotorLink.Proofs.Engine.Hardware
import MotorLink.Proofs.Link.Intent

/-! Uses: what the parts of a call do with the hardware, whatever the engine answers. -/

namespace MotorLink

/-- Why a start on a pool is refused, and the uses that undo whatever was taken and set up. -/
inductive RefusedStart (line : Line) (replies : Bool) (pool : Pool) : LinkError → List Event → Prop
  | noTransmitter (full : pool.countFree = 0) : RefusedStart line replies pool .resourceExhausted []
  | transmitterFault (transmit : Channel) (fault : HardwareFault) (room : pool.countFree ≠ 0) :
    RefusedStart line replies pool (.hardwareConfig fault)
      [.acquired transmit, .configuredTransmit transmit line (.error fault),
        .released transmit]
  | noReceiver (transmit : Channel) (wanted : replies = true)
      (last : pool.countFree = 1) :
    RefusedStart line replies pool .resourceExhausted
      [.acquired transmit, .configuredTransmit transmit line (.ok ()), .deconfigured transmit,
        .released transmit]
  | receiverFault (transmit receive : Channel) (apart : transmit ≠ receive) (fault : HardwareFault)
      (wanted : replies = true) (room : 2 ≤ pool.countFree) :
    RefusedStart line replies pool (.hardwareConfig fault)
      [.acquired transmit, .configuredTransmit transmit line (.ok ()), .acquired receive,
        .configuredReceive receive line (.error fault), .deconfigured transmit,
        .released transmit, .released receive]

/-- The channels that a link takes from a pool: the lowest free one, and the next for replies. -/
inductive Pool.Serves (pool : Pool) (transmit : Channel) : Option Channel → Pool → Prop
  | one {left : Pool} (first : pool.HandsOut 0 pool.size transmit left) :
    Serves pool transmit none left
  | two {receive : Channel} {between left : Pool}
      (first : pool.HandsOut 0 pool.size transmit between)
      (second : between.HandsOut 0 between.size receive left) :
    Serves pool transmit (some receive) left

namespace Pool.Serves

variable {pool left : Pool} {transmit : Channel} {receive : Option Channel}

/-- Taking channels keeps their number. -/
theorem size (serves : pool.Serves transmit receive left) : left.size = pool.size := by
  cases serves with
  | one first => exact first.size
  | two first second => exact second.size.trans first.size

/-- The two channels of a link are different. -/
theorem apart (serves : pool.Serves transmit receive left) : receive ≠ some transmit := by
  cases serves with
  | one => exact nofun
  | two first second => exact fun same => first.apart second (Option.some.inj same)

/-- The channels of a link are lent beside those that already were. -/
theorem lends (serves : pool.Serves transmit receive left) {held : List Channel}
    (lends : pool.Lends held) : left.Lends (receive.toList ++ transmit :: held) := by
  -- One channel is handed out after the other.
  cases serves with
  | one first => exact lends.handsOut first
  | two first second => exact (lends.handsOut first).handsOut second

end Pool.Serves

/-- The uses of the hardware that take and set up the channels of a link. -/
def setUpUses (line : Line) (transmit : Channel) : Option Channel → List Event
  | none => [.acquired transmit, .configuredTransmit transmit line (.ok ())]
  | some receive =>
    [.acquired transmit, .configuredTransmit transmit line (.ok ()), .acquired receive,
      .configuredReceive receive line (.ok ())]

/-- The uses of the hardware that give the channels of a link back, the receive channel first. -/
def giveUpUses (transmit : Channel) : Option Channel → List Event
  | none => [.deconfigured transmit, .released transmit]
  | some receive =>
    [.deconfigured receive, .released receive, .deconfigured transmit, .released transmit]

/-- The uses of the hardware that listen for a reply: a window that opens is polled and closed. -/
inductive Listens : Option Channel → List Event → Prop
  | deaf : Listens none []
  | refused (receive : Channel) (fault : HardwareFault) :
    Listens (some receive) [.windowOpened receive (.error fault)]
  | heard (receive : Channel) (capture : Option Capture) :
    Listens (some receive)
      [.windowOpened receive (.ok ()), .polled receive capture, .windowClosed receive]

/-- What comes after a frame: a request that went out is listened for, and nothing else is. -/
inductive FollowUp (receive : Option Channel) (request : Bool) (outcome : Outcome) :
    List Event → Prop
  | silent (unheard : request = true → outcome ≠ .ok ()) : FollowUp receive request outcome []
  | listening {events : List Event} (asked : request = true) (sent : outcome = .ok ())
      (listens : Listens receive events) : FollowUp receive request outcome events

/-- Uses of the hardware that put nothing on the line and bring no reading. -/
def Event.Quiet (events : List Event) : Prop :=
  events.filterMap Event.pulses? = [] ∧
    ∀ bitTicks, events.filterMap (Event.reading? bitTicks) = []

/-- A start that is refused is quiet. -/
theorem RefusedStart.quiet {line : Line} {replies : Bool} {pool : Pool} {error : LinkError}
    {events : List Event} (refused : RefusedStart line replies pool error events) :
    Event.Quiet events := by
  cases refused <;> exact ⟨rfl, fun _ => rfl⟩

/-- Setting channels up is quiet. -/
theorem setUpUses_quiet (line : Line) (transmit : Channel) (receive : Option Channel) :
    Event.Quiet (setUpUses line transmit receive) := by
  cases receive <;> exact ⟨rfl, fun _ => rfl⟩

/-- Giving channels back is quiet. -/
theorem giveUpUses_quiet (transmit : Channel) (receive : Option Channel) :
    Event.Quiet (giveUpUses transmit receive) := by
  cases receive <;> exact ⟨rfl, fun _ => rfl⟩

/-- Nothing is put on the line after a frame. -/
theorem FollowUp.pulses_eq_nil {receive : Option Channel} {request : Bool} {outcome : Outcome}
    {events : List Event} (followUp : FollowUp receive request outcome events) :
    events.filterMap Event.pulses? = [] := by
  -- Listening opens a window, polls it and closes it, and sends nothing.
  cases followUp with
  | silent => rfl
  | listening _ _ listens => cases listens <;> rfl

namespace Session

variable {σ : Type} (engine : Engine σ) {link : Link} {hardware : Hardware σ}

/-- A link without a transmit channel takes what the pool hands out. -/
theorem acquireTransmitter_some {channel : Nat} {pool : Pool} (empty : link.transmitter = .empty)
    (acquired : hardware.pool.acquireAny = (some channel, pool)) :
    acquireTransmitter ⟨link, hardware⟩ = ⟨{ link with transmitter := ⟨some channel⟩ },
      ⟨pool, hardware.device, hardware.journal ++ [.acquired channel]⟩⟩ := by
  rw [acquireTransmitter, empty, hardware.acquire_empty acquired]
  rfl

/-- A link without a receive channel takes what the pool hands out. -/
theorem acquireReceiver_some {channel : Nat} {pool : Pool} (empty : link.receiver = .empty)
    (acquired : hardware.pool.acquireAny = (some channel, pool)) :
    acquireReceiver ⟨link, hardware⟩ = ⟨{ link with receiver := ⟨some channel⟩ },
      ⟨pool, hardware.device, hardware.journal ++ [.acquired channel]⟩⟩ := by
  rw [acquireReceiver, empty, hardware.acquire_empty acquired]
  rfl

/-- A link without a transmit channel gets none when the pool has nothing left. -/
theorem acquireTransmitter_none {pool : Pool} (empty : link.transmitter = .empty)
    (acquired : hardware.pool.acquireAny = (none, pool)) :
    acquireTransmitter ⟨link, hardware⟩ = ⟨link, hardware⟩ := by
  rw [acquireTransmitter, empty, hardware.acquire_empty_none acquired, ← empty]

/-- A link without a receive channel gets none when the pool has nothing left. -/
theorem acquireReceiver_none {pool : Pool} (empty : link.receiver = .empty)
    (acquired : hardware.pool.acquireAny = (none, pool)) :
    acquireReceiver ⟨link, hardware⟩ = ⟨link, hardware⟩ := by
  rw [acquireReceiver, empty, hardware.acquire_empty_none acquired, ← empty]

/-- The transmit channel goes back to the pool. -/
theorem releaseTransmitter_some {channel : Channel} (held : link.transmitter = ⟨some channel⟩) :
    releaseTransmitter ⟨link, hardware⟩ = ⟨{ link with transmitter := .empty },
      ⟨hardware.pool.release channel, hardware.device,
        hardware.journal ++ [.released channel]⟩⟩ := by
  rw [releaseTransmitter, held]
  rfl

/-- The receive channel goes back to the pool. -/
theorem releaseReceiver_some {channel : Channel} (held : link.receiver = ⟨some channel⟩) :
    releaseReceiver ⟨link, hardware⟩ = ⟨{ link with receiver := .empty },
      ⟨hardware.pool.release channel, hardware.device,
        hardware.journal ++ [.released channel]⟩⟩ := by
  rw [releaseReceiver, held]
  rfl

/-- Where there is no transmit channel none goes back. -/
theorem releaseTransmitter_none (empty : link.transmitter = .empty) :
    releaseTransmitter ⟨link, hardware⟩ = ⟨link, hardware⟩ := by
  -- An empty lease gives nothing back.
  have kept : hardware.release link.transmitter = (link.transmitter, hardware) := by
    rw [empty]
    rfl
  rw [releaseTransmitter, kept]

/-- Where there is no receive channel none goes back. -/
theorem releaseReceiver_none (empty : link.receiver = .empty) :
    releaseReceiver ⟨link, hardware⟩ = ⟨link, hardware⟩ := by
  have kept : hardware.release link.receiver = (link.receiver, hardware) := by
    rw [empty]
    rfl
  rw [releaseReceiver, kept]

/-- A channel to receive on is taken and set up, or both channels are given up again. -/
theorem setUpReceiver_cases {whole : Pool} {transmit : Nat}
    (held : link.transmitter = ⟨some transmit⟩) (empty : link.receiver = .empty)
    (first : whole.HandsOut 0 whole.size transmit hardware.pool) :
    (∃ error events device, setUpReceiver engine ⟨link, hardware⟩ transmit =
        (.error error, ⟨{ link with transmitter := .empty },
          ⟨whole, device, hardware.journal ++ events⟩⟩) ∧
      RefusedStart link.line true whole error
        (.acquired transmit :: .configuredTransmit transmit link.line (.ok ()) :: events)) ∨
    ∃ receive pool device, whole.Serves transmit (some receive) pool ∧
      setUpReceiver engine ⟨link, hardware⟩ transmit =
        (.ok (), ⟨{ link with receiver := ⟨some receive⟩ },
          ⟨pool, device, hardware.journal ++
            [.acquired receive, .configuredReceive receive link.line (.ok ())]⟩⟩) := by
  have left := first.countFree
  -- The pool may be empty and the engine may refuse, and both undo what was done so far.
  rcases acquired : hardware.pool.acquireAny with ⟨_ | receive, pool⟩
  · -- The pool has no second channel.
    have full : hardware.pool.countFree = 0 :=
      Pool.acquireAny_eq_none_iff_countFree.mp (congrArg Prod.fst acquired)
    refine .inl ⟨.resourceExhausted, [.deconfigured transmit, .released transmit],
      engine.deconfigure hardware.device transmit, ?_, .noReceiver transmit rfl (by omega)⟩
    have nothing : link.receiver.channel = none := congrArg Lease.channel empty
    simp only [setUpReceiver, acquireReceiver_none empty acquired, nothing, deconfigure,
      Hardware.deconfigure, Hardware.record, releaseTransmitter_some held, first.back,
      List.append_assoc, List.cons_append, List.nil_append]
  · have second := Pool.handsOut acquired
    have more := second.countFree
    rcases configured : engine.configureReceive hardware.device receive link.line with
      ⟨fault | ⟨⟩, device⟩
    · -- Both channels go back, which leaves the pool as it was before the first one.
      have back : (pool.release transmit).release receive = whole := by
        rw [Pool.release_comm, second.back, first.back]
      refine .inl ⟨.hardwareConfig fault, _, engine.deconfigure device transmit, ?_,
        .receiverFault transmit receive (first.apart second).symm fault rfl (by omega)⟩
      simp only [setUpReceiver, acquireReceiver_some empty acquired, Hardware.configureReceive,
        configured, deconfigure, Hardware.deconfigure, Hardware.record]
      have held : ({ link with receiver := ⟨some receive⟩ } : Link).transmitter = ⟨some transmit⟩ :=
        held
      rw [releaseTransmitter_some held, releaseReceiver_some rfl]
      simp [back, ← empty]
    · refine .inr ⟨receive, pool, device, .two first second, ?_⟩
      simp [setUpReceiver, acquireReceiver_some empty acquired, Hardware.configureReceive,
        configured, Hardware.record]

/-- All channels that the link needs are taken and set up, or everything is as it was before. -/
theorem setUpChannels_cases (transmitter : link.transmitter = .empty)
    (receiver : link.receiver = .empty) :
    (∃ error events device,
      RefusedStart link.line link.settings.bidirectional hardware.pool error events ∧
      (hardware.pool.countFree = 0 → device = hardware.device) ∧
      setUpChannels engine ⟨link, hardware⟩ =
        (.error error, ⟨link, hardware.afterUses device events⟩)) ∨
    ∃ transmit receive pool device, receive.isSome = link.settings.bidirectional ∧
      hardware.pool.Serves transmit receive pool ∧
      setUpChannels engine ⟨link, hardware⟩ =
        (.ok (), ⟨{ link with transmitter := ⟨some transmit⟩, receiver := ⟨receive⟩ },
          ⟨pool, device, hardware.journal ++ setUpUses link.line transmit receive⟩⟩) := by
  rcases acquired : hardware.pool.acquireAny with ⟨_ | transmit, pool⟩
  · -- The pool has no channel at all.
    have full : hardware.pool.countFree = 0 :=
      Pool.acquireAny_eq_none_iff_countFree.mp (congrArg Prod.fst acquired)
    have nothing : link.transmitter.channel = none := congrArg Lease.channel transmitter
    refine .inl ⟨.resourceExhausted, [], hardware.device, .noTransmitter full, fun _ => rfl, ?_⟩
    simp only [setUpChannels, acquireTransmitter_none transmitter acquired, nothing,
      Hardware.afterUses, List.append_nil]
  · have first := Pool.handsOut acquired
    have room : hardware.pool.countFree ≠ 0 := by
      have left := first.countFree
      omega
    rcases configured : engine.configureTransmit hardware.device transmit link.line with
      ⟨fault | ⟨⟩, device⟩
    · refine .inl ⟨.hardwareConfig fault, _, device, .transmitterFault transmit fault room,
        fun full => absurd full room, ?_⟩
      simp only [setUpChannels, acquireTransmitter_some transmitter acquired,
        Hardware.configureTransmit, configured, Hardware.record]
      rw [releaseTransmitter_some rfl]
      simp [first.back, ← transmitter, Hardware.afterUses]
    · -- The transmit channel is set up, and a receive channel is only needed for replies.
      let half : Session σ := ⟨{ link with transmitter := ⟨some transmit⟩ },
        ⟨pool, device, hardware.journal ++
          [.acquired transmit, .configuredTransmit transmit link.line (.ok ())]⟩⟩
      have rest : setUpChannels engine ⟨link, hardware⟩ =
          if link.settings.bidirectional then half.setUpReceiver engine transmit
          else (.ok (), half) := by
        simp [setUpChannels, acquireTransmitter_some transmitter acquired,
          Hardware.configureTransmit, configured, Hardware.record, half]
      rw [rest]
      cases replies : link.settings.bidirectional with
      | false =>
        refine .inr ⟨transmit, none, pool, device, rfl, .one first, ?_⟩
        simp [half, receiver, Lease.empty, setUpUses]
      | true =>
        have held : half.link.transmitter = ⟨some transmit⟩ := rfl
        have empty : half.link.receiver = .empty := receiver
        have first : hardware.pool.HandsOut 0 hardware.pool.size transmit half.hardware.pool := first
        rcases setUpReceiver_cases engine held empty first with
          ⟨error, events, device, refused, refusal⟩ | ⟨receive, more, device, serves, set⟩
        · refine .inl ⟨error, _, device, refusal, fun full => absurd full room, ?_⟩
          refine (if_pos rfl).trans (refused.trans ?_)
          simp [half, ← transmitter, Hardware.afterUses]
        · refine .inr ⟨transmit, some receive, more, device, rfl, serves, ?_⟩
          refine (if_pos rfl).trans (set.trans ?_)
          simp [half, setUpUses]

/-- All channels of a link go back, each after its set-up is undone. -/
theorem releaseChannels_some {transmit : Channel} {receive : Option Channel}
    (transmitter : link.transmitter = ⟨some transmit⟩) (receiver : link.receiver = ⟨receive⟩) :
    ∃ pool, pool.size = hardware.pool.size ∧
      (∀ held, hardware.pool.Lends (receive.toList ++ transmit :: held) → pool.Lends held) ∧
      releaseChannels engine ⟨link, hardware⟩ =
        ⟨{ link with transmitter := .empty, receiver := .empty },
          ⟨pool, (receive.toList ++ [transmit]).foldl engine.deconfigure hardware.device,
            hardware.journal ++ giveUpUses transmit receive⟩⟩ := by
  -- The receive channel goes first, and leaves the transmit channel as it was.
  cases receive with
  | none =>
    refine ⟨hardware.pool.release transmit, Pool.size_release .., fun held lends => lends.release,
      ?_⟩
    simp only [releaseChannels, receiver, transmitter, deconfigure]
    rw [releaseTransmitter_some transmitter]
    simp [Hardware.deconfigure, Hardware.record, receiver, Lease.empty, giveUpUses]
  | some receive =>
    refine ⟨(hardware.pool.release receive).release transmit,
      (Pool.size_release ..).trans (Pool.size_release ..), fun held lends => lends.release.release, ?_⟩
    simp only [releaseChannels, receiver, deconfigure]
    rw [releaseReceiver_some receiver]
    simp only [transmitter]
    rw [releaseTransmitter_some rfl]
    simp [Hardware.deconfigure, Hardware.record, giveUpUses]

/-- A frame is handed to the engine, which may refuse it. -/
theorem transmit_some {transmit : Channel} (held : link.transmitter = ⟨some transmit⟩)
    (order : Order) :
    ∃ outcome device, Session.transmit engine ⟨link, hardware⟩ order.value order.request =
      (outcome.succeeded,
        ⟨link, hardware.afterUses device
          [.transmitted transmit (order.pulses link.line) outcome]⟩) := by
  rcases sent : engine.transmit hardware.device transmit (order.pulses link.line) with
    ⟨outcome, device⟩
  refine ⟨outcome, device, ?_⟩
  -- The pulses of the order are those of the frame that carries it.
  have sent : engine.transmit hardware.device transmit
      (link.line.timing.pulses (.ofValue order.value order.request)) = (outcome, device) := sent
  simp only [Session.transmit, held, Hardware.transmit, sent, Hardware.record]
  rfl

/-- A capture that is polled teaches the link its reading, if it holds one. -/
theorem absorb_eq (link : Link) (hardware : Hardware σ) (channel : Channel) (capture : Capture) :
    absorb ⟨link, hardware⟩ capture =
      ⟨link.hear [.polled channel (some capture)], hardware⟩ := by
  -- What is no reply is neither absorbed nor a reading.
  unfold absorb
  cases read : Reading.ofCapture capture link.line.timing.replyBitTicks <;>
    simp [Link.hear, Event.reading?, Reading.ofCapture?, read, Except.toOption]

/-- A link listens on the channel that it can receive on, and learns what it hears there. -/
theorem collectTelemetry_listens :
    ∃ device events, Listens link.receiver.channel events ∧
      collectTelemetry engine ⟨link, hardware⟩ =
        ⟨link.hear events, hardware.afterUses device events⟩ := by
  -- The engine may refuse the window, and may or may not have a capture.
  rcases listening : link.receiver.channel with _ | receive
  · refine ⟨hardware.device, [], .deaf, ?_⟩
    rw [Link.hear_of_silent rfl]
    simp only [collectTelemetry, listening, Hardware.afterUses, List.append_nil]
  · rcases opened : engine.openWindow hardware.device receive with ⟨fault | ⟨⟩, device⟩
    · refine ⟨device, _, .refused receive fault, ?_⟩
      rw [Link.hear_of_silent rfl]
      simp only [collectTelemetry, listening, Hardware.openWindow, opened, Hardware.record,
        Hardware.afterUses]
    · -- Whatever the window holds, it is closed again.
      rcases polled : engine.poll device receive with ⟨_ | capture, later⟩
      · refine ⟨engine.closeWindow later receive, _, .heard receive none, ?_⟩
        rw [Link.hear_of_silent rfl]
        simp [collectTelemetry, listening, Hardware.openWindow, opened, Hardware.poll, polled,
          Hardware.closeWindow, Hardware.record, Hardware.afterUses]
      · -- Opening and closing the window bring no reading of their own.
        have brought : link.hear [.windowOpened receive (.ok ()), .polled receive (some capture),
            .windowClosed receive] = link.hear [.polled receive (some capture)] := rfl
        refine ⟨engine.closeWindow later receive, _, .heard receive (some capture), ?_⟩
        simp only [brought, collectTelemetry, listening, Hardware.openWindow, opened, Hardware.poll,
          polled, Hardware.record, absorb_eq _ _ receive, Hardware.closeWindow]
        simp [Hardware.afterUses]

end Session

end MotorLink
