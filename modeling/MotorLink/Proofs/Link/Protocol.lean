import MotorLink.Engine.Script
import MotorLink.Proofs.Link.Turns

/-! Protocol: a link uses its hardware in an order that leaves nothing set up or open behind. -/

namespace MotorLink

namespace Event

/-- Whether a use sets a channel up, with the engine's consent. -/
def setsUp (channel : Channel) : Event → Bool
  | .configuredTransmit used _ (.ok ()) | .configuredReceive used _ (.ok ()) => used == channel
  | _ => false

/-- Whether a use undoes the set-up of a channel. -/
def undoes (channel : Channel) : Event → Bool
  | .deconfigured used => used == channel
  | _ => false

end Event

/-- What a history of uses leaves: held channels, those set up, and an open window. -/
structure Usage where
  held : List Channel
  transmitter : Option Channel
  receiver : Option Channel
  window : Option Channel
deriving DecidableEq, Repr

namespace Usage

/-- Before the first use nothing is held, set up or open. -/
def idle : Usage := ⟨[], none, none, none⟩

/-- Whether a channel is set up. -/
def IsSetUp (usage : Usage) (channel : Channel) : Prop :=
  usage.transmitter = some channel ∨ usage.receiver = some channel
deriving Decidable

/-- What one more use leaves; a set-up or a window that the engine refuses changes nothing. -/
def after (usage : Usage) : Event → Usage
  | .acquired channel => { usage with held := channel :: usage.held }
  | .released channel => { usage with held := usage.held.erase channel }
  | .configuredTransmit channel _ (.ok ()) => { usage with transmitter := some channel }
  | .configuredReceive channel _ (.ok ()) => { usage with receiver := some channel }
  | .deconfigured channel =>
    { usage with
      transmitter := usage.transmitter.filter (· ≠ channel)
      receiver := usage.receiver.filter (· ≠ channel) }
  | .windowOpened channel (.ok ()) => { usage with window := some channel }
  | .windowClosed channel => { usage with window := usage.window.filter (· ≠ channel) }
  | .configuredTransmit _ _ (.error _) | .configuredReceive _ _ (.error _)
  | .windowOpened _ (.error _) | .transmitted _ _ _ | .polled _ _ => usage

/-- What a history leaves. -/
def ofHistory (history : List Event) : Usage := history.foldl after idle

/-- Uses go on from what a history left. -/
@[simp] theorem ofHistory_append (history more : List Event) :
    ofHistory (history ++ more) = more.foldl after (ofHistory history) :=
  List.foldl_append ..

end Usage

/-- What a use asks of the uses before it, for a link on a line. -/
def Event.Allowed (line : Line) (history : List Event) (event : Event) : Prop :=
  let usage := Usage.ofHistory history
  match event with
  | .acquired channel => channel ∉ usage.held
  -- Only what is held is set up, and only once; it goes back when it is set up no more.
  | .configuredTransmit channel on _ =>
    channel ∈ usage.held ∧ ¬ usage.IsSetUp channel ∧ usage.transmitter = none ∧ on = line
  | .configuredReceive channel on _ =>
    channel ∈ usage.held ∧ ¬ usage.IsSetUp channel ∧ usage.receiver = none ∧ on = line
  | .deconfigured channel => usage.IsSetUp channel
  | .released channel => channel ∈ usage.held ∧ ¬ usage.IsSetUp channel
  | .transmitted channel pulses _ =>
    usage.transmitter = some channel ∧ pulses.length = Frame.bitCount ∧
      ∃ order : Order, pulses = order.pulses line
  -- A window opens at once after a request that went out, and is polled and closed at once.
  | .windowOpened channel _ =>
    usage.receiver = some channel ∧ usage.window = none ∧
      ∃ sender value, history.getLast? =
        some (.transmitted sender (Order.pulses ⟨value, true⟩ line) (.ok ()))
  | .polled channel _ => history.getLast? = some (.windowOpened channel (.ok ()))
  | .windowClosed channel => ∃ capture, history.getLast? = some (.polled channel capture)

/-- Whether uses that come after a history are each allowed after those before it. -/
def Orderly (line : Line) : List Event → List Event → Prop
  | _, [] => True
  | history, event :: rest => event.Allowed line history ∧ Orderly line (history ++ [event]) rest

namespace Orderly

variable {line : Line} {history : List Event}

/-- Uses are orderly when each part of them is, the later after the earlier. -/
theorem append_iff {early late : List Event} :
    Orderly line history (early ++ late) ↔
      Orderly line history early ∧ Orderly line (history ++ early) late := by
  -- The first use is checked against the history, and is part of it for the rest.
  induction early generalizing history with
  | nil => simp [Orderly]
  | cons first rest ih => simp [Orderly, ih, and_assoc]

/-- In an orderly history every use is allowed after those before it. -/
theorem allowed {events early late : List Event} {event : Event}
    (orderly : Orderly line [] events) (split : events = early ++ event :: late) :
    event.Allowed line early := by
  rw [split, append_iff] at orderly
  exact orderly.2.1

/-- A channel is set up after a use that sets it up, and stays so until a use undoes it. -/
theorem isSetUp_after {event : Event} (allowed : event.Allowed line history) (channel : Channel) :
    ((Usage.ofHistory history).after event).IsSetUp channel ↔
      event.setsUp channel = true ∨
        (Usage.ofHistory history).IsSetUp channel ∧ event.undoes channel = false := by
  -- Only set-ups that the engine agreed to count, so those cases split on its answer.
  cases event with
  | configuredTransmit used _ outcome =>
    -- No other channel was set up to transmit, so none is forgotten.
    obtain ⟨_, _, vacant, _⟩ := allowed
    rcases outcome with _ | ⟨⟩ <;>
      simp [Event.setsUp, Event.undoes, Usage.after, Usage.IsSetUp, vacant]
  | configuredReceive used _ outcome =>
    obtain ⟨_, _, vacant, _⟩ := allowed
    rcases outcome with _ | ⟨⟩ <;>
      simp [Event.setsUp, Event.undoes, Usage.after, Usage.IsSetUp, vacant, or_comm]
  | deconfigured used =>
    simp only [Usage.after, Usage.IsSetUp, Option.filter_eq_some_iff, Event.setsUp, Event.undoes,
      Bool.false_eq_true, false_or, decide_eq_true_eq, beq_eq_false_iff_ne, ← or_and_right,
      ne_comm]
  | windowOpened _ outcome =>
    rcases outcome with _ | ⟨⟩ <;>
      simp [Event.setsUp, Event.undoes, Usage.after, Usage.IsSetUp]
  | acquired | released | transmitted | polled | windowClosed =>
    simp [Event.setsUp, Event.undoes, Usage.after, Usage.IsSetUp]

/-- What is set up was not set up before. -/
theorem not_isSetUp_of_setsUp {event : Event} {channel : Channel}
    (allowed : event.Allowed line history) (sets : event.setsUp channel = true) :
    ¬ (Usage.ofHistory history).IsSetUp channel := by
  unfold Event.setsUp at sets
  -- Either kind of set-up is allowed only where there is none yet.
  split at sets
  · cases beq_iff_eq.mp sets
    exact allowed.2.1
  · cases beq_iff_eq.mp sets
    exact allowed.2.1
  · cases sets

/-- What is undone was set up before. -/
theorem isSetUp_of_undoes {event : Event} {channel : Channel}
    (allowed : event.Allowed line history) (undone : event.undoes channel = true) :
    (Usage.ofHistory history).IsSetUp channel := by
  unfold Event.undoes at undone
  split at undone
  · cases beq_iff_eq.mp undone
    exact allowed
  · cases undone

/-- One use that is allowed keeps the balance of set-ups that are not undone. -/
theorem balance {event : Event} (allowed : event.Allowed line history) (channel : Channel) :
    (if (Usage.ofHistory history).IsSetUp channel then 1 else 0) +
        (if event.setsUp channel then 1 else 0) =
      (if event.undoes channel then 1 else 0) +
        if ((Usage.ofHistory history).after event).IsSetUp channel then 1 else 0 := by
  have after := isSetUp_after allowed channel
  by_cases sets : event.setsUp channel = true
  · have unused := not_isSetUp_of_setsUp allowed sets
    have stays : ¬ event.undoes channel = true := fun undone =>
      unused (isSetUp_of_undoes allowed undone)
    rw [if_neg unused, if_pos sets, if_neg stays, if_pos (after.mpr (.inl sets))]
  · by_cases undone : event.undoes channel = true
    · have used := isSetUp_of_undoes allowed undone
      have free : ¬ ((Usage.ofHistory history).after event).IsSetUp channel := by
        simp [after, sets, undone]
      rw [if_pos used, if_neg sets, if_pos undone, if_neg free]
    · -- Neither set up nor undone, the channel stays as it was.
      simp [after, sets, undone]

/-- In an orderly history every set-up is undone exactly once, unless it still stands. -/
theorem countP_setsUp (orderly : Orderly line [] history) (channel : Channel) :
    history.countP (·.setsUp channel) =
      history.countP (·.undoes channel) +
        if (Usage.ofHistory history).IsSetUp channel then 1 else 0 := by
  induction history using List.reverseRecOn with
  | nil => rfl
  | append_singleton history event ih =>
    -- The last use keeps the balance that the earlier ones left.
    obtain ⟨before, allowed, _⟩ := append_iff.mp orderly
    have counted := ih before
    have kept := balance (List.nil_append history ▸ allowed) channel
    rw [List.countP_append, List.countP_append, List.countP_singleton, List.countP_singleton,
      counted, Usage.ofHistory_append, List.foldl_cons, List.foldl_nil]
    omega

end Orderly

/-- The pulses of an order are as many as a frame has bits. -/
@[simp] theorem Order.length_pulses (order : Order) (line : Line) :
    (order.pulses line).length = Frame.bitCount := by
  simp [pulses, BitTiming.pulses, Frame.bitCount]

section Uses

variable {line : Line} {history : List Event} {transmit : Channel} {receive : Option Channel}

/-- A start that is refused uses the hardware in order, and leaves nothing behind. -/
theorem RefusedStart.orderly {replies : Bool} {pool : Pool} {error : LinkError}
    {events : List Event} (refused : RefusedStart line replies pool error events)
    (idle : Usage.ofHistory history = .idle) :
    Orderly line history events ∧ Usage.ofHistory (history ++ events) = .idle := by
  -- Each refusal is a short list of uses that can be gone through one by one.
  cases refused with
  | noTransmitter =>
    rw [List.append_nil]
    exact ⟨trivial, idle⟩
  | transmitterFault | noReceiver =>
    simp [Orderly, Event.Allowed, Usage.after, Usage.IsSetUp, idle, Usage.idle]
  | receiverFault _ _ apart =>
    simp [Orderly, Event.Allowed, Usage.after, Usage.IsSetUp, idle, Usage.idle, apart, apart.symm]

/-- A start sets up what a link then uses. -/
theorem orderly_setUpUses (line : Line) (apart : receive ≠ some transmit)
    (idle : Usage.ofHistory history = .idle) :
    Orderly line history (setUpUses line transmit receive) ∧
      Usage.ofHistory (history ++ setUpUses line transmit receive) =
        ⟨receive.toList ++ [transmit], some transmit, receive, none⟩ := by
  -- The two channels differ, so the second set-up finds its own one unused.
  cases receive with
  | none => simp [setUpUses, Orderly, Event.Allowed, Usage.after, Usage.IsSetUp, idle, Usage.idle]
  | some receive =>
    have apart : receive ≠ transmit := fun same => apart (congrArg some same)
    simp [setUpUses, Orderly, Event.Allowed, Usage.after, Usage.IsSetUp, idle, Usage.idle, apart,
      apart.symm]

/-- An end undoes what a link used, and leaves nothing behind. -/
theorem orderly_giveUpUses (line : Line) (apart : receive ≠ some transmit)
    (used : Usage.ofHistory history =
      ⟨receive.toList ++ [transmit], some transmit, receive, none⟩) :
    Orderly line history (giveUpUses transmit receive) ∧
      Usage.ofHistory (history ++ giveUpUses transmit receive) = .idle := by
  -- The channels are given up in the reverse order of their set-up.
  cases receive with
  | none => simp [giveUpUses, Orderly, Event.Allowed, Usage.after, Usage.IsSetUp, used, Usage.idle]
  | some receive =>
    have apart : receive ≠ transmit := fun same => apart (congrArg some same)
    simp [giveUpUses, Orderly, Event.Allowed, Usage.after, Usage.IsSetUp, used, Usage.idle, apart,
      apart.symm]

/-- A request that went out is listened for, and the window is shut again. -/
theorem FollowUp.orderly {order : Order} {outcome : Outcome} {events : List Event}
    {held : List Channel} (followUp : FollowUp receive order.request outcome events)
    (used : Usage.ofHistory history = ⟨held, some transmit, receive, none⟩)
    (latest : history.getLast? = some (.transmitted transmit (order.pulses line) outcome)) :
    Orderly line history events ∧
      Usage.ofHistory (history ++ events) = ⟨held, some transmit, receive, none⟩ := by
  -- When the window opens the frame of the request is still the last use.
  cases followUp with
  | silent => exact ⟨trivial, by rw [List.append_nil, used]⟩
  | listening asked sent listens =>
    obtain ⟨value, request⟩ := order
    cases asked
    subst sent
    cases listens with
    | deaf => exact ⟨trivial, by rw [List.append_nil, used]⟩
    | refused receive fault =>
      refine ⟨⟨⟨by rw [used], by rw [used], transmit, value, latest⟩, trivial⟩, ?_⟩
      simp [Usage.after, used]
    | heard receive capture =>
      refine ⟨⟨⟨by rw [used], by rw [used], transmit, value, latest⟩, ?_⟩, ?_⟩
      · simp [Orderly, Event.Allowed]
      · simp [Usage.after, used]

/-- A frame goes out on the channel that is set up for it, and what comes after is in order. -/
theorem FollowUp.orderly_sent {order : Order} {outcome : Outcome} {more : List Event}
    {held : List Channel} (followUp : FollowUp receive order.request outcome more) (line : Line)
    (used : Usage.ofHistory history = ⟨held, some transmit, receive, none⟩) :
    Orderly line history (.transmitted transmit (order.pulses line) outcome :: more) ∧
      Usage.ofHistory (history ++ .transmitted transmit (order.pulses line) outcome :: more) =
        ⟨held, some transmit, receive, none⟩ := by
  -- The frame leaves everything in use as it was, and is the last use for what follows.
  have sent : Usage.ofHistory (history ++ [.transmitted transmit (order.pulses line) outcome]) =
      ⟨held, some transmit, receive, none⟩ := by
    simp [Usage.after, used]
  have latest : (history ++ [Event.transmitted transmit (order.pulses line) outcome]).getLast? =
      some (.transmitted transmit (order.pulses line) outcome) := List.getLast?_concat ..
  obtain ⟨orderly, left⟩ := followUp.orderly sent latest
  refine ⟨⟨⟨by rw [used], order.length_pulses line, order, rfl⟩, orderly⟩, ?_⟩
  rwa [List.append_assoc] at left

/-- What a call has to do after an attempt to open a window. -/
def SeesThrough (channel : Channel) (opened : Outcome) (late : List Event) : Prop :=
  match opened with
  | .ok () => ∃ capture, late = [.polled channel capture, .windowClosed channel]
  | .error _ => late = []

/-- A window that is opened for a reply is polled and closed, and one that is refused is not. -/
theorem FollowUp.seesThrough {request : Bool} {outcome opened : Outcome}
    {events early late : List Event} {channel : Channel}
    (followUp : FollowUp receive request outcome events)
    (split : events = early ++ .windowOpened channel opened :: late) :
    SeesThrough channel opened late := by
  have listed : Event.windowOpened channel opened ∈ events := by simp [split]
  cases followUp with
  | silent => cases listed
  | listening _ _ listens =>
    -- Nothing but the first use of a reply opens a window.
    cases listens with
    | deaf => cases listed
    | refused receive fault =>
      rcases early with _ | ⟨_, early⟩
      · obtain ⟨same, rest⟩ := List.cons.inj split
        cases same
        exact rest.symm
      · simp at split
    | heard receive capture =>
      rcases early with _ | ⟨_, early⟩
      · obtain ⟨same, rest⟩ := List.cons.inj split
        cases same
        exact ⟨capture, rest.symm⟩
      · have again : Event.windowOpened channel opened ∈
            [.polled receive capture, .windowClosed receive] := by
          rw [(List.cons.inj split).2]
          simp
        simp at again

end Uses

/-- What the channels of a link are used for between two calls. -/
def Link.usage (link : Link) : Usage :=
  ⟨link.channels, link.transmitter.channel, link.receiver.channel, none⟩

namespace Link

variable {link : Link}

/-- A link that is not running uses nothing. -/
theorem Settled.usage_eq_idle (settled : link.Settled) (stopped : link.initialized = false) :
    link.usage = .idle := by
  obtain ⟨transmitter, receiver⟩ := settled.resting stopped
  rw [usage, settled.channels_eq_nil stopped, transmitter, receiver]
  rfl

/-- A link uses the channels that it holds. -/
theorem usage_eq {transmit : Channel} {receive : Option Channel}
    (transmitter : link.transmitter = ⟨some transmit⟩) (receiver : link.receiver = ⟨receive⟩) :
    link.usage = ⟨receive.toList ++ [transmit], some transmit, receive, none⟩ := by
  rw [usage, channels, transmitter, receiver]
  rfl

/-- Links that hold the same channels use them alike. -/
theorem Kin.usage_eq {other : Link} (kin : other.Kin link) : other.usage = link.usage := by
  rw [usage, usage, channels, channels, kin.transmitter, kin.receiver]

end Link

/-- A link whose hardware was used in order, for what the link holds and nothing else. -/
structure Abides (line : Line) (history : List Event) (link : Link) : Prop where
  orderly : Orderly line [] history
  usage : Usage.ofHistory history = link.usage
  settled : link.Settled
  line : link.line = line
  apart : ∀ transmit, link.transmitter = ⟨some transmit⟩ → link.receiver.channel ≠ some transmit

/-- A call uses the hardware in order if it was used in order before. -/
theorem Conduct.abides {σ : Type} {now : Nat} {link : Link} {hardware : Hardware σ} {call : Call}
    {events : List Event} {after : Session σ} (conduct : Conduct now link hardware call events after)
    {line : Line} {history : List Event} (abides : Abides line history link) :
    Abides line (history ++ events) after.link := by
  obtain ⟨orderly, used, settled, rfl, apart⟩ := abides
  -- What remains to be seen is that the uses leave just what the link holds after them.
  have goesOn {usage : Usage} (uses : Orderly link.line history events ∧
      Usage.ofHistory (history ++ events) = usage) (left : after.link.usage = usage)
      (apart : ∀ transmit, after.link.transmitter = ⟨some transmit⟩ →
        after.link.receiver.channel ≠ some transmit) :
      Abides link.line (history ++ events) after.link :=
    ⟨Orderly.append_iff.mpr ⟨orderly, uses.1⟩, uses.2.trans left.symm, conduct.settled settled,
      conduct.settings_line.2, apart⟩
  cases conduct with
  | spared _ kin =>
    refine goesOn ⟨trivial, ?_⟩ kin.usage_eq ?_
    · rw [List.append_nil, used]
    · rw [kin.transmitter, kin.receiver]
      exact apart
  | refused stopped refusal =>
    have idle := settled.usage_eq_idle stopped
    exact goesOn (refusal.orderly (used.trans idle)) idle apart
  | started stopped _ different =>
    have idle := used.trans (settled.usage_eq_idle stopped)
    refine goesOn (orderly_setUpUses _ different idle) (Link.usage_eq rfl rfl) ?_
    rintro _ ⟨⟩
    exact different
  | sent _ _ held followUp kin =>
    have inUse := used.trans (Link.usage_eq held rfl)
    refine goesOn (followUp.orderly_sent _ inUse) (kin.usage_eq.trans (Link.usage_eq held rfl)) ?_
    rw [kin.transmitter, kin.receiver]
    exact apart
  | @ended _ transmit receive order outcome _ _ _ _ transmitter receiver _ _ rests =>
    have inUse := used.trans (Link.usage_eq transmitter receiver)
    -- The last frame goes out first, and then everything is given up.
    have nothing : FollowUp receive order.request outcome [] := by
      rw [rests]
      exact .silent nofun
    obtain ⟨⟨sent, _⟩, inUse⟩ := nothing.orderly_sent link.line inUse
    have different : receive ≠ some transmit := by
      have different := apart transmit transmitter
      rwa [receiver] at different
    obtain ⟨given, idle⟩ := orderly_giveUpUses link.line different inUse
    rw [List.append_assoc] at idle
    exact goesOn ⟨⟨sent, given⟩, idle⟩ rfl nofun

/-- Every window that a call opens is polled and closed before the call is over. -/
theorem Conduct.seesThrough {σ : Type} {now : Nat} {link : Link} {hardware : Hardware σ}
    {call : Call} {events early late : List Event} {after : Session σ} {channel : Channel}
    {opened : Outcome} (conduct : Conduct now link hardware call events after)
    (split : events = early ++ .windowOpened channel opened :: late) :
    SeesThrough channel opened late := by
  have listed : Event.windowOpened channel opened ∈ events := by simp [split]
  cases conduct with
  | spared => cases listed
  | refused _ refusal => cases refusal <;> simp at listed
  | @started _ receive => cases receive <;> simp [setUpUses] at listed
  | sent _ _ _ followUp =>
    -- The first use is the frame, so the window is among those that follow it.
    rcases early with _ | ⟨_, early⟩
    · cases split
    · exact followUp.seesThrough (List.cons.inj split).2
  | @ended _ _ receive => cases receive <;> simp [giveUpUses] at listed

namespace Session

variable {σ : Type} (engine : Engine σ) (settings : LinkSettings) (pool : Pool) (device : σ)

/-- All turns of a new link use the hardware in order. -/
theorem abides_afterTurns (turns : List Turn) :
    let s := Session.afterTurns engine turns ⟨.ofSettings settings, .fresh pool device⟩
    Abides (Link.ofSettings settings).line s.hardware.journal s.link := by
  -- The induction takes the last turn off.
  induction turns using List.reverseRecOn with
  | nil => exact ⟨trivial, rfl, Link.settled_ofSettings settings, rfl, nofun⟩
  | append_singleton turns last ih =>
    intro s
    have conduct := turn_conduct engine _ ih.settled last
    have abides := conduct.abides ih
    rw [← conduct.journal] at abides
    rwa [← afterTurns_concat] at abides

/--
Whatever a link is asked and its engine answers, after every call the journal tells of good order.

Each use is allowed after those before it: only held channels are set up, and only once;
they are given back when set up no more; frames and windows use the channels set up for them.
Each set-up is undone exactly once, unless the link still uses it, as a running link does.
Each window that opens is polled and closed within the call; after an end nothing is in use.
-/
theorem turn_orderly (earlier : List Turn) (last : Turn) :
    let before := Session.afterTurns engine earlier ⟨.ofSettings settings, .fresh pool device⟩
    let step := before.turn engine last
    let journal := step.after.hardware.journal
    (∀ early event late, journal = early ++ event :: late →
      event.Allowed (Link.ofSettings settings).line early) ∧
    (∀ early late channel, journal = early ++ late →
      early.countP (·.setsUp channel) = early.countP (·.undoes channel) +
        if (Usage.ofHistory early).IsSetUp channel then 1 else 0) ∧
    (∀ early channel opened late, step.events = early ++ .windowOpened channel opened :: late →
      SeesThrough channel opened late) ∧
    Usage.ofHistory journal = step.after.link.usage ∧
    step.after.link.Settled ∧
    (step.call = .stop ∨ step.call = .discard → Usage.ofHistory journal = .idle) := by
  intro before step journal
  have begun : Abides (Link.ofSettings settings).line before.hardware.journal before.link :=
    abides_afterTurns engine settings pool device earlier
  have conduct := turn_conduct engine before begun.settled last
  -- The journal has grown by the uses of the call.
  have abides : Abides (Link.ofSettings settings).line journal step.after.link := by
    have abides := conduct.abides begun
    rwa [← conduct.journal] at abides
  refine ⟨fun early event late split => abides.orderly.allowed split,
    fun early late channel history => ?_, fun early channel opened late => conduct.seesThrough,
    abides.usage, abides.settled, fun ends => ?_⟩
  · -- A part of an orderly history is orderly.
    have orderly := abides.orderly
    rw [history] at orderly
    exact (Orderly.append_iff.mp orderly).1.countP_setsUp channel
  · -- A link that was ended is not running, and then it uses nothing.
    have stopped : step.after.link.initialized = false := by
      by_contra running
      rcases conduct.running (Bool.not_eq_false _ ▸ running) with starts | ⟨_, keeps, stays⟩
      · rcases ends with ends | ends <;> cases starts.symm.trans ends
      · exact ends.elim keeps stays
    exact abides.usage.trans (abides.settled.usage_eq_idle stopped)

-- An engine that refuses nothing has both channels set up after a start.
example :
    let first : Session Script := ⟨.ofSettings .standard, .fresh (.ofSize 2) (.initial none)⟩
    let step := first.turn Script.engine ⟨0, .start, .ofSize 2⟩
    Usage.ofHistory step.after.hardware.journal = ⟨[1, 0], some 0, some 1, none⟩ := by
  decide +kernel

end Session

end MotorLink
