import MotorLink.Proofs.Link.Arming

/-! Cadence: of the throttles that are due those are requests whose number an interval divides. -/

namespace MotorLink

/-- Whether a use of the hardware asks for a window to receive in. -/
def Event.isWindow : Event → Bool
  | .windowOpened _ _ => true
  | _ => false

/-- Whether a use of the hardware put a frame on the line. -/
def Event.isDelivery (event : Event) : Bool := event.pulses?.isSome && event.succeeded

namespace LinkSettings

/-- The number of throttles from one request for telemetry to the next. -/
def requestInterval (settings : LinkSettings) : Nat := max settings.requestDivisor.toNat 1

/-- The interval is a number, and one that fits in eight bits. -/
theorem requestInterval_bounds (settings : LinkSettings) :
    0 < settings.requestInterval ∧ settings.requestInterval ≤ 255 := by
  have byte := settings.requestDivisor.toNat_lt
  unfold requestInterval
  omega

end LinkSettings

namespace Link

/-- A count that wraps at the interval tells the numbers that the interval divides. -/
theorem countRequest_of_mod {link : Link} {settings : LinkSettings} {number : Nat}
    (made : link.settings = settings)
    (counted : link.requestCount = number % settings.requestInterval) :
    link.countRequest.1 = decide (settings.requestInterval ∣ number + 1) ∧
      link.countRequest.2.requestCount = (number + 1) % settings.requestInterval := by
  subst made
  obtain ⟨positive, fits⟩ := link.settings.requestInterval_bounds
  have below := Nat.mod_lt number positive
  rw [← counted] at below
  -- The count never gets to where eight bits would cut it off.
  have full : min (link.requestCount + 1) 255 = link.requestCount + 1 := by omega
  have same : (number + 1) % link.settings.requestInterval =
      (link.requestCount + 1) % link.settings.requestInterval := by
    rw [counted, Nat.mod_add_mod]
  have divides : link.settings.requestInterval ∣ number + 1 ↔
      (link.requestCount + 1) % link.settings.requestInterval = 0 := by
    rw [Nat.dvd_iff_mod_eq_zero, same]
  -- Below the interval the count goes up by one, and at the interval it starts anew.
  by_cases last : link.requestCount + 1 = link.settings.requestInterval
  · have reached : link.settings.requestDivisor.toNat ≤ link.requestCount + 1 := by
      rw [LinkSettings.requestInterval] at last
      omega
    have wraps : (link.requestCount + 1) % link.settings.requestInterval = 0 := by
      rw [last, Nat.mod_self]
    simp [countRequest, full, reached, divides, same, wraps]
  · have short : link.requestCount + 1 < link.settings.requestInterval := by omega
    have early : ¬link.settings.requestDivisor.toNat ≤ link.requestCount + 1 := by
      rw [LinkSettings.requestInterval] at short
      omega
    have next := Nat.mod_eq_of_lt short
    simp [countRequest, full, early, divides, same, next]

/-- A frame that is sent counts if it is that of a throttle, and leaves the count otherwise. -/
theorem requestCount_ahead (link : Link) (now : Nat) (call : Call) :
    (link.ahead now call).requestCount =
      if call.throttle?.isSome then link.countRequest.2.requestCount else link.requestCount := by
  -- Heeding a call never touches the count.
  obtain ⟨_, _, _, _, heed⟩ := link.heed_eq call
  have kept := congrArg requestCount heed
  cases call with
  | write =>
    rw [ahead, heed]
    rfl
  | start | stop | arm | special | command | direction | setRate | setPolePairs | read | discard =>
    exact kept

/-- Whether a call is a throttle that is due on a link, so that it is counted. -/
def counts (link : Link) (now : Nat) (call : Call) : Bool :=
  call.throttle?.isSome && link.isDue now

/-- A throttle that is counted has its order sent. -/
theorem order?_of_counts {link : Link} {now : Nat} {call : Call}
    (counts : link.counts now call = true) :
    ∃ value, link.order? now call = some ⟨value, link.countRequest.1⟩ := by
  obtain ⟨sets, due⟩ := Bool.and_eq_true_iff.mp counts
  obtain ⟨throttle, sets⟩ := Option.isSome_iff_exists.mp sets
  exact ⟨_, (order?_of_throttle? sets).trans (if_pos due)⟩

/-- Requests are the orders of those throttles alone that the count has come to. -/
theorem request_iff {link : Link} {now : Nat} {call : Call} :
    (∃ order, link.order? now call = some order ∧ order.request = true) ↔
      link.counts now call = true ∧ link.countRequest.1 = true := by
  -- The order of rest never asks, nor does that of a command, so a throttle is left.
  constructor
  · rintro ⟨order, ordered, asked⟩
    rcases order?_cases ordered with
      ⟨_, _, rfl⟩ | ⟨due, _, ⟨_, never⟩ | ⟨throttle, sets, rfl⟩⟩
    · cases asked
    · cases never.symm.trans asked
    · exact ⟨Bool.and_eq_true_iff.mpr ⟨Option.isSome_iff_exists.mpr ⟨_, sets⟩, due⟩, asked⟩
  · rintro ⟨counts, reached⟩
    obtain ⟨_, ordered⟩ := order?_of_counts counts
    exact ⟨_, ordered, reached⟩

end Link

/-- Where no frame is handed to the engine none is delivered. -/
theorem Event.not_isDelivery {events : List Event} (silent : events.filterMap Event.pulses? = []) :
    ¬∃ event ∈ events, event.isDelivery = true := by
  rintro ⟨event, listed, delivered⟩
  have none := List.filterMap_eq_nil_iff.mp silent event listed
  simp [isDelivery, none] at delivered

/-- After a frame a window is asked for if it was a request, it went out, and there is a channel. -/
theorem FollowUp.isWindow_iff {receive : Option Channel} {request : Bool} {outcome : Outcome}
    {events : List Event} (followUp : FollowUp receive request outcome events) :
    (∃ event ∈ events, event.isWindow = true) ↔
      request = true ∧ outcome = .ok () ∧ receive.isSome = true := by
  -- A frame that is not heard, or asked for nothing, is followed by nothing at all.
  cases followUp with
  | silent unheard =>
    refine ⟨by simp, ?_⟩
    rintro ⟨asked, sent, _⟩
    exact absurd sent (unheard asked)
  | listening asked sent listens => cases listens <;> simp [Event.isWindow, asked, sent]

namespace Conduct

variable {σ : Type} {now : Nat} {link : Link} {hardware : Hardware σ} {call : Call}
  {events : List Event} {after : Session σ}

/-- A window is asked for exactly after a request that was delivered, on a link that can receive. -/
theorem isWindow_iff (conduct : Conduct now link hardware call events after) :
    (∃ event ∈ events, event.isWindow = true) ↔
      (∃ order, link.order? now call = some order ∧ order.request = true) ∧
        (∃ event ∈ events, event.isDelivery = true) ∧ link.receiver.isHeld = true := by
  -- Only what follows a frame can ask for a window.
  have quiet {uses : List Event} (silent : uses.filterMap Event.pulses? = [])
      (shut : ∀ event ∈ uses, event.isWindow = false) :
      (∃ event ∈ uses, event.isWindow = true) ↔
        (∃ order, link.order? now call = some order ∧ order.request = true) ∧
          (∃ event ∈ uses, event.isDelivery = true) ∧ link.receiver.isHeld = true := by
    refine iff_of_false ?_ fun ⟨_, delivered, _⟩ => Event.not_isDelivery silent delivered
    rintro ⟨event, listed, window⟩
    cases (shut event listed).symm.trans window
  cases conduct with
  | spared => simp
  | refused _ refusal =>
    exact quiet refusal.quiet.1 (by cases refusal <;> simp [Event.isWindow])
  | @started _ receive =>
    exact quiet (setUpUses_quiet ..).1 (by cases receive <;> simp [setUpUses, Event.isWindow])
  | @sent _ _ transmit order outcome more _ _ _ _ followUp _ _ _ _ ordered =>
    -- The frame itself is delivered if the engine takes it, and asks for no window.
    let frame : Event := .transmitted transmit (order.pulses link.line) outcome
    have shut : frame.isWindow = false := rfl
    have delivered : frame.isDelivery = true ↔ outcome = .ok () := by
      cases outcome <;> simp [frame, Event.isDelivery, Event.pulses?, Event.succeeded,
        Outcome.succeeded]
    have silent := Event.not_isDelivery followUp.pulses_eq_nil
    simp only [List.exists_mem_cons_iff, shut, frame, delivered, silent, followUp.isWindow_iff,
      ordered, Bool.false_eq_true, false_or, or_false, Option.some.injEq, exists_eq_left',
      Lease.isHeld]
  | @ended _ _ receive order _ _ _ ends running _ _ _ _ rests =>
    -- The order of rest is no request.
    have ordered : link.order? now call = some link.idleOrder := by
      rcases ends with rfl | rfl <;> exact if_pos running
    cases receive <;>
      simp [ordered, Link.idleOrder, giveUpUses, Event.isWindow]

/-- While a link is running the count goes on with its throttles, and otherwise it is zero. -/
theorem requestCount_eq (conduct : Conduct now link hardware call events after)
    (resting : link.initialized = false → link.requestCount = 0) :
    after.link.requestCount =
      if link.initialized && after.link.initialized then
        if link.counts now call then link.countRequest.2.requestCount else link.requestCount
      else 0 := by
  cases conduct with
  | spared spares _ initialized _ _ heeds =>
    -- A throttle that is due is not held back.
    have idle : link.counts now call = false := by
      by_contra counts
      obtain ⟨_, ordered⟩ := Link.order?_of_counts (Bool.eq_true_of_not_eq_false counts)
      cases (Call.order?_of_spares spares).symm.trans ordered
    obtain ⟨_, _, _, _, heed⟩ := link.heed_eq call
    have kept := congrArg Link.requestCount (heeds.trans heed)
    dsimp only at initialized ⊢
    rw [initialized, idle, Bool.and_self, kept]
    cases running : link.initialized with
    | false => exact resting running
    | true => rfl
  | refused stopped => rw [stopped, resting stopped]; rfl
  | started stopped => rw [stopped]; rfl
  | sent running sender _ _ _ initialized _ _ _ heard =>
    -- What is sent of a throttle was due.
    have counts : link.counts now call = call.throttle?.isSome := by
      rcases sender with rfl | ⟨_, ready, due⟩
      · rfl
      · rw [Link.counts, Link.isDue, ready, decide_eq_true due, Bool.and_self, Bool.and_true]
    have kept := congrArg Link.requestCount heard
    dsimp only at initialized ⊢
    rw [initialized, running, counts, Bool.and_self, if_pos rfl, kept]
    exact link.requestCount_ahead now call
  | ended => rw [Bool.and_false]; rfl

end Conduct

namespace Step

variable {σ : Type}

/-- Whether a call is a throttle of a ready link that has waited its turn, delivered or not. -/
def counts (step : Step σ) : Bool := step.before.link.counts step.time step.call

/-- The number that a throttle gets after a run, among those that were due since the start. -/
def number (earlier : List (Step σ)) : Nat := (sinceStart earlier).countP counts + 1

end Step

namespace Session

variable {σ : Type} (engine : Engine σ) (settings : LinkSettings) (pool : Pool) (device : σ)

/-- The count of a link is that of the throttles since its start, up to whole intervals. -/
theorem requestCount_afterTurns (taken : List Turn) :
    let first : Session σ := ⟨.ofSettings settings, .fresh pool device⟩
    let link := (first.afterTurns engine taken).link
    let since := Step.sinceStart (first.turns engine taken)
    (link.initialized = false → since = []) ∧
      link.requestCount = since.countP Step.counts % settings.requestInterval := by
  -- A link that is not running has nothing to count, and every start finds the count at zero.
  refine (turns_induction engine settings pool device (fun earlier link =>
    (link.initialized = false → Step.sinceStart earlier = []) ∧ link.requestCount =
      (Step.sinceStart earlier).countP Step.counts % settings.requestInterval)
    ⟨fun _ => rfl, (Nat.zero_mod _).symm⟩ ?_ taken).2.2
  rintro earlier step hardware _ made conduct ⟨empty, counted⟩
  have resting (stopped : step.before.link.initialized = false) :
      step.before.link.requestCount = 0 := by
    rw [counted, empty stopped, List.countP_nil, Nat.zero_mod]
  rw [conduct.requestCount_eq resting, Step.sinceStart_concat]
  cases running : step.after.link.initialized with
  | false => simp
  | true =>
    refine ⟨nofun, ?_⟩
    cases ran : step.before.link.initialized with
    | false =>
      -- The call is a start, which is no throttle.
      have idle : step.counts = false := by
        simp [Step.counts, Link.counts, Link.isDue, Link.isReady, ran]
      simp [empty ran, idle]
    | true =>
      have next := (Link.countRequest_of_mod made.settings counted).2
      rw [Bool.and_self, if_pos rfl, if_pos rfl, List.countP_cons, next, counted]
      change (if step.counts then _ else _) = _
      cases step.counts <;> rfl

/--
Whatever a link is asked and its engine answers, every so many throttles one asks for telemetry.

The throttles of an armed link that were due are numbered from its start, delivered or not.
Those whose number the divisor of the settings divides are sent as requests, where a divisor of
zero counts as one, and no other frame is.
A window to receive in is asked for exactly after a request that was delivered, if the link holds
a channel for it.
The count stays below the divisor, and so it is never cut off.
-/
theorem turn_requests (earlier : List Turn) (last : Turn) :
    let first : Session σ := ⟨.ofSettings settings, .fresh pool device⟩
    let step := (first.afterTurns engine earlier).turn engine last
    let number := Step.number (first.turns engine earlier)
    let interval := max settings.requestDivisor.toNat 1
    let line := (Link.ofSettings settings).line
    (step.counts = true →
      ∃ value, step.frames = [Order.pulses ⟨value, decide (interval ∣ number)⟩ line]) ∧
    (step.asks line ↔ step.counts = true ∧ interval ∣ number) ∧
    ((∃ event ∈ step.events, event.isWindow = true) ↔
      step.counts = true ∧ interval ∣ number ∧
        (∃ event ∈ step.events, event.isDelivery = true) ∧
        step.before.link.receiver.isHeld = true) ∧
    step.before.link.requestCount < interval ∧ step.before.link.requestCount + 1 ≤ 255 := by
  intro first step number interval line
  obtain ⟨settled, made⟩ := settled_afterTurns engine settings pool device earlier
  have conduct := turn_conduct engine (first.afterTurns engine earlier) settled last
  have frames := step.frames_eq conduct
  obtain ⟨_, counted⟩ := requestCount_afterTurns engine settings pool device earlier
  have request : step.before.link.countRequest.1 = decide (interval ∣ number) :=
    (Link.countRequest_of_mod made.settings counted).1
  have asked : (∃ order, step.before.link.order? step.time step.call = some order ∧
      order.request = true) ↔ step.counts = true ∧ interval ∣ number := by
    rw [Link.request_iff, request, decide_eq_true_eq]
    rfl
  rw [show step.before.link.line = line from made.line] at frames
  refine ⟨fun counts => ?_, ?_, ?_, ?_⟩
  · obtain ⟨value, ordered⟩ := Link.order?_of_counts counts
    refine ⟨value, ?_⟩
    rw [frames, ordered, request]
    rfl
  · rw [← asked]
    constructor
    · -- The pulses tell the whole order, whatever the clock.
      rintro ⟨value, listed⟩
      have listed : Order.pulses ⟨value, true⟩ line ∈ step.frames := listed
      rw [frames] at listed
      obtain ⟨order, ordered, same⟩ := List.mem_map.mp listed
      have order_eq := Order.eq_of_pulses same
      exact ⟨order, Option.mem_toList.mp ordered, by rw [order_eq]⟩
    · rintro ⟨⟨value, request⟩, ordered, rfl⟩
      refine ⟨value, ?_⟩
      show _ ∈ step.frames
      rw [frames, ordered]
      exact .head _
  · exact conduct.isWindow_iff.trans ((and_congr_left' asked).trans and_assoc)
  · obtain ⟨positive, fits⟩ := settings.requestInterval_bounds
    have below := Nat.mod_lt ((Step.sinceStart (first.turns engine earlier)).countP Step.counts)
      positive
    have counted : step.before.link.requestCount < interval := counted ▸ below
    exact ⟨counted, Nat.le_trans counted fits⟩

end Session

end MotorLink
