import MotorLink.Proofs.Channel.FirstFit
import MotorLink.Proofs.Link.Protocol

/-! Starts: a start gets a link all that it needs, or leaves everything as it was before. -/

namespace MotorLink

namespace Pool

namespace Serves

variable {pool left : Pool} {transmit : Channel} {receive : Option Channel}

/-- A link transmits on the lowest free channel. -/
theorem isLeast_transmit (serves : pool.Serves transmit receive left) :
    IsLeast pool.free transmit := by
  cases serves with
  | one first => exact first.isLeast
  | two first => exact first.isLeast

/-- A link receives on the lowest channel that is free beside the one to transmit on. -/
theorem isLeast_receive {channel : Channel} (serves : pool.Serves transmit (some channel) left) :
    IsLeast (pool.free \ {transmit}) channel := by
  cases serves with
  | two first second => exact first.free_eq ▸ second.isLeast

/-- The channels of a link have become taken, and no others. -/
theorem isTaken (serves : pool.Serves transmit receive left) (channel : Nat) :
    left.isTaken channel = true ↔
      pool.isTaken channel = true ∨ channel = transmit ∨ receive = some channel := by
  -- The second channel is taken from what the first one left.
  cases serves with
  | one first => simp [first.taken]
  | two first second => simp [first.taken, second.taken, or_assoc, @eq_comm _ channel]

/-- A pool that serves a link has as many free channels as the link takes. -/
theorem le_countFree (serves : pool.Serves transmit receive left) :
    receive.toList.length + 1 ≤ pool.countFree := by
  -- Each channel that was handed out was free before.
  cases serves with
  | one first =>
    have one := first.countFree
    simp only [Option.toList_none, List.length_nil]
    omega
  | two first second =>
    have one := first.countFree
    have two := second.countFree
    simp only [Option.toList_some, List.length_singleton]
    omega

end Serves

end Pool

namespace RefusedStart

variable {line : Line} {replies : Bool} {pool : Pool} {error : LinkError} {events : List Event}

/-- A start fails for want of channels when none is free, or none beside the one it has set up. -/
theorem eq_resourceExhausted_iff (refused : RefusedStart line replies pool error events) :
    error = .resourceExhausted ↔ pool.countFree = 0 ∨
      replies = true ∧ pool.countFree < 2 ∧
        ∃ channel, .configuredTransmit channel line (.ok ()) ∈ events := by
  -- Four ways to fail: two for want of a channel, and two where the engine refuses a set-up.
  cases refused with
  | noTransmitter full => simp [full]
  | transmitterFault _ _ room => simp [room]
  | noReceiver _ wanted last => simp [wanted, last]
  | receiverFault _ _ _ _ _ room =>
    refine iff_of_false nofun ?_
    rintro (none | ⟨_, few, _⟩) <;> omega

/-- A start fails on the engine's account when the engine refused a set-up, and for that reason. -/
theorem eq_hardwareConfig_iff (refused : RefusedStart line replies pool error events)
    (fault : HardwareFault) :
    error = .hardwareConfig fault ↔
      (∃ channel, .configuredTransmit channel line (.error fault) ∈ events) ∨
      2 ≤ pool.countFree ∧ ∃ channel, .configuredReceive channel line (.error fault) ∈ events := by
  -- In the journal of a refusal at most one set-up failed, and it is the reason.
  cases refused with
  | noTransmitter | noReceiver => simp
  | transmitterFault => simp [eq_comm]
  | receiverFault _ _ _ _ _ room => simp [room, eq_comm]

/-- A start fails for no other reasons than these two. -/
theorem eq_or_eq (refused : RefusedStart line replies pool error events) :
    error = .resourceExhausted ∨ ∃ fault, error = .hardwareConfig fault := by
  cases refused with
  | noTransmitter | noReceiver => exact .inl rfl
  | transmitterFault _ fault | receiverFault _ _ _ fault => exact .inr ⟨fault, rfl⟩

/-- A start that is refused calls the engine only when a channel is free. -/
theorem eq_nil_of_full (refused : RefusedStart line replies pool error events)
    (full : pool.countFree = 0) : events = [] := by
  -- Three of the four ways to fail tell of a channel that was free.
  cases refused with
  | noTransmitter => rfl
  | transmitterFault _ _ room => exact absurd full room
  | noReceiver _ _ last => omega
  | receiverFault _ _ _ _ _ room => omega

end RefusedStart

namespace Session

variable {σ : Type}

/-- After a call the link, the pool and what is set up in the engine are as they were before. -/
structure Untouched (before after : Session σ) : Prop where
  link : after.link = before.link
  pool : after.hardware.pool = before.hardware.pool
  usage : Usage.ofHistory after.hardware.journal = Usage.ofHistory before.hardware.journal

/-- A start took the lowest free channels and no others, set them up, and has the link wait. -/
structure Launched (now : Nat) (before after : Session σ) (transmit : Channel)
    (receive : Option Channel) : Prop where
  lowest : IsLeast before.hardware.pool.free transmit
  next : ∀ channel, receive = some channel →
    IsLeast (before.hardware.pool.free \ {transmit}) channel
  complete : receive.isSome = before.link.settings.bidirectional
  taken : ∀ channel, after.hardware.pool.isTaken channel = true ↔
    before.hardware.pool.isTaken channel = true ∨ channel = transmit ∨ receive = some channel
  usage : Usage.ofHistory after.hardware.journal =
    ⟨receive.toList ++ [transmit], some transmit, receive, none⟩
  link : after.link = { before.link with
    transmitter := ⟨some transmit⟩, receiver := ⟨receive⟩, initialized := true,
    state := .disarmed, requestCount := 0, nextDue := now }
  due : (after.link.passGate? now).isSome = true

/-- A start that succeeds leaves a link launched. -/
theorem launched_of_serves {now : Nat} {link : Link} {hardware : Hardware σ} {transmit : Channel}
    {receive : Option Channel} {pool : Pool} (device : σ)
    (idle : Usage.ofHistory hardware.journal = .idle)
    (complete : receive.isSome = link.settings.bidirectional)
    (serves : hardware.pool.Serves transmit receive pool) :
    Launched now ⟨link, hardware⟩
      ⟨{ link with
          transmitter := ⟨some transmit⟩, receiver := ⟨receive⟩, initialized := true,
          state := .disarmed, requestCount := 0, nextDue := now },
        ⟨pool, device, hardware.journal ++ setUpUses link.line transmit receive⟩⟩
      transmit receive where
  lowest := serves.isLeast_transmit
  next := by
    rintro channel rfl
    exact serves.isLeast_receive
  complete := complete
  taken := serves.isTaken
  usage := (orderly_setUpUses link.line serves.apart idle).2
  link := rfl
  due := by simp [Link.passGate?]

variable (engine : Engine σ) (settings : LinkSettings) (pool : Pool) (device : σ)

/--
A start succeeds as a whole or changes nothing, whatever the pool and the engine make of it.

It is refused for want of channels exactly when there are not as many as it still needs,
and for a fault of the engine exactly when the engine refused to set a channel up.
A link that is running is left alone.
-/
theorem turn_starts (earlier : List Turn) (now : Nat) (there : Pool) :
    let before := Session.afterTurns engine earlier ⟨.ofSettings settings, .fresh pool device⟩
    let step := before.turn engine ⟨now, .start, there⟩
    let line := (Link.ofSettings settings).line
    (before.link.initialized = true →
      step.answer = .started (.ok ()) ∧ step.after = step.before) ∧
    (before.link.initialized = false →
      (∀ error, step.answer = .started (.error error) →
        step.before.Untouched step.after ∧
        step.after.link.transmitter = .empty ∧ step.after.link.receiver = .empty ∧
        (error = .resourceExhausted ∨ ∃ fault, error = .hardwareConfig fault)) ∧
      (step.answer = .started (.error .resourceExhausted) ↔ there.countFree = 0 ∨
        settings.bidirectional = true ∧ there.countFree < 2 ∧
          ∃ channel, .configuredTransmit channel line (.ok ()) ∈ step.events) ∧
      (there.countFree = 0 →
        step.events = [] ∧ step.after.hardware.device = step.before.hardware.device) ∧
      (∀ fault, step.answer = .started (.error (.hardwareConfig fault)) ↔
        (∃ channel, .configuredTransmit channel line (.error fault) ∈ step.events) ∨
        2 ≤ there.countFree ∧
          ∃ channel, .configuredReceive channel line (.error fault) ∈ step.events) ∧
      (step.answer = .started (.ok ()) →
        ∃ transmit receive, step.before.Launched now step.after transmit receive)) := by
  intro before step line
  obtain ⟨settled, made⟩ := settled_afterTurns engine settings pool device earlier
  have settled : before.link.Settled := settled
  have abides : Abides line before.hardware.journal before.link :=
    abides_afterTurns engine settings pool device earlier
  have same : before.link.line = line := abides.line
  have wish : before.link.settings.bidirectional = settings.bidirectional :=
    congrArg LinkSettings.bidirectional made.settings
  -- The call works on what the link remembers and on the pool as it is there.
  let hardware : Hardware σ := { before.hardware with pool := there }
  have answer : step.answer = .started (start engine now ⟨before.link, hardware⟩).1 := rfl
  have after : step.after = (start engine now ⟨before.link, hardware⟩).2 := rfl
  refine ⟨fun running => ?_, fun stopped => ?_⟩
  · rw [start, if_pos running] at answer after
    exact ⟨answer, after⟩
  · have idle : Usage.ofHistory before.hardware.journal = .idle :=
      abides.usage.trans (settled.usage_eq_idle stopped)
    rcases start_cases engine now hardware settled stopped with
      ⟨error, events, left, refusal, uncalled, refused⟩ |
      ⟨transmit, receive, taken, left, complete, serves, started⟩
    · rw [refused] at answer after
      have used : step.events = events := by
        rw [Step.events, after]
        exact List.drop_left ..
      rw [same, wish] at refusal
      rw [used, answer, after]
      refine ⟨?_, ?_, ?_, ?_, ?_⟩
      · rintro _ ⟨⟩
        obtain ⟨transmitter, receiver⟩ := settled.resting stopped
        have ended := (refusal.orderly idle).2
        exact ⟨⟨rfl, rfl, ended.trans idle.symm⟩, transmitter, receiver, refusal.eq_or_eq⟩
      · rw [← refusal.eq_resourceExhausted_iff]
        simp
      · intro full
        exact ⟨refusal.eq_nil_of_full full, uncalled full⟩
      · intro fault
        rw [← refusal.eq_hardwareConfig_iff]
        simp
      · intro succeeded
        cases succeeded
    · rw [started] at answer after
      have used : step.events = setUpUses before.link.line transmit receive := by
        rw [Step.events, after]
        exact List.drop_left ..
      -- As many channels were free as the link needs, so none of the reasons to fail was given.
      have room : receive.toList.length + 1 ≤ there.countFree := serves.le_countFree
      have pair (replies : settings.bidirectional = true) : receive.toList.length = 1 := by
        rw [← wish, ← complete, Option.isSome_iff_exists] at replies
        obtain ⟨channel, rfl⟩ := replies
        rfl
      have succeeded (error : LinkError) :
          Answer.started (.ok ()) ≠ Answer.started (.error error) := by
        simp
      rw [used, answer, after]
      refine ⟨fun error failed => absurd failed (succeeded error), iff_of_false (succeeded _) ?_,
        fun full => by omega, fun fault => iff_of_false (succeeded _) ?_, fun _ => ?_⟩
      · rintro (none | ⟨replies, few, _⟩)
        · omega
        · have two := pair replies
          omega
      · cases receive <;> simp [setUpUses]
      · exact ⟨transmit, receive, launched_of_serves left idle complete serves⟩

-- Of a pool with one free channel a link with replies gets nothing, and leaves it free.
example :
    let first : Session Script := ⟨.ofSettings .standard, .fresh (.ofSize 1) (.initial none)⟩
    let step := first.turn Script.engine ⟨0, .start, .ofSize 1⟩
    step.after.hardware.pool = .ofSize 1 ∧ step.after.link = first.link := by
  decide +kernel

end Session

end MotorLink
