import MotorLink.Proofs.Link.Protocol
import MotorLink.Proofs.Link.Recall

/-! Endings: an end leaves a link at rest, with nothing held, set up or left to hand out. -/

namespace MotorLink

/-- A link at rest is not running, holds no channel, and has no telemetry to hand out. -/
structure Link.AtRest (link : Link) : Prop where
  stopped : link.initialized = false
  transmitter : link.transmitter = .empty
  receiver : link.receiver = .empty
  unread : link.read.1 = none

namespace Link

variable {link : Link}

/-- A settled link that is not running and remembers nothing is at rest. -/
theorem Settled.atRest (settled : link.Settled) (stopped : link.initialized = false)
    (clear : link.cache = .empty) : link.AtRest := by
  obtain ⟨transmitter, receiver⟩ := settled.resting stopped
  refine ⟨stopped, transmitter, receiver, ?_⟩
  -- What a look finds is what the cache holds, and it is empty.
  rw [read, clear]
  rfl

/-- The channels that a link has set up are those that it holds. -/
theorem isSetUp_usage (channel : Channel) :
    link.usage.IsSetUp channel ↔ channel ∈ link.channels := by
  simp [usage, Usage.IsSetUp, channels, or_comm]

end Link

/-- The set-up of each channel that is given up is undone. -/
theorem deconfigured_mem_giveUpUses {transmit channel : Channel} {receive : Option Channel}
    (listed : channel ∈ receive.toList ++ [transmit]) :
    .deconfigured channel ∈ giveUpUses transmit receive := by
  -- The receive channel, if there is one, is given up before the transmit channel.
  cases receive with
  | none =>
    have same : channel = transmit := by simpa using listed
    simp [giveUpUses, same]
  | some receive =>
    have same : channel = receive ∨ channel = transmit := by simpa using listed
    rcases same with rfl | rfl <;> simp [giveUpUses]

namespace Conduct

variable {σ : Type} {now : Nat} {link : Link} {hardware : Hardware σ} {call : Call}
  {events : List Event} {after : Session σ}

/-- A link that is not running remembers nothing, if it was so before. -/
theorem cache_of_stopped (conduct : Conduct now link hardware call events after)
    (clear : link.initialized = false → link.cache = .empty)
    (stopped : after.link.initialized = false) : after.link.cache = .empty := by
  cases conduct with
  | spared _ _ initialized _ _ heeds =>
    -- Of the calls that are heeded only a look touches the cache, and there it finds nothing.
    have empty := clear (initialized.symm.trans stopped)
    dsimp only
    rw [heeds]
    by_cases looks : call = .read
    · rw [looks, Link.heed, Link.read, empty]
      rfl
    · rw [link.cache_heed looks, empty]
  | refused resting => exact clear resting
  | started => cases stopped
  | sent running _ _ _ _ initialized => cases running.symm.trans (initialized.symm.trans stopped)
  | ended => rfl

/-- An end disarms a link that is running, and undoes the set-up of all that it holds. -/
theorem of_stop (conduct : Conduct now link hardware .stop events after)
    (running : link.initialized = true) :
    after.link.state = .disarmed ∧ ∀ channel ∈ link.channels, .deconfigured channel ∈ events := by
  -- A link that runs is not spared, and an end does not wait its turn like a command.
  cases conduct with
  | spared spares => cases running.symm.trans spares
  | sent _ sender => simp [Call.isGated] at sender
  | ended _ _ transmitter receiver =>
    refine ⟨rfl, fun channel listed => .tail _ (deconfigured_mem_giveUpUses ?_)⟩
    rwa [Link.channels, transmitter, receiver] at listed

end Conduct

namespace Session

variable {σ : Type} (engine : Engine σ) (now : Nat)

/-- Giving all channels up gives them back to the pool. -/
theorem pool_releaseChannels (s : Session σ) :
    (s.releaseChannels engine).hardware.pool =
      s.link.channels.foldl Pool.release s.hardware.pool := by
  obtain ⟨link, hardware⟩ := s
  unfold releaseChannels Link.channels
  -- Either channel may be missing, and then the other one is the only one to go back.
  rcases transmitter : link.transmitter with ⟨_ | transmit⟩ <;>
    rcases receiver : link.receiver with ⟨_ | receive⟩ <;>
    simp [transmitter, receiver, deconfigure, releaseTransmitter, releaseReceiver,
      Hardware.deconfigure, Hardware.release, Hardware.record, Lease.release]

/-- An end gives the channels of a running link back to the pool. -/
theorem pool_stop {link : Link} (hardware : Hardware σ) (settled : link.Settled)
    (running : link.initialized = true) :
    (stop engine now ⟨link, hardware⟩).hardware.pool =
      link.channels.foldl Pool.release hardware.pool := by
  obtain ⟨transmit, _, transmitter, _, _⟩ := settled.running running
  -- The order of rest goes out first, and it takes or frees no channel.
  obtain ⟨outcome, device, idle⟩ := sendIdle_some engine now hardware transmitter
  rw [stop, if_pos running, idle]
  exact pool_releaseChannels engine _

/-- An end finds nothing to do on a link that is not running. -/
theorem stop_of_stopped {s : Session σ} (stopped : s.link.initialized = false) :
    s.stop engine now = s := by
  rw [stop, stopped, if_neg Bool.false_ne_true]

/-- A turn that leaves the session as it was has used nothing. -/
theorem events_of_after_eq {s : Session σ} {turn : Turn}
    (same : (s.turn engine turn).after = (s.turn engine turn).before) :
    (s.turn engine turn).events = [] := by
  rw [Step.events, same, List.drop_length]

/-- An end by a turn finds nothing to do on a link that is not running. -/
theorem turn_stop_of_stopped {s : Session σ} (stopped : s.link.initialized = false) (there : Pool) :
    let step := s.turn engine ⟨now, .stop, there⟩
    step.events = [] ∧ step.after = step.before := by
  intro step
  have same : step.after = step.before :=
    stop_of_stopped engine now (s := s.onPool there) stopped
  -- Whatever leaves the session as it is has put nothing into its journal.
  exact ⟨events_of_after_eq engine same, same⟩

variable (settings : LinkSettings) (pool : Pool) (device : σ)

/-- A link that is not running remembers nothing, whatever it was asked. -/
theorem cache_afterTurns (taken : List Turn) :
    let first : Session σ := ⟨.ofSettings settings, .fresh pool device⟩
    (first.afterTurns engine taken).link.initialized = false →
      (first.afterTurns engine taken).link.cache = .empty :=
  (turns_induction engine settings pool device
    (fun _ link => link.initialized = false → link.cache = .empty) (fun _ => rfl)
    (fun _ _ _ _ _ conduct clear => conduct.cache_of_stopped clear) taken).2.2

/--
Whatever a link was asked and its engine answered, an end leaves it at rest.

It is not running, holds no channel and has no telemetry to hand out, even if its last frame failed.
What it had set up is undone in the call and free in the pool, where all else stays as it was;
with that every set-up of the whole run was undone once.
A link that was running is disarmed; one that was not is left alone, and stays armed if it was.
A second end uses nothing and changes nothing.
-/
theorem turn_rests (earlier : List Turn) (now : Nat) (there : Pool) :
    let before := Session.afterTurns engine earlier ⟨.ofSettings settings, .fresh pool device⟩
    let step := before.turn engine ⟨now, .stop, there⟩
    let inUse := Usage.ofHistory before.hardware.journal
    step.after.link.AtRest ∧
    Usage.ofHistory step.after.hardware.journal = .idle ∧
    (∀ channel, inUse.IsSetUp channel → .deconfigured channel ∈ step.events) ∧
    (∀ channel, step.after.hardware.pool.isTaken channel = true ↔
      there.isTaken channel = true ∧ ¬ inUse.IsSetUp channel) ∧
    (∀ channel, step.after.hardware.journal.countP (·.setsUp channel) =
      step.after.hardware.journal.countP (·.undoes channel)) ∧
    (before.link.initialized = true → step.after.link.state = .disarmed) ∧
    (before.link.initialized = false → step.events = [] ∧ step.after = step.before) ∧
    ∀ later elsewhere,
      let again := step.after.turn engine ⟨later, .stop, elsewhere⟩
      again.events = [] ∧ again.after = again.before := by
  intro before step inUse
  have abides : Abides (Link.ofSettings settings).line before.hardware.journal before.link :=
    abides_afterTurns engine settings pool device earlier
  have conduct : Conduct now before.link { before.hardware with pool := there } .stop step.events
      step.after := turn_conduct engine before abides.settled ⟨now, .stop, there⟩
  have stopped : step.after.link.initialized = false := initialized_stop engine now _
  have settled := conduct.settled abides.settled
  have clear : step.after.link.cache = .empty :=
    conduct.cache_of_stopped (cache_afterTurns engine settings pool device earlier) stopped
  -- What was in use is what the link held.
  have used (channel : Channel) : inUse.IsSetUp channel ↔ channel ∈ before.link.channels := by
    rw [show inUse = before.link.usage from abides.usage, Link.isSetUp_usage]
  have ended : Abides (Link.ofSettings settings).line step.after.hardware.journal
      step.after.link := by
    rw [show step.after.hardware.journal = _ from conduct.journal]
    exact conduct.abides abides
  have idle : Usage.ofHistory step.after.hardware.journal = .idle :=
    ended.usage.trans (settled.usage_eq_idle stopped)
  have alone (resting : before.link.initialized = false) :
      step.events = [] ∧ step.after = step.before := turn_stop_of_stopped engine now resting there
  refine ⟨settled.atRest stopped clear, idle, fun channel set => ?_, fun channel => ?_,
    fun channel => ?_, fun running => (conduct.of_stop running).1, alone,
    fun later elsewhere => turn_stop_of_stopped engine later stopped elsewhere⟩
  · cases running : before.link.initialized with
    | false =>
      -- A link that is not running has nothing set up.
      have held := (used channel).mp set
      rw [abides.settled.channels_eq_nil running] at held
      cases held
    | true => exact (conduct.of_stop running).2 channel ((used channel).mp set)
  · rw [used]
    cases running : before.link.initialized with
    | false =>
      rw [(alone running).2, abides.settled.channels_eq_nil running]
      simp [step, turn, Session.step, onPool]
    | true =>
      have back : step.after.hardware.pool = before.link.channels.foldl Pool.release there :=
        pool_stop engine now { before.hardware with pool := there } abides.settled running
      rw [back, Pool.isTaken_foldl_release]
      simp
  · -- Nothing stays set up, so the two counts agree.
    have counted := ended.orderly.countP_setsUp channel
    rw [idle] at counted
    simpa [Usage.IsSetUp, Usage.idle] using counted

/-- A link that was armed without having been started stays armed through an end. -/
theorem not_disarmed_by_stop :
    ¬ ∀ (earlier : List Turn) (now : Nat) (there : Pool),
      let first : Session Script := ⟨.ofSettings .standard, .fresh (.ofSize 2) (.initial none)⟩
      let step := (first.afterTurns Script.engine earlier).turn Script.engine ⟨now, .stop, there⟩
      step.after.link.state = .disarmed := by
  intro all
  exact absurd (all [⟨0, .arm true, .ofSize 2⟩] 0 (.ofSize 2)) (by decide)

end Session

end MotorLink
