import MotorLink.Proofs.Line.Duration
import MotorLink.Proofs.Link.Gate

/-! Spacing: a frame has left the line before the next one may follow it, at every rate. -/

namespace MotorLink

namespace Link

/-- The longest time between commands in microseconds, that of one command in a second. -/
def maxPeriod : Nat := 1000000

/-- A rate that is not zero makes a period between the shortest and the longest one. -/
theorem periodForRate?_bounds {rateHz : UInt16} {period : Nat}
    (made : periodForRate? rateHz = some period) :
    minPeriod ≤ period ∧ period ≤ maxPeriod := by
  unfold periodForRate? at made
  split at made
  · cases made
  · -- The slowest rate is one command in a second, and faster ones only shorten the period.
    have shorter : 1000000 / rateHz.toNat ≤ 1000000 := Nat.div_le_self ..
    simp only [Option.some.injEq, minPeriod] at made
    simp only [minPeriod, maxPeriod]
    omega

/-- A new link waits no longer between commands than the longest time. -/
theorem period_le_ofSettings (settings : LinkSettings) :
    (ofSettings settings).period ≤ maxPeriod := by
  show (periodForRate? settings.updateRateHz).getD defaultPeriod ≤ maxPeriod
  -- Without a rate the period is the default, which is short enough.
  cases made : periodForRate? settings.updateRateHz with
  | none => decide
  | some period => exact (periodForRate?_bounds made).2

/-- No rate makes a link wait longer between commands than the longest time. -/
theorem period_le_setRate {link : Link} (short : link.period ≤ maxPeriod) (rateHz : UInt16) :
    (link.setRate rateHz).period ≤ maxPeriod := by
  show (periodForRate? rateHz).getD link.period ≤ maxPeriod
  -- A rate that has no period leaves the one before in force.
  cases made : periodForRate? rateHz with
  | none => exact short
  | some period => exact (periodForRate?_bounds made).2

/-- No call that is heeded makes a link wait longer between commands than the longest time. -/
theorem period_le_heed {link : Link} (short : link.period ≤ maxPeriod) (call : Call) :
    (link.heed call).period ≤ maxPeriod := by
  -- Only setting the rate can change the period.
  cases call with
  | setRate rateHz => exact period_le_setRate short rateHz
  | write =>
    rw [heed]
    split <;> exact short
  | arm on =>
    cases on with
    | true =>
      rw [heed]
      split <;> exact short
    | false => exact short
  | start | stop | special | command | direction | setPolePairs | read | discard => exact short

/-- At a clock that settings may name a frame is shorter than the shortest period. -/
theorem MadeOf.frameDuration_lt {settings : LinkSettings} {link : Link}
    (made : link.MadeOf settings) (slowest : 8000000 ≤ settings.clockHz.toNat)
    (fastest : settings.clockHz.toNat ≤ 160000000) :
    link.line.frameDuration < minPeriod := by
  -- The frame takes 28 microseconds at most, and the shortest period is 100.
  have short := (BitTiming.frameDuration_bounds slowest fastest).2
  rw [made.line]
  exact Nat.lt_of_le_of_lt short (by decide)

end Link

/-- No call makes a link wait longer between commands than the longest time. -/
theorem Conduct.period_le {σ : Type} {now : Nat} {link : Link} {hardware : Hardware σ} {call : Call}
    {events : List Event} {after : Session σ} (conduct : Conduct now link hardware call events after)
    (short : link.period ≤ Link.maxPeriod) : after.link.period ≤ Link.maxPeriod := by
  -- What is sent or set up keeps the period of the link.
  cases conduct with
  | spared _ _ _ _ _ heeds => exact heeds ▸ Link.period_le_heed short call
  | sent _ _ _ _ _ _ _ period => exact period ▸ short
  | refused | started | ended => exact short

namespace Session

variable {σ : Type} (engine : Engine σ) (settings : LinkSettings) (pool : Pool) (device : σ)

/-- After all turns a link waits between the shortest and the longest time for its commands. -/
theorem period_bounds_afterTurns (taken : List Turn) :
    let first : Session σ := ⟨.ofSettings settings, .fresh pool device⟩
    Link.minPeriod ≤ (first.afterTurns engine taken).link.period ∧
      (first.afterTurns engine taken).link.period ≤ Link.maxPeriod := by
  intro first
  refine (turns_induction engine settings pool device
    (fun _ link => Link.minPeriod ≤ link.period ∧ link.period ≤ Link.maxPeriod)
    ⟨Link.minPeriod_le_ofSettings settings, Link.period_le_ofSettings settings⟩ ?_ taken).2.2
  -- A call that sets the rate sets a period within the bounds, and no other one changes it.
  intro earlier step hardware _ _ conduct bounds
  exact ⟨conduct.minPeriod_le bounds.1, conduct.period_le bounds.2⟩

/--
A frame fits into the time between commands, whatever rates a link is set to meanwhile.

At every clock it takes the fewest microseconds that its sixteen bits fit into.
At the clocks that settings may name these are 26 to 28, and no rate makes a period so short.
So a frame that has the next one wait has left the line before that is let through.
-/
theorem frames_fit_periods (slowest : 8000000 ≤ settings.clockHz.toNat)
    (fastest : settings.clockHz.toNat ≤ 160000000) (taken : List Turn) :
    let first : Session σ := ⟨.ofSettings settings, .fresh pool device⟩
    let link := (first.afterTurns engine taken).link
    (∀ clockHz : UInt32,
      let timing := BitTiming.forClock clockHz.toNat
      IsLeast {duration | 16 * timing.bitTicks * 1000000 ≤ duration * max clockHz.toNat 1}
        (timing.frameDuration clockHz.toNat) ∧
      ∀ frame, ((timing.pulses frame).map fun pulse => pulse.high + pulse.low).sum =
        16 * timing.bitTicks) ∧
    (∀ clockHz, 8000000 ≤ clockHz → clockHz ≤ 160000000 →
      26 ≤ (BitTiming.forClock clockHz).frameDuration clockHz ∧
        (BitTiming.forClock clockHz).frameDuration clockHz ≤ 28) ∧
    (100 ≤ link.period ∧ link.period ≤ 1000000 ∧ link.line.frameDuration < link.period) ∧
    (Clock.nondecreasing (taken.map Turn.time) = true → ∀ earlier step later restart,
      first.turns engine taken = earlier ++ step :: later → step.passes = true →
      restart ∈ Step.sinceStart earlier → restart.restarts = true →
        restart.time + link.line.frameDuration < step.time) := by
  intro first link
  have made := (settled_afterTurns engine settings pool device taken).2
  have short : link.line.frameDuration < Link.minPeriod := made.frameDuration_lt slowest fastest
  obtain ⟨least, most⟩ := period_bounds_afterTurns engine settings pool device taken
  refine ⟨fun clockHz => ⟨BitTiming.isLeast_frameDuration _, BitTiming.sum_pulses
      (BitTiming.oneHigh_le_forClock _) (BitTiming.zeroHigh_le_forClock _)⟩,
    fun clockHz => BitTiming.frameDuration_bounds,
    ⟨least, most, Nat.lt_of_lt_of_le short least⟩, ?_⟩
  intro forward earlier step later restart split passes listed restarts
  -- The command has waited a period since the latest restart, which came no earlier than this one.
  obtain ⟨latest, _, pace, apart⟩ := spaced_of_split engine forward split passes listed restarts
  omega

/-- A frame is off the line although the rate was raised as far as it goes right after it. -/
theorem frames_fit_periods_after_rate_changes :
    let first : Session Script :=
      ⟨.ofSettings .standard, .fresh (.ofSize 2) (.initial none)⟩
    let started : List Turn := [⟨0, .start, .ofSize 2⟩, ⟨0, .arm true, .ofSize 0⟩]
    let command : Turn := ⟨10, .special 6, .ofSize 0⟩
    let restart := (first.afterTurns Script.engine started).turn Script.engine command
    let early := started ++ [command] ++ [⟨20, .setRate 0, .ofSize 0⟩] ++
      [⟨30, .setRate 65535, .ofSize 0⟩]
    let last : Turn := ⟨510, .special 6, .ofSize 0⟩
    let step := (first.afterTurns Script.engine early).turn Script.engine last
    8000000 ≤ LinkSettings.standard.clockHz.toNat ∧
      LinkSettings.standard.clockHz.toNat ≤ 160000000 ∧
      Clock.nondecreasing ((early ++ [last]).map Turn.time) = true ∧
      step.passes = true ∧ restart.restarts = true ∧
      restart ∈ Step.sinceStart (first.turns Script.engine early) ∧
      restart.time + (first.afterTurns Script.engine (early ++ [last])).link.line.frameDuration <
        step.time := by
  intro first started command restart early last step
  have slowest : 8000000 ≤ LinkSettings.standard.clockHz.toNat := by decide
  have fastest : LinkSettings.standard.clockHz.toNat ≤ 160000000 := by decide
  have forward : Clock.nondecreasing ((early ++ [last]).map Turn.time) = true := by decide
  have split : first.turns Script.engine (early ++ [last]) =
      first.turns Script.engine early ++ step :: [] := turns_concat ..
  have passes : step.passes = true := by decide +kernel
  have restarts : restart.restarts = true := by decide +kernel
  -- The two changes of the rate come after the command, and leave the link running.
  have listed : restart ∈ Step.sinceStart (first.turns Script.engine early) := by
    rw [turns_concat, Step.sinceStart_concat, if_pos (by decide +kernel), turns_concat,
      Step.sinceStart_concat, if_pos (by decide +kernel), turns_concat, Step.sinceStart_concat,
      if_pos (by decide +kernel)]
    exact List.mem_cons_of_mem _ (List.mem_cons_of_mem _ List.mem_cons_self)
  obtain ⟨_, _, _, spaced⟩ := frames_fit_periods Script.engine .standard (.ofSize 2)
    (.initial none) slowest fastest (early ++ [last])
  have apart := spaced forward _ _ _ _ split passes listed restarts
  exact ⟨slowest, fastest, forward, passes, restarts, listed, by simpa only [first] using apart⟩

end Session

end MotorLink
