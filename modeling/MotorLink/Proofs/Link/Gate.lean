import MotorLink.Engine.Script
import MotorLink.Link.Clock
import MotorLink.Proofs.Link.Turns

/-! Gate: a command waits for a period after the last frame, whatever else a link is asked. -/

namespace MotorLink

/-- A clock that never goes back shows later calls no earlier times. -/
theorem Clock.pairwise_of_nondecreasing {times : List Nat} (forward : nondecreasing times = true) :
    times.Pairwise (· ≤ ·) := by
  -- The readings are compared one with the next, and the order carries over to the rest.
  apply List.IsChain.pairwise
  induction times with
  | nil => exact .nil
  | cons first rest ih =>
    rcases rest with _ | ⟨second, rest⟩
    · exact .singleton first
    · rw [nondecreasing, Bool.and_eq_true, decide_eq_true_eq] at forward
      exact .cons_cons forward.1 (ih forward.2)

/-- Times that are a gap apart reach as far as there are gaps between them. -/
theorem add_mul_length_le {gap first last : Nat} {rest : List Nat}
    (apart : (first :: rest).Pairwise (· + gap ≤ ·)) (reach : ∀ time ∈ first :: rest, time ≤ last) :
    first + gap * rest.length ≤ last := by
  -- The induction walks from each time to the next.
  induction rest generalizing first with
  | nil => exact reach first (.head _)
  | cons second rest ih =>
    -- The gap to the second time comes before all those behind it.
    obtain ⟨near, behind⟩ := List.pairwise_cons.mp apart
    have gapped := near second (.head _)
    have rest := ih behind fun time listed => reach time (.tail _ listed)
    rw [List.length_cons, Nat.mul_succ]
    omega

/-- In a window there are no more times a gap apart than gaps fit in, and one. -/
theorem length_le_of_apart {gap first width : Nat} {times : List Nat} (positive : 0 < gap)
    (apart : times.Pairwise (· + gap ≤ ·))
    (inside : ∀ time ∈ times, first ≤ time ∧ time ≤ first + width) :
    times.length ≤ width / gap + 1 := by
  -- The window has to hold a gap for each time but the earliest.
  rcases times with _ | ⟨earliest, rest⟩
  · exact Nat.zero_le _
  · have reach := add_mul_length_le apart fun time listed => (inside time listed).2
    have begun := (inside earliest (.head _)).1
    have gaps : rest.length * gap ≤ width := by
      rw [Nat.mul_comm]
      omega
    exact Nat.succ_le_succ ((Nat.le_div_iff_mul_le positive).mpr gaps)

/-- A call that has to wait its turn leaves the hardware alone only until then. -/
theorem Call.early_of_spares {call : Call} {now : Nat} {link : Link} (gated : call.isGated = true)
    (spares : call.Spares now link) (ready : link.isReady = true) : now < link.nextDue := by
  -- The calls with a condition of their own are none that have to wait.
  unfold Spares at spares
  split at spares
  · cases gated
  · cases gated
  · cases gated
  · cases gated
  · exact spares gated ready

namespace Step

variable {σ : Type}

/-- The frames that a call hands to the engine, as pulses. -/
def frames (step : Step σ) : List (List Pulse) := step.events.filterMap Event.pulses?

/-- Whether a call that has to wait its turn was let through, even if the engine then failed. -/
def passes (step : Step σ) : Bool := step.call.isGated && !step.frames.isEmpty

/-- Whether a call starts the wait anew: it was let through, or it sent the motor to rest. -/
def restarts (step : Step σ) : Bool := step.passes || decide (step.call = .arm false)

/-- The steps since the link was started, the latest first; none if it is not running. -/
def sinceStart (earlier : List (Step σ)) : List (Step σ) :=
  earlier.reverse.takeWhile (·.after.link.initialized)

/-- The latest step since the start that starts the wait anew. -/
def lastRestart? (earlier : List (Step σ)) : Option (Step σ) :=
  (sinceStart earlier).find? restarts

/-- Of the restarts since the start none comes after the latest, where times only go on. -/
theorem time_le_lastRestart {earlier : List (Step σ)} {restart latest : Step σ}
    (ordered : earlier.Pairwise (·.time ≤ ·.time)) (listed : restart ∈ sinceStart earlier)
    (restarts : restart.restarts = true) (found : lastRestart? earlier = some latest) :
    restart.time ≤ latest.time := by
  -- Read backwards, what comes behind the latest restart came before it.
  obtain ⟨_, newer, older, split, quiet⟩ := List.find?_eq_some_iff_append.mp found
  have backwards : (sinceStart earlier).Pairwise (·.time ≥ ·.time) :=
    (List.pairwise_reverse.mpr ordered).sublist (List.takeWhile_sublist _)
  rw [split] at listed backwards
  rcases List.mem_append.mp listed with listed | listed
  · have silent := quiet restart listed
    rw [restarts] at silent
    cases silent
  · rcases List.mem_cons.mp listed with rfl | listed
    · exact Nat.le_refl _
    · exact (List.pairwise_cons.mp (List.pairwise_append.mp backwards).2.1).1 restart listed

/-- Steps that all leave the link running come since its start. -/
theorem mem_sinceStart {stretch : List (Step σ)} (earlier : List (Step σ))
    (running : ∀ step ∈ stretch, step.after.link.initialized = true) {step : Step σ}
    (listed : step ∈ stretch) : step ∈ sinceStart (earlier ++ stretch) := by
  -- Read backwards, the search for the start goes through the whole stretch first.
  have backwards : ∀ other ∈ stretch.reverse, other.after.link.initialized = true :=
    fun other among => running other (List.mem_reverse.mp among)
  rw [sinceStart, List.reverse_append, List.takeWhile_append_of_pos backwards]
  exact List.mem_append_left _ (List.mem_reverse.mpr listed)

/-- A call that was let through starts the wait anew. -/
theorem restarts_of_passes {step : Step σ} (passes : step.passes = true) : step.restarts = true := by
  rw [restarts, passes, Bool.true_or]

/-- One more step goes on with those since the start, or it leaves the link at rest. -/
theorem sinceStart_concat (earlier : List (Step σ)) (step : Step σ) :
    sinceStart (earlier ++ [step]) =
      if step.after.link.initialized then step :: sinceStart earlier else [] := by
  rw [sinceStart, List.reverse_append, List.reverse_singleton, List.singleton_append,
    List.takeWhile_cons]
  rfl

/-- A step that leaves the link running starts the wait anew, or the last one goes on. -/
theorem lastRestart?_concat_of_running {step : Step σ} (earlier : List (Step σ))
    (running : step.after.link.initialized = true) :
    lastRestart? (earlier ++ [step]) =
      if step.restarts then some step else lastRestart? earlier := by
  -- The last step is the first one that the search looks at.
  rw [lastRestart?, sinceStart_concat, running, if_pos rfl, List.find?_cons]
  cases step.restarts <;> rfl

end Step

/-- What a link waits for: a period since the last restart, or nothing but its start. -/
structure Waits {σ : Type} (earlier : List (Step σ)) (link : Link) : Prop where
  settled : link.Settled
  pace : Link.minPeriod ≤ link.period
  resting : link.initialized = false → Step.sinceStart earlier = []
  begun : link.initialized = true → Step.lastRestart? earlier = none →
    ∃ step ∈ earlier, link.nextDue = step.time
  restarted : ∀ restart, link.initialized = true → Step.lastRestart? earlier = some restart →
    link.nextDue = restart.time + restart.before.link.period ∧
      Link.minPeriod ≤ restart.before.link.period

/-- A new link has nothing to wait for. -/
theorem waits_ofSettings {σ : Type} (settings : LinkSettings) :
    Waits ([] : List (Step σ)) (.ofSettings settings) where
  settled := Link.settled_ofSettings settings
  pace := Link.minPeriod_le_ofSettings settings
  resting _ := rfl
  begun running := absurd running Bool.false_ne_true
  restarted _ running := absurd running Bool.false_ne_true

namespace Conduct

variable {σ : Type} {now : Nat} {link : Link} {hardware : Hardware σ} {call : Call}
  {events : List Event} {after : Session σ}

/-- A command is sent exactly when the link is ready and the wait is over. -/
theorem sends_iff (conduct : Conduct now link hardware call events after)
    (gated : call.isGated = true) :
    events.filterMap Event.pulses? ≠ [] ↔ link.isReady = true ∧ link.nextDue ≤ now := by
  -- Of the calls that have to wait none starts or ends a session, so only two cases are left.
  cases conduct with
  | spared spares =>
    refine ⟨fun sends => absurd rfl sends, fun ⟨ready, due⟩ => ?_⟩
    exact absurd due (Nat.not_le_of_lt (Call.early_of_spares gated spares ready))
  | refused | started => cases gated
  | sent _ sender =>
    rcases sender with rfl | ⟨_, ready, due⟩
    · cases gated
    · refine ⟨fun _ => ⟨ready, due⟩, fun _ => ?_⟩
      simp [Event.pulses?]
  | ended ends => rcases ends with rfl | rfl <;> cases gated

/-- A call that leaves a link running has started it, kept it waiting, or restarted its wait. -/
theorem wait_cases (conduct : Conduct now link hardware call events after)
    (running : after.link.initialized = true) :
    (link.initialized = false ∧ call = .start ∧ after.link.nextDue = now) ∨
    (link.initialized = true ∧ call ≠ .arm false ∧ events.filterMap Event.pulses? = [] ∧
      after.link.nextDue = link.nextDue) ∨
    ((call = .arm false ∨ call.isGated = true ∧ events.filterMap Event.pulses? ≠ []) ∧
      after.link.nextDue = now + link.period) := by
  -- A call that was spared is no disarming, which is never spared on a link that is running.
  cases conduct with
  | spared spares _ initialized nextDue =>
    have ran : link.initialized = true := initialized.symm.trans running
    refine .inr (.inl ⟨ran, ?_, rfl, nextDue⟩)
    rintro rfl
    cases ran.symm.trans spares
  | refused stopped => cases running.symm.trans stopped
  | started stopped => exact .inl ⟨stopped, rfl, rfl⟩
  | sent _ sender _ _ _ _ nextDue =>
    refine .inr (.inr ⟨sender.imp id fun held => ⟨held.1, ?_⟩, nextDue⟩)
    simp [Event.pulses?]
  | ended => cases running

end Conduct

namespace Session

variable {σ : Type} (engine : Engine σ) {s : Session σ} {earlier : List (Step σ)}

/-- A turn that leaves a link running has started it, kept it waiting, or restarted its wait. -/
theorem lastRestart?_turn (waits : Waits earlier s.link) (turn : Turn)
    (running : (s.turn engine turn).after.link.initialized = true) :
    let step := s.turn engine turn
    (Step.lastRestart? (earlier ++ [step]) = none ∧ step.after.link.nextDue = step.time) ∨
    (s.link.initialized = true ∧
      Step.lastRestart? (earlier ++ [step]) = Step.lastRestart? earlier ∧
      step.after.link.nextDue = s.link.nextDue) ∨
    (Step.lastRestart? (earlier ++ [step]) = some step ∧
      step.after.link.nextDue = step.time + step.before.link.period) := by
  intro step
  -- Each way to leave the link running tells whether the step itself is a restart.
  have conduct := turn_conduct engine s waits.settled turn
  have latest : Step.lastRestart? (earlier ++ [step]) =
      if step.restarts then some step else Step.lastRestart? earlier :=
    Step.lastRestart?_concat_of_running earlier running
  rcases conduct.wait_cases running with ⟨stopped, starts, due⟩ | ⟨ran, moves, silent, due⟩ |
    ⟨restarts, due⟩
  · -- A link that was not running had nothing to wait for.
    have quiet : step.restarts = false := by
      have call : step.call = .start := starts
      simp [Step.restarts, Step.passes, call, Call.isGated]
    have nothing : Step.lastRestart? earlier = none := by
      rw [Step.lastRestart?, waits.resting stopped]
      rfl
    rw [quiet, if_neg Bool.false_ne_true, nothing] at latest
    exact .inl ⟨latest, due⟩
  · have quiet : step.restarts = false := by
      have frames : step.frames = [] := silent
      have call : step.call ≠ .arm false := moves
      simp [Step.restarts, Step.passes, frames, call]
    rw [quiet, if_neg Bool.false_ne_true] at latest
    exact .inr (.inl ⟨ran, latest, due⟩)
  · have loud : step.restarts = true := by
      rcases restarts with rests | ⟨gated, sends⟩
      · have call : step.call = .arm false := rests
        simp [Step.restarts, call]
      · have call : step.call.isGated = true := gated
        have frames : step.frames ≠ [] := sends
        simp [Step.restarts, Step.passes, call, frames]
    rw [loud, if_pos rfl] at latest
    exact .inr (.inr ⟨latest, due⟩)

/-- A turn keeps a link waiting for what it has to. -/
theorem waits_turn (waits : Waits earlier s.link) (turn : Turn) :
    Waits (earlier ++ [s.turn engine turn]) (s.turn engine turn).after.link := by
  -- While the link runs the wait is for this turn, for an older restart, or for the start.
  have conduct := turn_conduct engine s waits.settled turn
  refine ⟨conduct.settled waits.settled, conduct.minPeriod_le waits.pace, fun stopped => ?_,
    fun running nothing => ?_, fun restart running latest => ?_⟩
  · rw [Step.sinceStart_concat, stopped]
    rfl
  · rcases lastRestart?_turn engine waits turn running with
      ⟨_, due⟩ | ⟨ran, same, due⟩ | ⟨some, _⟩
    · exact ⟨_, List.mem_append_right _ (.head _), due⟩
    · -- The start that was waited for lies further back.
      obtain ⟨start, listed, begun⟩ := waits.begun ran (same ▸ nothing)
      exact ⟨start, List.mem_append_left _ listed, due.trans begun⟩
    · cases nothing.symm.trans some
  · rcases lastRestart?_turn engine waits turn running with
      ⟨none, _⟩ | ⟨ran, same, due⟩ | ⟨some, due⟩
    · cases none.symm.trans latest
    · obtain ⟨nextDue, pace⟩ := waits.restarted restart ran (same ▸ latest)
      exact ⟨due.trans nextDue, pace⟩
    · cases some.symm.trans latest
      exact ⟨due, waits.pace⟩

variable (settings : LinkSettings) (pool : Pool) (device : σ)

/-- All turns keep a new link waiting for what it has to. -/
theorem waits_afterTurns (taken : List Turn) :
    Waits (Session.turns engine taken ⟨.ofSettings settings, .fresh pool device⟩)
      (Session.afterTurns engine taken ⟨.ofSettings settings, .fresh pool device⟩).link := by
  -- The induction takes the last turn off.
  induction taken using List.reverseRecOn with
  | nil => exact waits_ofSettings settings
  | append_singleton taken last ih =>
    rw [turns_concat, afterTurns_concat]
    exact waits_turn engine ih last

variable {settings pool device} {taken : List Turn} {later : List (Step σ)} {step : Step σ}

/-- Each step of a run meets a link that waits for what it has to. -/
theorem waits_of_split (split : Session.turns engine taken
      ⟨.ofSettings settings, .fresh pool device⟩ = earlier ++ step :: later) :
    Waits earlier step.before.link ∧ ∃ hardware,
      Conduct step.time step.before.link hardware step.call step.events step.after := by
  obtain ⟨before, turn, _, _, rfl, rfl⟩ := split_of_turns engine _ split
  have waits := waits_afterTurns engine settings pool device before
  exact ⟨waits, _, turn_conduct engine _ waits.settled turn⟩

/-- On a clock that never goes back the earlier steps of a run come at no later times. -/
theorem time_le_of_split {s : Session σ}
    (forward : Clock.nondecreasing (taken.map Turn.time) = true)
    (split : s.turns engine taken = earlier ++ step :: later) :
    earlier.Pairwise (·.time ≤ ·.time) ∧ ∀ other ∈ earlier, other.time ≤ step.time := by
  -- The times of the steps are those of the turns, which are in order.
  have ordered := Clock.pairwise_of_nondecreasing forward
  rw [← map_time_turns engine s, List.pairwise_map, split, List.pairwise_append] at ordered
  exact ⟨ordered.1, fun other listed => ordered.2.2 other listed step (.head _)⟩

/-- A command is dropped exactly while it has to wait for the last restart. -/
theorem dropped_iff_of_split (forward : Clock.nondecreasing (taken.map Turn.time) = true)
    (split : Session.turns engine taken ⟨.ofSettings settings, .fresh pool device⟩ =
      earlier ++ step :: later)
    (gated : step.call.isGated = true) (ready : step.before.link.isReady = true) :
    step.frames = [] ↔ ∃ restart, Step.lastRestart? earlier = some restart ∧
      step.time < restart.time + restart.before.link.period := by
  -- What the link waits for is the restart that is found in the run before it.
  obtain ⟨waits, hardware, conduct⟩ := waits_of_split engine split
  have running := Link.initialized_of_isReady ready
  have waiting : step.frames = [] ↔ step.time < step.before.link.nextDue := by
    rw [← not_iff_not, ← ne_eq, Step.frames, conduct.sends_iff gated, Nat.not_lt]
    exact and_iff_right ready
  rw [waiting]
  cases latest : Step.lastRestart? earlier with
  | none =>
    -- Only the start was waited for, and that is over.
    obtain ⟨start, listed, due⟩ := waits.begun running latest
    have begun := (time_le_of_split engine forward split).2 start listed
    simp [due, begun]
  | some restart =>
    obtain ⟨due, _⟩ := waits.restarted restart running latest
    simp [due]

/-- A command that is let through has waited for the last restart, and so for all before it. -/
theorem spaced_of_split (forward : Clock.nondecreasing (taken.map Turn.time) = true)
    (split : Session.turns engine taken ⟨.ofSettings settings, .fresh pool device⟩ =
      earlier ++ step :: later)
    (passes : step.passes = true) {restart : Step σ} (listed : restart ∈ Step.sinceStart earlier)
    (restarts : restart.restarts = true) :
    ∃ latest, Step.lastRestart? earlier = some latest ∧
      Link.minPeriod ≤ latest.before.link.period ∧
      restart.time + latest.before.link.period ≤ step.time := by
  -- Where there is a restart there is a latest one, and that one was waited for.
  obtain ⟨waits, hardware, conduct⟩ := waits_of_split engine split
  rw [Step.passes, Bool.and_eq_true, Bool.not_eq_true', List.isEmpty_eq_false_iff] at passes
  obtain ⟨gated, sends⟩ := passes
  have ready := ((conduct.sends_iff gated).mp sends).1
  have running := Link.initialized_of_isReady ready
  obtain ⟨latest, found⟩ := Option.isSome_iff_exists.mp
    (List.find?_isSome.mpr ⟨restart, listed, restarts⟩ : (Step.lastRestart? earlier).isSome)
  obtain ⟨_, pace⟩ := waits.restarted latest running found
  have waited := mt (dropped_iff_of_split engine forward split gated ready).mpr sends
  have apart : latest.time + latest.before.link.period ≤ step.time :=
    Nat.le_of_not_lt fun early => waited ⟨latest, found, early⟩
  have order := Step.time_le_lastRestart (time_le_of_split engine forward split).1 listed restarts
    found
  exact ⟨latest, found, pace, by omega⟩

/-- The commands that are let through while a link is running are the shortest time apart. -/
theorem spaced_of_stretch (forward : Clock.nondecreasing (taken.map Turn.time) = true)
    {stretch : List (Step σ)} (split : Session.turns engine taken
      ⟨.ofSettings settings, .fresh pool device⟩ = earlier ++ stretch ++ later)
    (running : ∀ step ∈ stretch, step.after.link.initialized = true) :
    (stretch.filter Step.passes).Pairwise (·.time + Link.minPeriod ≤ ·.time) := by
  -- The induction takes the last step off, which has waited for all before it.
  induction stretch using List.reverseRecOn generalizing later with
  | nil => exact .nil
  | append_singleton stretch last ih =>
    have ran : ∀ step ∈ stretch, step.after.link.initialized = true :=
      fun step listed => running step (List.mem_append_left _ listed)
    have before := ih (show _ = earlier ++ stretch ++ last :: later by simpa using split) ran
    rw [List.filter_append, List.pairwise_append]
    refine ⟨before, .filter _ (List.pairwise_singleton _ _), fun step passed other among => ?_⟩
    obtain ⟨listed, passed⟩ := List.mem_filter.mp passed
    obtain ⟨one, passes⟩ := List.mem_filter.mp among
    cases List.mem_singleton.mp one
    obtain ⟨latest, _, pace, apart⟩ := spaced_of_split engine forward
      (show _ = (earlier ++ stretch) ++ last :: later by simpa using split) passes
      (Step.mem_sinceStart earlier ran listed) (Step.restarts_of_passes passed)
    omega

/-- In any window no more commands are let through than the shortest time leaves room for. -/
theorem countP_of_stretch (forward : Clock.nondecreasing (taken.map Turn.time) = true)
    {stretch : List (Step σ)} (split : Session.turns engine taken
      ⟨.ofSettings settings, .fresh pool device⟩ = earlier ++ stretch ++ later)
    (running : ∀ step ∈ stretch, step.after.link.initialized = true) (first width : Nat) :
    (stretch.countP fun step =>
      step.passes && decide (first ≤ step.time ∧ step.time ≤ first + width)) ≤
      width / Link.minPeriod + 1 := by
  have apart := spaced_of_stretch engine forward split running
  let inWindow (step : Step σ) : Bool :=
    step.passes && decide (first ≤ step.time ∧ step.time ≤ first + width)
  -- Those in the window are some of those that are let through.
  have fewer : (stretch.filter inWindow).Sublist (stretch.filter Step.passes) :=
    List.monotone_filter_right stretch fun step both => (Bool.and_eq_true_iff.mp both).1
  have spaced : ((stretch.filter inWindow).map Step.time).Pairwise (· + Link.minPeriod ≤ ·) :=
    List.pairwise_map.mpr (apart.sublist fewer)
  have inside : ∀ time ∈ (stretch.filter inWindow).map Step.time,
      first ≤ time ∧ time ≤ first + width := by
    intro time listed
    obtain ⟨step, among, rfl⟩ := List.mem_map.mp listed
    have both := Bool.and_eq_true_iff.mp (List.mem_filter.mp among).2
    exact of_decide_eq_true both.2
  rw [List.countP_eq_length_filter, ← List.length_map Step.time]
  exact length_le_of_apart (by decide) spaced inside

/--
Whatever a link is asked on a clock that never goes back, commands wait exactly for their time.

A command of an armed link is dropped if it comes within the period of the last restart since the
start, as that period was then, and let through otherwise.
So from any restart to a command that is let through it takes at least the shortest time,
and in any window of time no more commands are let through than this leaves room for.
-/
theorem turns_paced (settings : LinkSettings) (pool : Pool) (device : σ) (taken : List Turn)
    (forward : Clock.nondecreasing (taken.map Turn.time) = true) :
    let steps := Session.turns engine taken ⟨.ofSettings settings, .fresh pool device⟩
    (∀ earlier step later, steps = earlier ++ step :: later →
      step.call.isGated = true → step.before.link.isReady = true →
      (step.frames = [] ↔ ∃ restart, Step.lastRestart? earlier = some restart ∧
        step.time < restart.time + restart.before.link.period)) ∧
    (∀ earlier step later restart, steps = earlier ++ step :: later →
      step.passes = true → restart ∈ Step.sinceStart earlier → restart.restarts = true →
      ∃ latest, Step.lastRestart? earlier = some latest ∧
        Link.minPeriod ≤ latest.before.link.period ∧
        restart.time + latest.before.link.period ≤ step.time) ∧
    (∀ earlier stretch later first width, steps = earlier ++ stretch ++ later →
      (∀ step ∈ stretch, step.after.link.initialized = true) →
      (stretch.countP fun step =>
        step.passes && decide (first ≤ step.time ∧ step.time ≤ first + width)) ≤
        width / Link.minPeriod + 1) := by
  intro steps
  -- One part for each law: who is dropped, what lies between restarts, and what a window holds.
  refine ⟨fun earlier step later split gated ready => ?_,
    fun earlier step later restart split passes listed restarts => ?_,
    fun earlier stretch later first width split running => ?_⟩
  · exact dropped_iff_of_split engine forward split gated ready
  · exact spaced_of_split engine forward split passes listed restarts
  · exact countP_of_stretch engine forward split running first width

/-- A command comes too early although the period was cut meanwhile, since it was longer before. -/
theorem turns_paced_after_rate_change :
    let first : Session Script :=
      ⟨.ofSettings .standard, .fresh (.ofSize 2) (.initial none)⟩
    let early : List Turn := [⟨0, .start, .ofSize 2⟩, ⟨0, .arm true, .ofSize 0⟩,
      ⟨10, .special 6, .ofSize 0⟩, ⟨20, .setRate 10000, .ofSize 0⟩]
    let last : Turn := ⟨400, .special 6, .ofSize 0⟩
    let step := (first.afterTurns Script.engine early).turn Script.engine last
    Clock.nondecreasing ((early ++ [last]).map Turn.time) = true ∧
      step.before.link.isReady = true ∧ step.before.link.period = 100 ∧ step.frames = [] := by
  intro first early last step
  have forward : Clock.nondecreasing ((early ++ [last]).map Turn.time) = true := by decide
  obtain ⟨dropped, _, _⟩ :=
    turns_paced Script.engine .standard (.ofSize 2) (.initial none) (early ++ [last]) forward
  have split : first.turns Script.engine (early ++ [last]) =
      first.turns Script.engine early ++ step :: [] := turns_concat ..
  have ready : step.before.link.isReady = true := by decide +kernel
  have gated : step.call.isGated = true := by decide +kernel
  have silent := dropped _ step _ split gated ready
  refine ⟨forward, ready, by decide +kernel, silent.mpr ?_⟩
  -- The change of the rate comes after the latest restart, which is the first command.
  let started : List Turn := [⟨0, .start, .ofSize 2⟩, ⟨0, .arm true, .ofSize 0⟩]
  let command : Turn := ⟨10, .special 6, .ofSize 0⟩
  let change : Turn := ⟨20, .setRate 10000, .ofSize 0⟩
  have sent : Step.lastRestart? (first.turns Script.engine (started ++ [command])) =
      some ((first.afterTurns Script.engine started).turn Script.engine command) := by
    rw [turns_concat, Step.lastRestart?_concat_of_running _ (by decide +kernel),
      if_pos (by decide +kernel)]
  have kept : Step.lastRestart? (first.turns Script.engine early) =
      Step.lastRestart? (first.turns Script.engine (started ++ [command])) := by
    rw [show early = (started ++ [command]) ++ [change] from rfl, turns_concat,
      Step.lastRestart?_concat_of_running _ (by decide +kernel), if_neg (by decide +kernel)]
  exact ⟨_, kept.trans sent, by decide +kernel⟩

end Session

end MotorLink
