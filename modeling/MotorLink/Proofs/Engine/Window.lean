import MotorLink.Proofs.Engine.History

/-! The receive window of the simulated controller, which all channels share. -/

namespace MotorLink

namespace Engine

variable {σ : Type} (engine : Engine σ)

/-- What a call on a device may come to and the device after it, with a line of any timing. -/
inductive Answers (device : σ) : Event → σ → Prop
  | configureTransmit (channel : Channel) (line : Line) :
    Answers device
      (.configuredTransmit channel line (engine.configureTransmit device channel line).1)
      (engine.configureTransmit device channel line).2
  | configureReceive (channel : Channel) (line : Line) :
    Answers device
      (.configuredReceive channel line (engine.configureReceive device channel line).1)
      (engine.configureReceive device channel line).2
  | deconfigure (channel : Channel) :
    Answers device (.deconfigured channel) (engine.deconfigure device channel)
  | transmit (channel : Channel) (pulses : List Pulse) :
    Answers device (.transmitted channel pulses (engine.transmit device channel pulses).1)
      (engine.transmit device channel pulses).2
  | openWindow (channel : Channel) :
    Answers device (.windowOpened channel (engine.openWindow device channel).1)
      (engine.openWindow device channel).2
  | poll (channel : Channel) :
    Answers device (.polled channel (engine.poll device channel).1) (engine.poll device channel).2
  | closeWindow (channel : Channel) :
    Answers device (.windowClosed channel) (engine.closeWindow device channel)

/-- A device that calls in any order lead to, with what they came to on the way. -/
inductive Reaches (first : σ) : List Event → σ → Prop
  | start : Reaches first [] first
  | call {history : List Event} {event : Event} {device after : σ}
    (earlier : Reaches first history device) (answers : engine.Answers device event after) :
    Reaches first (history ++ [event]) after

/-- Calls with the standard timing are some of those that a device answers. -/
theorem answers_respond (device : σ) (call : EngineCall) :
    engine.Answers device (engine.respond device call).1 (engine.respond device call).2 := by
  cases call <;> constructor

variable {engine}

/-- More calls lead on from where a device is. -/
theorem Reaches.run {first device : σ} {history : List Event}
    (reaches : engine.Reaches first history device) (calls : List EngineCall) :
    engine.Reaches first (history ++ engine.history device calls) (engine.after device calls) := by
  -- The rest of the calls leads on from what the first one leaves.
  induction calls generalizing history device with
  | nil =>
    rw [Engine.history, List.append_nil]
    exact reaches
  | cons call rest ih =>
    have onward := ih (reaches.call (engine.answers_respond device call))
    rwa [List.append_assoc] at onward

end Engine

namespace Event

/-- Nothing but a call that is carried out opens the window. -/
theorem eq_windowOpened_of_window? {event : Event} (told : event.window? = some true) :
    ∃ channel, event = .windowOpened channel (.ok ()) := by
  unfold window? at told
  -- A window that is closed tells so too, but a call of any other kind tells nothing.
  split at told
  · exact ⟨_, rfl⟩
  · cases told
  · cases told

/-- The window was opened on a channel that was a receiver then, and not closed since. -/
inductive Opened : List Event → Prop
  | intro {earlier since : List Event} {channel : Channel} {line : Line}
    (receives : latest (setup? channel) earlier = some (some ⟨true, line⟩))
    (still : ∀ other, .windowClosed other ∉ since) :
    Opened (earlier ++ .windowOpened channel (.ok ()) :: since)

/-- An open window stays open until it is closed on some channel. -/
theorem Opened.concat {history : List Event} {event : Event} (opened : Opened history)
    (still : event.window? ≠ some false) : Opened (history ++ [event]) := by
  cases opened with
  | intro receives before =>
    rw [List.append_assoc, List.cons_append]
    -- The new call stands behind all others, and it closes nothing.
    refine .intro receives fun other listed => ?_
    rcases List.mem_append.mp listed with earlier | same
    · exact before other earlier
    · rw [← List.mem_singleton.mp same] at still
      exact still rfl

end Event

namespace Simulator

/-- Pulses change neither how channels are set up nor whether the window is open. -/
theorem transmit_keeps (sim : Simulator) (channel : Channel) (pulses : List Pulse) :
    (∀ other, (sim.transmit channel pulses).2.setup? other = sim.setup? other) ∧
      (sim.transmit channel pulses).2.windowOpen = sim.windowOpen := by
  have sending := sim.transmit_sending channel pulses
  generalize (sim.transmit channel pulses).1 = outcome, (sim.transmit channel pulses).2 = after
    at sending ⊢
  -- Only a frame that is taken in changes more than a counter.
  cases sending with
  | accepted => simp [setup?]
  | garbled | illegible | unconfigured => exact ⟨fun _ => rfl, rfl⟩

/-- Each channel is set up as a call tells, and as before if the call tells nothing about it. -/
theorem setup?_of_answers {sim after : Simulator} {event : Event}
    (answers : engine.Answers sim event after) (channel : Channel) :
    after.setup? channel = (event.setup? channel).getD (sim.setup? channel) := by
  -- Only what succeeds sets a channel up, and only undoing clears it.
  cases answers with
  | configureTransmit other line =>
    dsimp only [engine, configureTransmit]
    split
    · rfl
    · rw [setup?_configure, Event.setup?]
      split <;> rfl
  | configureReceive other line =>
    dsimp only [engine, configureReceive]
    split
    · rw [setup?_configure, Event.setup?]
      split <;> rfl
    · rfl
  | deconfigure other =>
    rw [Event.setup?]
    exact (sim.setup?_deconfigure other channel).trans (by split <;> rfl)
  | transmit other pulses => exact (sim.transmit_keeps other pulses).1 channel
  | openWindow other =>
    dsimp only [engine, openWindow]
    split <;> rfl
  | poll other =>
    dsimp only [engine, poll]
    split <;> rfl
  | closeWindow other => rfl

/-- The window is as a call tells, and as before if the call tells nothing about it. -/
theorem windowOpen_of_answers {sim after : Simulator} {event : Event}
    (answers : engine.Answers sim event after) :
    after.windowOpen = event.window?.getD sim.windowOpen := by
  -- Neither a set-up nor its undoing tells anything about the window.
  cases answers with
  | configureTransmit other line =>
    dsimp only [engine, configureTransmit]
    split <;> rfl
  | configureReceive other line =>
    dsimp only [engine, configureReceive]
    split <;> rfl
  | transmit other pulses => exact (sim.transmit_keeps other pulses).2
  | openWindow other =>
    dsimp only [engine, openWindow]
    split <;> rfl
  | poll other =>
    dsimp only [engine, poll]
    split <;> rfl
  | deconfigure other | closeWindow other => rfl

/-- A window opens only on a channel that is a receiver. -/
theorem receives_of_answers {sim after : Simulator} {channel : Channel}
    (answers : engine.Answers sim (.windowOpened channel (.ok ())) after) :
    ∃ line, sim.setup? channel = some ⟨true, line⟩ := by
  generalize told : Event.windowOpened channel (.ok ()) = event at answers
  -- Of all calls only opening a window tells that one was opened.
  cases answers with
  | openWindow other =>
    injection told with same outcome
    subst same
    dsimp only [engine, openWindow] at outcome
    split at outcome
    · next line setup => exact ⟨line, setup⟩
    · cases outcome
  | _ => cases told

/-- The channels are set up as a history tells, and the window is open only where it tells so. -/
structure Shows (history : List Event) (sim : Simulator) : Prop where
  setup : ∀ channel, sim.setup? channel = (Event.latest (Event.setup? channel) history).join
  window : sim.windowOpen = true → Event.Opened history

/-- One more call leaves the channels and the window as the longer history tells. -/
theorem Shows.concat {history : List Event} {sim after : Simulator} {event : Event}
    (shows : Shows history sim) (answers : engine.Answers sim event after) :
    Shows (history ++ [event]) after := by
  refine ⟨fun channel => ?_, fun isOpen => ?_⟩
  · rw [setup?_of_answers answers, shows.setup, Event.latest_concat]
    cases event.setup? channel <;> rfl
  · rw [windowOpen_of_answers answers] at isOpen
    -- The window was open before, unless it is this call that opens it.
    cases told : event.window? with
    | none =>
      rw [told] at isOpen
      exact (shows.window isOpen).concat (by simp [told])
    | some shown =>
      rw [told, Option.getD_some] at isOpen
      subst isOpen
      obtain ⟨channel, rfl⟩ := Event.eq_windowOpened_of_window? told
      obtain ⟨line, setup⟩ := receives_of_answers answers
      rw [shows.setup, Option.join_eq_some_iff] at setup
      exact .intro setup fun other => List.not_mem_nil

end Simulator

end MotorLink
