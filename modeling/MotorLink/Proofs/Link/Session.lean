import MotorLink.Link.Session

/-! What a call can come to on any engine: which calls get as far as sending, and what they keep. -/

namespace MotorLink

/-- Two links with the same settings, line and channels. -/
structure Link.Kin (first second : Link) : Prop where
  settings : first.settings = second.settings
  line : first.line = second.line
  transmitter : first.transmitter = second.transmitter
  receiver : first.receiver = second.receiver

/-- Two links that differ at most in whether they may turn the motor and when they may send. -/
structure Link.Paced (first second : Link) : Prop extends Link.Kin first second where
  initialized : first.initialized = second.initialized
  polePairs : first.polePairs = second.polePairs
  cache : first.cache = second.cache

/-- Only a link that is running sends commands. -/
theorem Link.initialized_of_isReady {link : Link} (ready : link.isReady = true) :
    link.initialized = true := by
  rw [isReady, Bool.and_eq_true] at ready
  exact ready.1

namespace Session

variable {σ : Type} (engine : Engine σ) (now : Nat) (s : Session σ)

/-- A throttle is held back, or its frame is sent and the reply to a request is collected. -/
theorem write_cases (throttle : Single) :
    (∃ link : Link, link.Paced s.link ∧ s.write engine now throttle = (false, { s with link })) ∨
      ∃ (link : Link) (value : BitVec 11) (request : Bool), link.Paced s.link ∧
        s.link.initialized = true ∧ s.write engine now throttle =
          let (sent, after) := ({ s with link } : Session σ).transmit engine value request
          (sent, if sent && request then after.collectTelemetry engine else after) := by
  -- A link that is not ready, or has sent too recently, does not get as far as sending.
  unfold write
  cases ready : s.link.isReady with
  | false => exact .inl ⟨s.link, ⟨⟨rfl, rfl, rfl, rfl⟩, rfl, rfl, rfl⟩, rfl⟩
  | true =>
    have started := Link.initialized_of_isReady ready
    -- The state follows the throttle before the wait is looked at.
    let moved : Link :=
      { s.link with state := s.link.state.afterThrottle (limitThrottle throttle) }
    by_cases early : now < s.link.nextDue
    · refine .inl ⟨moved, ⟨⟨rfl, rfl, rfl, rfl⟩, rfl, rfl, rfl⟩, ?_⟩
      simp only [Link.passGate?, if_pos early, if_true, moved]
    · let counted := (moved.restartGate now).countRequest
      refine .inr ⟨counted.2, counted.2.throttleValue (limitThrottle throttle), counted.1,
        ⟨⟨rfl, rfl, rfl, rfl⟩, rfl, rfl, rfl⟩, started, ?_⟩
      simp only [Link.passGate?, if_neg early, if_true, counted, moved]

/-- A special command is held back or sent. -/
theorem sendSpecial_cases (code : Nat) :
    s.sendSpecial engine now code = (false, s) ∨
      ∃ (link : Link) (value : BitVec 11), link.Paced s.link ∧ s.link.initialized = true ∧
        s.sendSpecial engine now code =
          ({ s with link } : Session σ).transmit engine value false := by
  -- The same two reasons hold a special command back as hold a throttle back.
  unfold sendSpecial
  cases ready : s.link.isReady with
  | false => exact .inl rfl
  | true =>
    have started := Link.initialized_of_isReady ready
    by_cases early : now < s.link.nextDue
    · exact .inl (by simp only [Link.passGate?, if_pos early, if_true])
    · refine .inr ⟨s.link.restartGate now, BitVec.ofNat 11 (ThrottleScale.special code),
        ⟨⟨rfl, rfl, rfl, rfl⟩, rfl, rfl, rfl⟩, started, ?_⟩
      simp only [Link.passGate?, if_neg early, if_true]

/-- After its end a session is not running. -/
theorem initialized_stop : (s.stop engine now).link.initialized = false := by
  -- A session that is running is marked as ended, and any other one is left alone.
  unfold stop
  split
  · rfl
  · rename_i idle
    simpa using idle

end Session

end MotorLink
