import MotorLink.Proofs.Engine.Simulator
import MotorLink.Proofs.Line.Timing

/-! Corruption: what the simulated controller does with a frame some of whose bits were flipped. -/

namespace MotorLink.Simulator

/--
A valid frame with flipped bits is taken in exactly if the nibbles of the flips cancel out.

Otherwise it is counted as a checksum error, and nothing else about the controller changes.
So it is with all flips that lie within four adjacent bits, in one nibble or across two.
-/
theorem transmit_flipped {sim : Simulator} {channel : Channel} {line : Line}
    (setup : sim.setup? channel = some ⟨false, line⟩) {clockHz : Nat}
    (fast : 1500000 ≤ clockHz) {frame : Frame} (valid : Checked.isValid frame = true)
    (flips : Frame) :
    let pulses := (BitTiming.forClock clockHz).pulses (frame ^^^ flips)
    let nibbles := flips.extractLsb' 12 4 ^^^ flips.extractLsb' 8 4 ^^^ flips.extractLsb' 4 4 ^^^
      flips.extractLsb' 0 4
    let counted := { sim with checksumErrors := sim.checksumErrors + 1 }
    (nibbles = 0#4 → sim.transmit channel pulses = (.ok (), sim.accept line (frame ^^^ flips))) ∧
    (nibbles ≠ 0#4 → sim.transmit channel pulses = (.ok (), counted)) ∧
    ((sim.transmit channel pulses).2.framesReceived = sim.framesReceived + 1 ↔ nibbles = 0#4) ∧
    (flips ≠ 0#16 →
      ∀ low, (∀ place, flips.getLsbD place = true → low ≤ place ∧ place < low + 4) →
        sim.transmit channel pulses = (.ok (), counted)) := by
  intro pulses nibbles counted
  have legible : Frame.ofPulses? pulses = some (frame ^^^ flips) :=
    (BitTiming.legible_forClock fast).ofPulses?_pulses _
  have same : Checked.syndrome flips = nibbles := Checked.syndrome_eq_xor flips
  -- The frame itself was valid, so the flips alone decide whether it still is.
  have known : Checked.isValid (frame ^^^ flips) = true ↔ nibbles = 0#4 := by
    rw [Checked.isValid_xor_iff valid, same]
  have taken (cancel : nibbles = 0#4) :
      sim.transmit channel pulses = (.ok (), sim.accept line (frame ^^^ flips)) :=
    sim.transmit_eq setup legible (known.mpr cancel)
  have dropped (differ : nibbles ≠ 0#4) : sim.transmit channel pulses = (.ok (), counted) := by
    apply sim.transmit_eq_of_invalid setup legible
    rw [← Bool.not_eq_true, known]
    exact differ
  refine ⟨taken, dropped, ?_, fun hits low narrow => ?_⟩
  · constructor
    · -- A frame that was not taken in leaves the number of those that were.
      intro received
      by_contra differ
      rw [dropped differ] at received
      exact absurd received (Nat.ne_of_lt (Nat.lt_succ_self _))
    · intro cancel
      rw [taken cancel, framesReceived_accept]
  · apply dropped
    rw [← same]
    exact Checked.syndrome_ne_zero_of_burst hits narrow

/-- Four adjacent flips that reach from one nibble into the next do not go unnoticed. -/
theorem transmit_flipped_across_nibbles :
    let line : Line := .forClock 40000000 true
    let sim := initial.configure 3 ⟨false, line⟩
    let frame := Frame.ofValue 1046 true
    let flips : Frame := 0x03C0
    sim.setup? 3 = some ⟨false, line⟩ ∧ Checked.isValid frame = true ∧
      sim.transmit 3 ((BitTiming.forClock 1500000).pulses (frame ^^^ flips)) =
        (.ok (), { sim with checksumErrors := 1 }) := by
  intro line sim frame flips
  have setup : sim.setup? 3 = some ⟨false, line⟩ := by rw [setup?_configure, if_pos rfl]
  have valid : Checked.isValid frame = true := Checked.isValid_ofPayload _
  have hits : flips ≠ 0#16 := by decide
  -- The flips are the bits six to nine, of which two are in each nibble.
  have each : ∀ place < 16, flips.getLsbD place = true → 6 ≤ place ∧ place < 6 + 4 := by decide
  have narrow (place : Nat) (set : flips.getLsbD place = true) : 6 ≤ place ∧ place < 6 + 4 :=
    each place (BitVec.lt_of_getLsbD set) set
  obtain ⟨_, _, _, noticed⟩ := transmit_flipped setup (Nat.le_refl 1500000) valid flips
  exact ⟨setup, valid, noticed hits 6 narrow⟩

end MotorLink.Simulator
