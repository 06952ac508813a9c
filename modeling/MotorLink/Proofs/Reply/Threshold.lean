import MotorLink.Line.Basic
import MotorLink.Proofs.Reply.LineCode

/-! Which replies a receiver admits: no run is a glitch, and none before the last ends the capture. -/

namespace MotorLink

open GroupCode (encodeWord)
open LineCode (bitRuns padding captureReply)

/-- The runs of a reply in ticks, without the one that completes the last pair. -/
def LineCode.replyRuns (word : BitVec 16) (bitTicks : Nat) : List Nat :=
  (bitRuns (encodeWord word)).map (· * bitTicks)

/-- The capture of a reply holds the runs of the reply, and the padding after them. -/
theorem LineCode.runs_captureReply (word : BitVec 16) (bitTicks : Nat) :
    (captureReply word bitTicks).runs =
      replyRuns word bitTicks ++ (padding (encodeWord word)).map (· * bitTicks) := by
  rw [captureReply, runs_capture, paddedRuns_eq, List.map_append, replyRuns]

/-- A run of a reply lasts one, two or three bits. -/
theorem LineCode.exists_of_mem_replyRuns {word : BitVec 16} {bitTicks run : Nat}
    (listed : run ∈ replyRuns word bitTicks) :
    ∃ count, 1 ≤ count ∧ count ≤ 3 ∧ count * bitTicks = run := by
  obtain ⟨count, counted, rfl⟩ := List.mem_map.mp listed
  exact ⟨count, bitRuns_pos counted, bitRuns_encodeWord_le counted, rfl⟩

/-- A line admits a reply: each run passes the filter, and none but the last fills the idle time. -/
structure Line.Admits (line : Line) (word : BitVec 16) : Prop where
  heard : ∀ run ∈ LineCode.replyRuns word line.timing.replyBitTicks, line.receiveFilterTicks ≤ run
  whole : ∀ run ∈ (LineCode.replyRuns word line.timing.replyBitTicks).dropLast,
    run < line.receiveIdleTicks

namespace Line

/-- The ticks of a reply bit at a clock that settings may name. -/
theorem replyBitTicks_forClock {clockHz : Nat} (slowest : 8000000 ≤ clockHz)
    (fastest : clockHz ≤ 160000000) :
    (forClock clockHz true).timing.replyBitTicks = (clockHz + 300000) / 600000 * 4 / 5 := by
  -- At these clocks the bounds on the length of a bit play no part.
  simp only [forClock, BitTiming.forClock, BitTiming.bitRate]
  omega

/-- At every clock that settings may name no run of a reply is taken for a glitch. -/
theorem receiveFilterTicks_le {clockHz run : Nat} {word : BitVec 16} (slowest : 8000000 ≤ clockHz)
    (fastest : clockHz ≤ 160000000)
    (listed : run ∈ LineCode.replyRuns word (forClock clockHz true).timing.replyBitTicks) :
    (forClock clockHz true).receiveFilterTicks ≤ run := by
  -- The slowest clock makes just as many ticks of a bit as the filter asks for.
  obtain ⟨count, lasting, _, rfl⟩ := LineCode.exists_of_mem_replyRuns listed
  have bit : 10 ≤ (forClock clockHz true).timing.replyBitTicks := by
    rw [replyBitTicks_forClock slowest fastest]
    omega
  exact Nat.le_trans bit (Nat.le_mul_of_pos_left _ lasting)

/-- Three bits fit into the idle time exactly below 50.1 MHz. -/
theorem three_bits_lt_iff {clockHz : Nat} (slowest : 8000000 ≤ clockHz)
    (fastest : clockHz ≤ 160000000) :
    3 * (forClock clockHz true).timing.replyBitTicks < (forClock clockHz true).receiveIdleTicks ↔
      clockHz < 50100000 := by
  -- From 84 ticks to a bit on, three bits of a reply make 201 ticks or more.
  rw [replyBitTicks_forClock slowest fastest]
  show _ < 200 ↔ _
  omega

/--
No reply loses a run to the filter, but whole replies pass at clocks below 50.1 MHz only.

The idle time is a fixed number of ticks.
From 50.1 MHz on a run of three bits fills it, and some reply has one before its last run.
-/
theorem admits_iff {clockHz : Nat} (slowest : 8000000 ≤ clockHz) (fastest : clockHz ≤ 160000000) :
    let line := forClock clockHz true
    (∀ word, ∀ run ∈ LineCode.replyRuns word line.timing.replyBitTicks,
      line.receiveFilterTicks ≤ run) ∧
    ((∀ word, line.Admits word) ↔ clockHz < 50100000) ∧
    ∀ word, (captureReply word line.timing.replyBitTicks).runs =
      LineCode.replyRuns word line.timing.replyBitTicks ++
        (padding (encodeWord word)).map (· * line.timing.replyBitTicks) := by
  intro line
  refine ⟨fun word run => receiveFilterTicks_le slowest fastest, ⟨fun all => ?_, fun slow word => ?_⟩,
    fun word => LineCode.runs_captureReply word _⟩
  · -- The reply to zero has a run of three bits in its midst.
    have inner : 3 ∈ (bitRuns (encodeWord 0)).dropLast := by decide
    have listed := List.mem_map_of_mem (f := (· * line.timing.replyBitTicks)) inner
    rw [List.map_dropLast] at listed
    exact (three_bits_lt_iff slowest fastest).mp ((all 0).whole _ listed)
  · refine ⟨fun run => receiveFilterTicks_le slowest fastest, fun run listed => ?_⟩
    obtain ⟨count, _, short, rfl⟩ :=
      LineCode.exists_of_mem_replyRuns ((List.dropLast_sublist _).subset listed)
    exact Nat.lt_of_le_of_lt (Nat.mul_le_mul_right _ short)
      ((three_bits_lt_iff slowest fastest).mpr slow)

/-- The fastest clock at which all replies pass admits the reply to zero, with its runs of 198 ticks. -/
theorem admits_below_50_MHz :
    8000000 ≤ 50099999 ∧ 50099999 ≤ 160000000 ∧ (forClock 50099999 true).Admits 0 ∧
      198 ∈ LineCode.replyRuns 0 (forClock 50099999 true).timing.replyBitTicks :=
  ⟨by decide, by decide, (admits_iff (by decide) (by decide)).2.1.mpr (by decide) 0, by decide⟩

/-- At 80 MHz, which settings may name, a run in the midst of the reply to zero ends the capture. -/
theorem not_admits_at_80_MHz :
    ¬ ∀ clockHz word, 8000000 ≤ clockHz → clockHz ≤ 160000000 →
      (forClock clockHz true).Admits word := by
  intro all
  -- The reply to zero has a run of three bits, which lasts longer than the idle time.
  have whole := (all 80000000 0 (by decide) (by decide)).whole
  exact absurd whole (by decide)

end Line

end MotorLink
