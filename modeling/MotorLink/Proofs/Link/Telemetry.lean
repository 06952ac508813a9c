import MotorLink.Link.Telemetry

/-! The cache keeps the latest reading of each quantity, and what is new until it is looked at. -/

namespace MotorLink

/-- Whether a quantity is one that telemetry tells of. -/
def ReadingKind.isKnown : ReadingKind → Bool
  | .erpm | .temperature | .voltage | .current => true
  | .other _ => false

/-- A reading that a link heard, and the pole pairs that it reckoned with then. -/
structure Heard where
  reading : Reading
  polePairs : UInt8
deriving DecidableEq, Repr

namespace Heard

/-- What a reading says of its quantity, in the unit that telemetry is handed out in. -/
def amount (settings : LinkSettings) (heard : Heard) : Nat :=
  match heard.reading.kind with
  | .erpm => min (heard.reading.value / heard.polePairs.toNat) 65535
  | .temperature => heard.reading.value
  | .voltage => min (heard.reading.value * settings.millivoltsPerStep.toNat) (UInt32.size - 1)
  | .current => min (heard.reading.value * settings.milliampsPerStep.toNat) (UInt32.size - 1)
  | .other _ => 0

/-- The amount of the latest reading of a quantity, or zero where there is none. -/
def latest (settings : LinkSettings) (kind : ReadingKind) (all : List Heard) : Nat :=
  ((all.filter (·.reading.kind = kind)).getLast?.map (amount settings)).getD 0

/-- One more reading is the latest of its own quantity, and leaves the others. -/
theorem latest_concat (settings : LinkSettings) (kind : ReadingKind) (all : List Heard)
    (heard : Heard) : latest settings kind (all ++ [heard]) =
      if heard.reading.kind = kind then heard.amount settings else latest settings kind all := by
  by_cases same : heard.reading.kind = kind <;> simp [latest, same]

/-- Of two speeds the later one counts, in terms of its own pole pairs. -/
example : latest .standard .erpm
    [⟨⟨.erpm, 0, 0, 7000⟩, 7⟩, ⟨⟨.erpm, 0, 0, 7000⟩, 14⟩, ⟨⟨.temperature, 0, 0, 40⟩, 14⟩] = 500 := by
  decide +kernel

end Heard

/-- Telemetry that says the latest of what was heard of each quantity, and what was heard last. -/
structure Telemetry.Says (settings : LinkSettings) (all : List Heard) (telemetry : Telemetry) :
    Prop where
  rpm : telemetry.rpm.toNat = Heard.latest settings .erpm all
  temperature : telemetry.temperature.toNat = Heard.latest settings .temperature all
  millivolts : telemetry.millivolts.toNat = Heard.latest settings .voltage all
  milliamps : telemetry.milliamps.toNat = Heard.latest settings .current all
  lastReading : (all.getLast?).map Heard.reading = some telemetry.lastReading

namespace TelemetryCache

/-- What a cache holds of a quantity. -/
def amount (cache : TelemetryCache) : ReadingKind → Nat
  | .erpm => cache.rpm.toNat
  | .temperature => cache.temperature.toNat
  | .voltage => cache.millivolts.toNat
  | .current => cache.milliamps.toNat
  | .other _ => 0

/-- A cache of all that was heard, of which the last part is still to be handed out. -/
structure Holds (settings : LinkSettings) (all unread : List Heard) (cache : TelemetryCache) :
    Prop where
  amounts : ∀ kind, cache.amount kind = Heard.latest settings kind all
  lastReading : cache.lastReading = (all.getLast?).map Heard.reading
  fresh : cache.fresh = !unread.isEmpty
  within : unread <:+ all

/-- A cache without readings holds that nothing was heard. -/
theorem holds_empty (settings : LinkSettings) : Holds settings [] [] empty where
  amounts kind := by cases kind <;> rfl
  lastReading := rfl
  fresh := rfl
  within := List.suffix_rfl

/-- The shaft turns slower than the field by the pole pairs, as far as the number fits. -/
theorem toNat_shaftSpeed (erpm : Nat) {polePairs : UInt8} (poles : polePairs ≠ 0) :
    (shaftSpeed erpm polePairs).toNat = min (erpm / polePairs.toNat) 65535 := by
  have positive : 1 ≤ polePairs.toNat :=
    Nat.one_le_iff_ne_zero.mpr fun zero => poles (UInt8.toNat_inj.mp zero)
  rw [shaftSpeed, Nat.max_eq_left positive, UInt16.toNat_ofNat']
  -- The quotient is cut off at the greatest number of sixteen bits before it is stored.
  exact Nat.mod_eq_of_lt (by omega)

/-- A number that is too large for 32 bits is kept as the largest. -/
theorem toNat_saturate32 (n : Nat) : (saturate32 n).toNat = min n (UInt32.size - 1) := by
  rw [saturate32, UInt32.toNat_ofNat', UInt32.size]
  exact Nat.mod_eq_of_lt (by omega)

/-- A reading of a known quantity is what the next look finds. -/
theorem take_update {cache : TelemetryCache} {settings : LinkSettings} {polePairs : UInt8}
    {reading : Reading} (known : ∀ type, reading.kind ≠ .other type) :
    ∃ telemetry, (cache.update settings polePairs reading).take.1 = some telemetry ∧
      telemetry.lastReading = reading := by
  unfold update take
  -- Each known quantity leaves the cache fresh, whatever else it changes.
  cases kind : reading.kind with
  | other type => exact absurd kind (known type)
  | erpm | temperature | voltage | current => exact ⟨_, rfl, rfl⟩

/-- A reading of a known quantity is what a cache then holds of it. -/
theorem amount_update {cache : TelemetryCache} {settings : LinkSettings} {polePairs : UInt8}
    {reading : Reading} (poles : polePairs ≠ 0) (known : reading.kind.isKnown = true)
    (byte : reading.kind ≠ .erpm → reading.value < 256) (kind : ReadingKind) :
    (cache.update settings polePairs reading).amount kind =
      if reading.kind = kind then Heard.amount settings ⟨reading, polePairs⟩
      else cache.amount kind := by
  unfold update
  -- Each kind of reading goes into its own place of the cache.
  cases told : reading.kind with
  | other => simp [told, ReadingKind.isKnown] at known
  | erpm => cases kind <;> simp [amount, Heard.amount, told, toNat_shaftSpeed _ poles]
  | temperature =>
    have fits := byte (by simp [told])
    cases kind <;> simp [amount, Heard.amount, told, Nat.mod_eq_of_lt fits]
  | voltage => cases kind <;> simp [amount, Heard.amount, told, toNat_saturate32]
  | current => cases kind <;> simp [amount, Heard.amount, told, toNat_saturate32]

/-- A reading of an unknown quantity changes nothing. -/
theorem update_of_unknown (cache : TelemetryCache) (settings : LinkSettings) (polePairs : UInt8)
    {reading : Reading} (unknown : reading.kind.isKnown = false) :
    cache.update settings polePairs reading = cache := by
  unfold update
  -- The four known quantities are excluded, and the branch for any other keeps the cache.
  cases told : reading.kind with
  | other => rfl
  | erpm | temperature | voltage | current => simp [told, ReadingKind.isKnown] at unknown

/-- Readings of unknown quantities change nothing. -/
theorem foldl_update_of_unknown (cache : TelemetryCache) (settings : LinkSettings)
    (polePairs : UInt8) {readings : List Reading}
    (unknown : ∀ reading ∈ readings, ¬reading.kind.isKnown = true) :
    readings.foldl (fun cache reading => cache.update settings polePairs reading) cache = cache := by
  -- Reading by reading: the first one changes nothing, so the others start from the same cache.
  induction readings with
  | nil => rfl
  | cons reading rest ih =>
    rw [List.foldl_cons, update_of_unknown _ _ _ (by simpa using unknown reading (.head _))]
    exact ih fun other listed => unknown other (.tail _ listed)

/-- A reading of a known quantity goes on top of what a cache holds, still to be handed out. -/
theorem Holds.update {settings : LinkSettings} {all unread : List Heard} {cache : TelemetryCache}
    (holds : Holds settings all unread cache) {polePairs : UInt8} {reading : Reading}
    (poles : polePairs ≠ 0) (known : reading.kind.isKnown = true)
    (byte : reading.kind ≠ .erpm → reading.value < 256) :
    Holds settings (all ++ [⟨reading, polePairs⟩]) (unread ++ [⟨reading, polePairs⟩])
      (cache.update settings polePairs reading) := by
  -- Whatever the quantity, the reading is the last one and is new.
  have seen : (cache.update settings polePairs reading).lastReading = some reading ∧
      (cache.update settings polePairs reading).fresh = true := by
    unfold TelemetryCache.update
    cases told : reading.kind with
    | other => simp [told, ReadingKind.isKnown] at known
    | erpm | temperature | voltage | current => exact ⟨rfl, rfl⟩
  refine ⟨fun kind => ?_, by simp [seen.1], by simp [seen.2], ?_⟩
  · rw [amount_update poles known byte, Heard.latest_concat, holds.amounts]
  · obtain ⟨before, rfl⟩ := holds.within
    exact ⟨before, (List.append_assoc ..).symm⟩

/-- A cache that readings come into holds those of known quantities on top. -/
theorem Holds.updates {settings : LinkSettings} {polePairs : UInt8} (poles : polePairs ≠ 0)
    {readings : List Reading} (bytes : ∀ reading ∈ readings,
      reading.kind ≠ .erpm → reading.value < 256)
    {all unread : List Heard} {cache : TelemetryCache} (holds : Holds settings all unread cache) :
    let heard : List Heard := (readings.filter (·.kind.isKnown)).map (⟨·, polePairs⟩)
    Holds settings (all ++ heard) (unread ++ heard)
      (readings.foldl (fun cache reading => cache.update settings polePairs reading) cache) := by
  -- The induction takes the readings in order, each on the cache that the ones before it left.
  induction readings generalizing all unread cache with
  | nil => simpa using holds
  | cons reading rest ih =>
    have rests := fun other listed => bytes other (.tail _ listed)
    rw [List.foldl_cons]
    cases known : reading.kind.isKnown with
    | false =>
      rw [update_of_unknown _ _ _ known]
      simpa [known] using ih rests holds
    | true =>
      simpa [known] using ih rests (holds.update poles known (bytes reading (.head _)))

/-- What is handed out says all that was heard, and there is something if not all was read yet. -/
theorem Holds.take {settings : LinkSettings} {all unread : List Heard} {cache : TelemetryCache}
    (holds : Holds settings all unread cache) :
    (cache.take.1.isSome = true ↔ unread ≠ []) ∧
      (∀ telemetry, cache.take.1 = some telemetry → telemetry.Says settings all) ∧
      Holds settings all [] cache.take.2 := by
  -- Where something is new there is a last reading as well.
  have fresh := holds.fresh
  cases news : unread with
  | nil =>
    have stale : cache.fresh = false := by simpa [news] using fresh
    have idle : cache.take = (none, cache) := by simp [TelemetryCache.take, stale]
    rw [idle]
    exact ⟨by simp, nofun, holds.amounts, holds.lastReading, stale, List.nil_suffix⟩
  | cons first rest =>
    have fresh : cache.fresh = true := by simpa [news] using fresh
    have nonempty : all ≠ [] := by
      rintro rfl
      cases news.symm.trans (List.suffix_nil.mp holds.within)
    have last := holds.lastReading
    rw [List.getLast?_eq_some_getLast nonempty, Option.map_some] at last
    have given : cache.take = (some ⟨cache.rpm, cache.temperature, cache.millivolts,
        cache.milliamps, (all.getLast nonempty).reading⟩, { cache with fresh := false }) := by
      simp [TelemetryCache.take, fresh, last]
    rw [given]
    refine ⟨by simp, ?_, ⟨holds.amounts, holds.lastReading, rfl, List.nil_suffix⟩⟩
    rintro _ ⟨⟩
    exact ⟨holds.amounts .erpm, holds.amounts .temperature, holds.amounts .voltage,
      holds.amounts .current, holds.lastReading.symm.trans last⟩

end TelemetryCache

end MotorLink
