import AlphaAgent.ModelTraining.Loader

/-!
# Observations which the loader passes over

An observation is read where no training sample and no signal which is loaded stands
for it, unless its signal is null: `NOT IN` is not true of a null, so as soon as one
signal id is known the query leaves such an observation out.
-/

namespace AlphaAgent.ModelTraining

open Foundation

/-- The sample is of the observation or of its signal. -/
def ShadowTrainingSample.StandsFor (row : ShadowTrainingSample) (observation : ShadowObservation) :
    Prop :=
  row.observationId = some observation.id ∨
    observation.signalId ≠ none ∧ row.signalId = observation.signalId

def AgentSignal.StandsFor (signal : AgentSignal) (observation : ShadowObservation) : Prop :=
  observation.signalId = some signal.id

/-- The row of an item of the result stands for the observation. -/
def Source.StandsFor (source : Source) (observation : ShadowObservation) : Prop :=
  match source with
  | .trainingSample row => row.StandsFor observation
  | .signal row => row.StandsFor observation
  | .observation _ => False

section Load

variable (shadowHypothesisNotionalInr : ℚ) (maxSamples : ℕ) (tables : Tables)

/-- A training sample or a signal which is loaded stands for the observation. -/
def Represented (observation : ShadowObservation) : Prop :=
  (∃ row ∈ sampleRows maxSamples tables, row.StandsFor observation) ∨
    ∃ signal ∈ signalRows maxSamples tables, signal.StandsFor observation

/-- The same, of signals for which there is an item. -/
def Trained (observation : ShadowObservation) : Prop :=
  ∃ item ∈ loadSamples shadowHypothesisNotionalInr maxSamples tables,
    item.source.StandsFor observation

/-- The observation is itself in the result. -/
def Appears (observation : ShadowObservation) : Prop :=
  ∃ item ∈ loadSamples shadowHypothesisNotionalInr maxSamples tables,
    item.source = .observation observation

/-- No signal id is known: neither of a sample nor of a signal of the strategy. -/
def NoSignals : Prop :=
  (∀ row ∈ tables.samples, row.signalId = none ∨ row.signalId = some "") ∧
    ∀ signal ∈ tables.signals, signal.strategyName ≠ "shadow_training_observation_v1"

variable {shadowHypothesisNotionalInr maxSamples tables}

variable (room : (loadSamples shadowHypothesisNotionalInr maxSamples tables).length < maxSamples)
include room

/-- Where room is left, no query has met its limit. -/
theorem limits_of_room : (sampleRows maxSamples tables).length < maxSamples ∧
    (legacyRows shadowHypothesisNotionalInr maxSamples tables).length <
      maxSamples - ((sampleRows maxSamples tables).length +
        (samplesFromSignals shadowHypothesisNotionalInr
          (signalRows maxSamples tables)).length) := by
  rw [loadSamples_eq, List.length_append, List.length_append, List.length_map, List.length_map]
    at room
  omega

theorem mem_legacyRows (observation : ShadowObservation) :
    observation ∈ legacyRows shadowHypothesisNotionalInr maxSamples tables ↔
      observation ∈ tables.observations ∧
        excludes (concrete ((sampleRows maxSamples tables).map (·.observationId)))
          (some observation.id) = true ∧
        excludes (sampledSignalIds maxSamples tables) observation.signalId = true := by
  have short := (limits_of_room room).2
  rw [legacyRows, loadLegacyObservations] at short ⊢
  rw [newest_of_length_lt _ short, mem_descending, List.mem_filter, Bool.and_eq_true]

theorem sampleRows_of_room (row : ShadowTrainingSample) :
    row ∈ sampleRows maxSamples tables ↔ row ∈ tables.samples := by
  have short := (limits_of_room room).1
  rw [sampleRows] at short ⊢
  rw [newest_of_length_lt _ short, mem_descending]

/-- An observation is in the result where both of its ids are let through. -/
theorem appears_iff (observation : ShadowObservation) :
    Appears shadowHypothesisNotionalInr maxSamples tables observation ↔
      observation ∈ tables.observations ∧
        excludes (concrete ((sampleRows maxSamples tables).map (·.observationId)))
          (some observation.id) = true ∧
        excludes (sampledSignalIds maxSamples tables) observation.signalId = true := by
  rw [← mem_legacyRows room, Appears, loadSamples_eq]
  constructor
  · rintro ⟨item, member, source⟩
    simp only [List.mem_append, List.mem_map] at member
    rcases member with (⟨row, -, rfl⟩ | signalled) | ⟨row, isLegacy, rfl⟩
    · cases source
    · obtain ⟨signal, -, other⟩ := source_samplesFromSignals signalled
      rw [other] at source
      cases source
    · cases source
      exact isLegacy
  · intro isLegacy
    exact ⟨_, List.mem_append_right _ (List.mem_map_of_mem isLegacy), rfl⟩

/-- No id is excluded exactly where no signal id is known. -/
theorem sampledSignalIds_eq_nil : sampledSignalIds maxSamples tables = [] ↔ NoSignals tables := by
  have unsignalled : concrete ((sampleRows maxSamples tables).map (·.signalId)) = [] ↔
      ∀ row ∈ tables.samples, row.signalId = none ∨ row.signalId = some "" := by
    simp only [List.eq_nil_iff_forall_not_mem, mem_concrete, List.mem_map,
      sampleRows_of_room room]
    constructor
    · intro unknown row member
      cases found : row.signalId with
      | none => exact .inl rfl
      | some id =>
        refine .inr (congrArg some ?_)
        by_contra given
        exact unknown id ⟨⟨row, member, found⟩, given⟩
    · rintro none id ⟨⟨row, member, found⟩, given⟩
      rcases none row member with null | empty
      · rw [null] at found
        cases found
      · rw [empty, Option.some.injEq] at found
        exact given found.symm
  have limit : maxSamples - (sampleRows maxSamples tables).length ≠ 0 :=
    Nat.sub_ne_zero_of_lt (limits_of_room room).1
  rw [sampledSignalIds, List.append_eq_nil_iff, NoSignals, ← unsignalled]
  refine and_congr_right fun none => ?_
  rw [List.map_eq_nil_iff, signalRows, none, loadUnsampledSignals, if_neg limit, newest,
    List.take_eq_nil_iff, or_iff_right limit, List.eq_nil_iff_forall_not_mem]
  simp [excludes]

/-- An observation without a sample is in the result unless its signal is null or loaded,
where signal ids are known. -/
theorem appears_iff_of_unsampled {observation : ShadowObservation}
    (member : observation ∈ tables.observations)
    (unsampled : ∀ row ∈ sampleRows maxSamples tables, ¬row.StandsFor observation) :
    Appears shadowHypothesisNotionalInr maxSamples tables observation ↔
      NoSignals tables ∨ observation.signalId ≠ none ∧
        ∀ signal ∈ signalRows maxSamples tables, ¬signal.StandsFor observation := by
  have unexcluded : excludes (concrete ((sampleRows maxSamples tables).map (·.observationId)))
      (some observation.id) = true := by
    refine excludes_iff.mpr (.inr ⟨_, rfl, fun sampled => ?_⟩)
    obtain ⟨row, isRow, same⟩ := List.mem_map.mp (mem_concrete.mp sampled).1
    exact unsampled row isRow (.inl same)
  rw [appears_iff room, and_iff_right member, and_iff_right unexcluded, excludes_iff,
    sampledSignalIds_eq_nil room]
  refine or_congr_right ?_
  constructor
  · rintro ⟨id, found, unknown⟩
    refine ⟨by rw [found]; nofun, fun signal isSignal stands => unknown ?_⟩
    have same : signal.id = id := Option.some.inj (stands.symm.trans found)
    exact List.mem_append_right _ (same ▸ List.mem_map_of_mem isSignal)
  · rintro ⟨signalled, unloaded⟩
    obtain ⟨id, found⟩ := Option.ne_none_iff_exists'.mp signalled
    refine ⟨id, found, fun known => ?_⟩
    rcases List.mem_append.mp known with sampled | loaded
    · obtain ⟨row, isRow, same⟩ := List.mem_map.mp (mem_concrete.mp sampled).1
      exact unsampled row isRow (.inr ⟨signalled, same.trans found.symm⟩)
    · obtain ⟨signal, isSignal, rfl⟩ := List.mem_map.mp loaded
      exact unloaded signal isSignal found

/-- With room left, no observation is lost exactly when no signal id is known, or each
observation for which nothing loaded stands has a signal. Where a signal without a price
does not count as loaded, it must not be the one of such an observation either. -/
theorem nothingLost_iff :
    ((∀ observation ∈ tables.observations, ¬Represented maxSamples tables observation →
        Appears shadowHypothesisNotionalInr maxSamples tables observation) ↔
      (NoSignals tables ∨ ∀ observation ∈ tables.observations,
        ¬Represented maxSamples tables observation → observation.signalId ≠ none)) ∧
    ((∀ observation ∈ tables.observations,
        ¬Trained shadowHypothesisNotionalInr maxSamples tables observation →
          Appears shadowHypothesisNotionalInr maxSamples tables observation) ↔
      (NoSignals tables ∨ ∀ observation ∈ tables.observations,
        ¬Trained shadowHypothesisNotionalInr maxSamples tables observation →
          observation.signalId ≠ none ∧
            ∀ signal ∈ signalRows maxSamples tables, ¬signal.StandsFor observation)) := by
  simp only [← forall_or_left]
  constructor
  · refine forall₃_congr fun observation member unrepresented => ?_
    obtain ⟨unsampled, unsignalled⟩ := not_or.mp unrepresented
    push Not at unsampled unsignalled
    rw [appears_iff_of_unsampled room member unsampled, and_iff_left unsignalled]
  · refine forall₃_congr fun observation member untrained => ?_
    have unsampled : ∀ row ∈ sampleRows maxSamples tables, ¬row.StandsFor observation := by
      intro row isRow stands
      refine untrained ⟨⟨.trainingSample row, sampleFromTrainingSample row⟩, ?_, stands⟩
      rw [loadSamples_eq]
      exact List.mem_append_left _ (List.mem_append_left _ (List.mem_map_of_mem isRow))
    exact appears_iff_of_unsampled room member unsampled

end Load

/-- An observation with a sample, and one without, of this signal. -/
def tablesWith (signalId : Option String) : Tables where
  samples := [⟨some "obs-1", .india, "TCS", some "sig-1", 2, 100, 101, 50000, 500, 1 / 100, []⟩]
  signals := []
  observations :=
    [⟨"obs-1", .india, "TCS", some "sig-1", 1, 2, 100, 101, 50000, 500, 1 / 100, []⟩,
      ⟨"obs-2", .india, "INFY", signalId, 1, 1, 200, 200, 50000, 0, 0, []⟩]

theorem nothingLost_iff_signalled :
    (loadSamples 50000 5 (tablesWith (some "sig-2"))).length < 5 ∧
      ∀ observation ∈ (tablesWith (some "sig-2")).observations,
        ¬Represented 5 (tablesWith (some "sig-2")) observation →
          Appears 50000 5 (tablesWith (some "sig-2")) observation := by
  have room : (loadSamples 50000 5 (tablesWith (some "sig-2"))).length < 5 := by decide +kernel
  refine ⟨room, (nothingLost_iff room).1.mpr (.inr fun observation member _ => ?_)⟩
  simp only [tablesWith, List.mem_cons, List.not_mem_nil, or_false] at member
  rcases member with rfl | rfl
  · nofun
  · nofun

/-- The observation whose signal is null is left out. -/
theorem nothingLost_null : ¬∀ (shadowHypothesisNotionalInr : ℚ) (maxSamples : ℕ) (tables : Tables),
    (loadSamples shadowHypothesisNotionalInr maxSamples tables).length < maxSamples →
      ∀ observation ∈ tables.observations, ¬Represented maxSamples tables observation →
        Appears shadowHypothesisNotionalInr maxSamples tables observation := by
  intro claimed
  have room : (loadSamples 50000 5 (tablesWith none)).length < 5 := by decide +kernel
  have appears := claimed 50000 5 (tablesWith none) room _
    (List.mem_cons_of_mem _ List.mem_cons_self) (by
      rintro (⟨row, isRow, stands⟩ | ⟨signal, -, stands⟩)
      · rw [sampleRows_of_room room] at isRow
        obtain rfl := List.mem_singleton.mp isRow
        simp [ShadowTrainingSample.StandsFor] at stands
      · cases stands)
  exact absurd ((appears_iff room _).mp appears).2.2 (by decide +kernel)

end AlphaAgent.ModelTraining
