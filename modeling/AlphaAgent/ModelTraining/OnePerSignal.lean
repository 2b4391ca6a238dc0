import AlphaAgent.ModelTraining.Loader
import AlphaAgent.Shadow.SignalIds

/-!
# One sample for a signal

The tables which shadow cycles leave, as the loader reads them. Marks of different
signals are different, and the loader excludes the signals and the observations of
loaded samples by id; but it takes a mark and an exit which were written with one
signal for two samples.
-/

namespace AlphaAgent.ModelTraining

open Foundation

/-- The signal of a row: its own id for a signal. -/
def Source.signalId : Source → Option String
  | .trainingSample row => row.signalId
  | .signal row => some row.id
  | .observation row => row.signalId

section Load

variable (shadowHypothesisNotionalInr : ℚ) (maxSamples : ℕ) (tables : Tables)

/-- The signals of the result, of items which have one. -/
def loadedSignalIds : List String :=
  concrete ((loadSamples shadowHypothesisNotionalInr maxSamples tables).map (·.source.signalId))

/-- The result is within the limit, and no two items have one signal. -/
def OnePerSignal : Prop :=
  (loadSamples shadowHypothesisNotionalInr maxSamples tables).length ≤ maxSamples ∧
    (loadedSignalIds shadowHypothesisNotionalInr maxSamples tables).Nodup

instance : Decidable (OnePerSignal shadowHypothesisNotionalInr maxSamples tables) :=
  inferInstanceAs (Decidable (_ ∧ _))

theorem length_loadSamples_le :
    (loadSamples shadowHypothesisNotionalInr maxSamples tables).length ≤ maxSamples := by
  have sampled : (sampleRows maxSamples tables).length ≤ maxSamples := List.length_take_le ..
  have signalled : (signalRows maxSamples tables).length ≤
      maxSamples - (sampleRows maxSamples tables).length := by
    rw [signalRows, loadUnsampledSignals]
    split_ifs
    · exact Nat.zero_le _
    · exact List.length_take_le ..
  have priced := (sources_samplesFromSignals shadowHypothesisNotionalInr
    (signalRows maxSamples tables)).length_le
  have observed : (legacyRows shadowHypothesisNotionalInr maxSamples tables).length ≤
      maxSamples - ((sampleRows maxSamples tables).length +
        (samplesFromSignals shadowHypothesisNotionalInr (signalRows maxSamples tables)).length) :=
    List.length_take_le ..
  rw [List.length_map, List.length_map] at priced
  rw [loadSamples_eq, List.length_append, List.length_append, List.length_map, List.length_map]
  omega

variable {shadowHypothesisNotionalInr maxSamples tables}

theorem concrete_eq (ids : List (Option String)) :
    concrete ids = (ids.filterMap id).filter (· ≠ "") :=
  (List.filter_filterMap ..).symm

theorem nodup_concrete_of_subperm {rows all : List Source} (among : rows.Subperm all)
    (distinct : (concrete (all.map Source.signalId)).Nodup) :
    (concrete (rows.map Source.signalId)).Nodup := by
  obtain ⟨ordered, perm, sublist⟩ := among
  have sublists := (sublist.map Source.signalId).filterMap fun id => id.filter (· ≠ "")
  have perms := (perm.map Source.signalId).filterMap fun id => id.filter (· ≠ "")
  exact perms.nodup_iff.mp (sublists.nodup distinct)

/-- No two items for signals have one signal. -/
theorem nodup_signalled (keys : (tables.signals.map (·.id)).Nodup) :
    (concrete ((samplesFromSignals shadowHypothesisNotionalInr (signalRows maxSamples tables)).map
      (·.source.signalId))).Nodup := by
  have loaded : (signalRows maxSamples tables).Subperm tables.signals := by
    rw [signalRows, loadUnsampledSignals]
    split_ifs
    · exact List.nil_subperm
    · exact (newest_subperm ..).trans List.filter_sublist.subperm
  obtain ⟨ordered, perm, sublist⟩ := loaded
  have distinct : ((signalRows maxSamples tables).map (·.id)).Nodup :=
    (perm.map _).nodup_iff.mp ((sublist.map _).nodup keys)
  have own : ((signalRows maxSamples tables).map Source.signal).map Source.signalId =
      ((signalRows maxSamples tables).map (·.id)).map some := by
    rw [List.map_map, List.map_map]
    rfl
  have sources := nodup_concrete_of_subperm
    (sources_samplesFromSignals shadowHypothesisNotionalInr (signalRows maxSamples tables)) (by
      rw [own, concrete_eq]
      simpa using distinct.filter _)
  rwa [List.map_map] at sources

/-- The signals of items for signals are not those of samples. -/
theorem not_mem_signalled {id : String}
    (known : id ∈ concrete ((sampleRows maxSamples tables).map (·.signalId))) :
    id ∉ concrete ((samplesFromSignals shadowHypothesisNotionalInr
      (signalRows maxSamples tables)).map (·.source.signalId)) := by
  intro signalled
  obtain ⟨item, member, own⟩ := List.mem_map.mp (mem_concrete.mp signalled).1
  obtain ⟨signal, isSignal, source⟩ := source_samplesFromSignals member
  rw [source] at own
  obtain rfl : signal.id = id := Option.some.inj own
  rw [signalRows, loadUnsampledSignals] at isSignal
  split_ifs at isSignal
  · cases isSignal
  · have kept := List.of_mem_filter ((newest_subperm ..).subset isSignal)
    rw [Bool.and_eq_true] at kept
    rcases excludes_iff.mp kept.2 with none | ⟨value, same, unknown⟩
    · rw [none] at known
      cases known
    · exact unknown (Option.some.inj same ▸ known)

/-- Where each observation has a sample of its signal, no observation which is loaded
has a signal. -/
theorem legacy_unsignalled (sampled : ∀ observation ∈ tables.observations,
    ∃ row ∈ tables.samples, row.signalId = observation.signalId) :
    concrete
      ((legacyRows shadowHypothesisNotionalInr maxSamples tables).map (·.signalId)) = [] := by
  rw [List.eq_nil_iff_forall_not_mem]
  intro id signalled
  obtain ⟨isId, given⟩ := mem_concrete.mp signalled
  obtain ⟨observation, isLegacy, own⟩ := List.mem_map.mp isId
  -- An observation is read only where all samples have been read.
  have all : sampleRows maxSamples tables = descending (·.sampleAt) tables.samples := by
    apply newest_of_length_lt
    have room := List.length_pos_of_mem isLegacy
    have limited : (legacyRows shadowHypothesisNotionalInr maxSamples tables).length ≤
        maxSamples - ((sampleRows maxSamples tables).length +
          (samplesFromSignals shadowHypothesisNotionalInr (signalRows maxSamples tables)).length) :=
      List.length_take_le ..
    rw [sampleRows] at limited
    omega
  obtain ⟨isObservation, kept⟩ := List.mem_filter.mp ((newest_subperm ..).subset isLegacy)
  obtain ⟨row, isRow, same⟩ := sampled observation isObservation
  have known : id ∈ sampledSignalIds maxSamples tables := by
    refine List.mem_append_left _ (mem_concrete.mpr ⟨?_, given⟩)
    rw [all]
    exact List.mem_map.mpr ⟨row, (mem_descending _).mpr isRow, same.trans own⟩
  rw [Bool.and_eq_true] at kept
  rcases excludes_iff.mp kept.2 with none | ⟨value, found, unknown⟩
  · rw [none] at known
    cases known
  · rw [own, Option.some.injEq] at found
    exact unknown (found ▸ known)

/-- The loader adds no second item of a signal to those of the samples. -/
theorem nodup_loadedSignalIds (keys : (tables.signals.map (·.id)).Nodup)
    (sampled : ∀ observation ∈ tables.observations,
      ∃ row ∈ tables.samples, row.signalId = observation.signalId) :
    (loadedSignalIds shadowHypothesisNotionalInr maxSamples tables).Nodup ↔
      (concrete ((sampleRows maxSamples tables).map (·.signalId))).Nodup := by
  have parts : loadedSignalIds shadowHypothesisNotionalInr maxSamples tables =
      concrete ((sampleRows maxSamples tables).map (·.signalId)) ++
        concrete ((samplesFromSignals shadowHypothesisNotionalInr
          (signalRows maxSamples tables)).map (·.source.signalId)) := by
    rw [← List.append_nil (_ ++ _), ← legacy_unsignalled sampled, loadedSignalIds, loadSamples_eq]
    simp only [concrete, List.map_append, List.filterMap_append, List.map_map]
    rfl
  rw [parts, List.nodup_append]
  constructor
  · rintro ⟨distinct, -, -⟩
    exact distinct
  · intro distinct
    refine ⟨distinct, nodup_signalled keys, ?_⟩
    rintro id known _ signalled rfl
    exact not_mem_signalled known signalled

end Load

section Stored

variable (sampleMetadata : Shadow.ShadowTrainingSample → Mapping)
  (observationMetadata : Shadow.ShadowObservation → Mapping)

/-- A sample which the shadow training service wrote, as the loader reads it. -/
def storedSample (sample : Shadow.ShadowTrainingSample) : ShadowTrainingSample where
  observationId := some sample.observationId
  market := sample.market
  symbol := sample.symbol
  signalId := some sample.signalId
  sampleAt := sample.sampleAt
  entryPrice := sample.entryPrice
  currentPrice := sample.currentPrice
  hypotheticalNotionalInr := sample.hypotheticalNotionalInr
  hypotheticalPnlInr := sample.hypotheticalPnlInr
  hypotheticalPnlPct := sample.hypotheticalPnlPct
  metadataJson := sampleMetadata sample

/-- An observation of the shadow training service, as the loader reads it. -/
def storedObservation (observation : Shadow.ShadowObservation) : ShadowObservation where
  id := observation.id
  market := observation.market
  symbol := observation.symbol
  signalId := some observation.signalId
  openedAt := observation.openedAt
  lastMarkedAt := observation.lastMarkedAt
  entryPrice := observation.entryPrice
  currentPrice := observation.currentPrice
  hypotheticalNotionalInr := observation.hypotheticalNotionalInr
  hypotheticalPnlInr := observation.hypotheticalPnlInr
  hypotheticalPnlPct := observation.hypotheticalPnlPct
  metadataJson := observationMetadata observation

/-- The tables of a database, with what `agent_signals` holds. -/
def storedTables (signals : List AgentSignal) (database : Shadow.Database) : Tables where
  samples := database.samples.map (storedSample sampleMetadata)
  signals := signals
  observations := database.observations.map (storedObservation observationMetadata)

/-- No exit has the signal of another of the rows. -/
def ExitsApart (rows : List Shadow.ShadowTrainingSample) : Prop :=
  rows.Pairwise fun first second =>
    first.sampleKind = .shadowExit ∨ second.sampleKind = .shadowExit →
      first.signalId = "" ∨ first.signalId ≠ second.signalId

instance : DecidablePred ExitsApart := fun _ => inferInstanceAs (Decidable (List.Pairwise _ _))

variable {sampleMetadata observationMetadata}

theorem isMark_of_ne {kind : Shadow.SampleKind} (notExit : kind ≠ .shadowExit) :
    kind = .intradayMark := by
  cases kind with
  | intradayMark => rfl
  | shadowExit => exact absurd rfl notExit

/-- Samples whose marks have different signals all have different signals where no exit
has the signal of another. -/
theorem nodup_signalIds_iff {rows : List Shadow.ShadowTrainingSample}
    (once : ((rows.filter fun row => row.sampleKind = .intradayMark).map (·.signalId)).Nodup) :
    (concrete (rows.map fun row => some row.signalId)).Nodup ↔ ExitsApart rows := by
  have signals : concrete (rows.map fun row => some row.signalId) =
      (rows.map (·.signalId)).filter (· ≠ "") := by
    rw [concrete_eq, List.filterMap_map]
    simp
  rw [signals, List.Nodup, List.pairwise_filter, List.pairwise_map, ExitsApart]
  rw [List.Nodup, List.pairwise_map, List.pairwise_filter] at once
  constructor
  · intro distinct
    refine distinct.imp fun {first second} apart _ => ?_
    by_cases empty : first.signalId = ""
    · exact .inl empty
    · refine .inr fun same => apart ?_ ?_ same
      · simpa using empty
      · simpa [← same] using empty
  · intro exits
    refine (once.and exits).imp fun {first second} both given _ same => ?_
    obtain ⟨marks, exits⟩ := both
    have isSignal : first.signalId ≠ "" := by simpa using given
    by_cases closes : first.sampleKind = .shadowExit ∨ second.sampleKind = .shadowExit
    · rcases exits closes with empty | apart
      · exact isSignal empty
      · exact apart same
    · obtain ⟨firstOpen, secondOpen⟩ := not_or.mp closes
      exact marks (decide_eq_true (isMark_of_ne firstOpen))
        (decide_eq_true (isMark_of_ne secondOpen)) same

/-- In every state which cycles reach, in whatever order they perform their operations and
whatever fails, the result is within the limit and has at most one item of a signal, exactly
when no exit among the newest samples has the signal of another of them. -/
theorem onePerSignal_iff {cycles : List Shadow.Cycle} (fresh : Shadow.FreshSignals cycles)
    (schedule : List (ℕ × Shadow.Environment)) {signals : List AgentSignal}
    (keys : (signals.map (·.id)).Nodup) (shadowHypothesisNotionalInr : ℚ) (maxSamples : ℕ) :
    OnePerSignal shadowHypothesisNotionalInr maxSamples (storedTables sampleMetadata
        observationMetadata signals (Shadow.committedAfter cycles schedule)) ↔
      ExitsApart (newest (·.sampleAt) maxSamples
        (Shadow.committedAfter cycles schedule).samples) := by
  obtain ⟨once, sampled⟩ := Shadow.signalsOnce_run fresh schedule
  generalize Shadow.committedAfter cycles schedule = database at once sampled ⊢
  have observed : ∀ observation ∈ database.observations.map (storedObservation observationMetadata),
      ∃ row ∈ database.samples.map (storedSample sampleMetadata),
        row.signalId = observation.signalId := by
    intro observation member
    obtain ⟨row, isRow, rfl⟩ := List.mem_map.mp member
    obtain ⟨sample, isSample, same⟩ := sampled row isRow
    exact ⟨_, List.mem_map_of_mem isSample, congrArg some same⟩
  have newestRows : (sampleRows maxSamples (storedTables sampleMetadata observationMetadata signals
      database)).map (·.signalId) =
        (newest (·.sampleAt) maxSamples database.samples).map fun row => some row.signalId := by
    rw [sampleRows, storedTables, newest_map, List.map_map]
    rfl
  have newestOnce : (((newest (·.sampleAt) maxSamples database.samples).filter
      fun row => row.sampleKind = .intradayMark).map (·.signalId)).Nodup := by
    obtain ⟨ordered, perm, sublist⟩ :=
      (newest_subperm (·.sampleAt) maxSamples database.samples).filter
        fun row => row.sampleKind = .intradayMark
    exact (perm.map _).nodup_iff.mp ((sublist.map _).nodup once)
  rw [OnePerSignal, and_iff_right (length_loadSamples_le ..), nodup_loadedSignalIds keys observed,
    newestRows, nodup_signalIds_iff newestOnce]

end Stored

section Closing

/-- A cycle which buys one symbol, or marks it, at a price under one signal. -/
def pricedCycle (startedAt : ℤ) (lastPrice : ℚ) (signalId : String) : Shadow.Cycle :=
  { Shadow.quotingCycle .buy "observation" with
    startedAt
    indiaRounds :=
      [{ symbol := "TCS"
         quote := .ok (some lastPrice, ⟨.buy, some 95, some 110⟩)
         signalId
         observationId := "observation"
         newsBlocks := .ok false
         recordedAt := startedAt
         sampledAt := startedAt + 1
         exitedAt := startedAt + 2 }] }

/-- A cycle which opens an observation at 100, and one a minute later at another price. -/
def pricedCycles (lastPrice : ℚ) : List Shadow.Cycle :=
  [pricedCycle 1778663700000000 100 "sig-1", pricedCycle 1778663760000000 lastPrice "sig-2"]

/-- One cycle to its end after the other. -/
def inTurn : List (ℕ × Shadow.Environment) :=
  List.replicate 20 (0, Shadow.undisturbed) ++ List.replicate 20 (1, Shadow.undisturbed)

/-- The signals of both cycles. -/
def pricedSignals (lastPrice : ℚ) : List AgentSignal :=
  [⟨"sig-1", .india, "TCS", "shadow_training_observation_v1", 1778663700000000,
      [("last_price", .number 100)]⟩,
    ⟨"sig-2", .india, "TCS", "shadow_training_observation_v1", 1778663760000000,
      [("last_price", .number lastPrice)]⟩]

theorem onePerSignal_iff_open :
    Shadow.FreshSignals (pricedCycles 101) ∧ ((pricedSignals 101).map (·.id)).Nodup ∧
    OnePerSignal 50000 10 (storedTables (fun _ => []) (fun _ => []) (pricedSignals 101)
      (Shadow.committedAfter (pricedCycles 101) inTurn)) := by
  have fresh : Shadow.FreshSignals (pricedCycles 101) := by decide
  have keys : ((pricedSignals 101).map (·.id)).Nodup := by decide
  exact ⟨fresh, keys, (onePerSignal_iff fresh inTurn keys 50000 10).mpr (by decide +kernel)⟩

/-- The target is reached: the mark and the exit of this tick are both loaded. -/
theorem onePerSignal_closed : ¬∀ (sampleMetadata : Shadow.ShadowTrainingSample → Mapping)
    (observationMetadata : Shadow.ShadowObservation → Mapping) (cycles : List Shadow.Cycle)
    (schedule : List (ℕ × Shadow.Environment)) (signals : List AgentSignal)
    (shadowHypothesisNotionalInr : ℚ) (maxSamples : ℕ), Shadow.FreshSignals cycles →
      (signals.map (·.id)).Nodup → OnePerSignal shadowHypothesisNotionalInr maxSamples
        (storedTables sampleMetadata observationMetadata signals
          (Shadow.committedAfter cycles schedule)) := by
  intro claimed
  exact absurd (claimed (fun _ => []) (fun _ => []) (pricedCycles 111) inTurn (pricedSignals 111)
    50000 10 (by decide) (by decide)) (by decide +kernel)

end Closing
end AlphaAgent.ModelTraining
