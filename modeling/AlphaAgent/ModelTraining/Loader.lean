import AlphaAgent.Core.Enums
import AlphaAgent.Core.Json
import AlphaAgent.Foundation.Dict
import AlphaAgent.Foundation.Newest
import Mathlib.Algebra.Order.Floor.Ring
import Mathlib.Data.Rat.Floor

/-!
# The samples of a training report

`IntradayModelTrainingService._load_samples`. It reads the newest training samples,
then signals without one, then observations with neither. Each item of the result is
kept here with the row which it comes from; the service returns the items alone. A
column which can be null is an `Option`, and a moment is an instant in UTC.
-/

namespace AlphaAgent.ModelTraining

open Foundation

/-- A row of `agent_signals`. -/
structure AgentSignal where
  id : String
  market : Market
  symbol : String
  strategyName : String
  createdAt : ℤ
  payload : Mapping

/-- A row of `shadow_observations`. -/
structure ShadowObservation where
  id : String
  market : Market
  symbol : String
  signalId : Option String
  openedAt : ℤ
  lastMarkedAt : ℤ
  entryPrice : ℚ
  currentPrice : ℚ
  hypotheticalNotionalInr : ℚ
  hypotheticalPnlInr : ℚ
  hypotheticalPnlPct : ℚ
  metadataJson : Mapping

/-- A row of `shadow_training_samples`. -/
structure ShadowTrainingSample where
  observationId : Option String
  market : Market
  symbol : String
  signalId : Option String
  sampleAt : ℤ
  entryPrice : ℚ
  currentPrice : ℚ
  hypotheticalNotionalInr : ℚ
  hypotheticalPnlInr : ℚ
  hypotheticalPnlPct : ℚ
  metadataJson : Mapping

/-- The tables which the loader reads. -/
structure Tables where
  samples : List ShadowTrainingSample
  signals : List AgentSignal
  observations : List ShadowObservation

structure IntradayTrainingSample where
  market : Market
  symbol : String
  openedAt : ℤ
  lastMarkedAt : ℤ
  entryPrice : ℚ
  currentPrice : ℚ
  stopLoss : Option ℚ
  takeProfit : Option ℚ
  confidence : Option ℚ
  rewardRiskRatio : Option ℚ
  expectedRisk : Option ℚ
  expectedReward : Option ℚ
  hypotheticalNotionalInr : ℚ
  hypotheticalPnlInr : ℚ
  hypotheticalPnlPct : ℚ
deriving DecidableEq

/-- The row which an item comes from. -/
inductive Source where
  | trainingSample (row : ShadowTrainingSample)
  | signal (row : AgentSignal)
  | observation (row : ShadowObservation)

/-- An item of the result. -/
structure Loaded where
  source : Source
  sample : IntradayTrainingSample

/-- `_float_or_none`. -/
def floatOrNone (value : Json) : Option ℚ :=
  match value with
  | .null | .text "" => none
  | other => other.toFloat.toOption

/-- `mapping.get(key)`, or no fields where this is no object. -/
def objectAt (mapping : Mapping) (key : String) : Mapping :=
  match mapping.get key with
  | .object fields => fields
  | _ => []

/-- `_sample_from_observation`. -/
def sampleFromObservation (observation : ShadowObservation) : IntradayTrainingSample :=
  let assessment := objectAt observation.metadataJson "assessment"
  { market := observation.market
    symbol := observation.symbol
    openedAt := observation.openedAt
    lastMarkedAt := observation.lastMarkedAt
    entryPrice := observation.entryPrice
    currentPrice := observation.currentPrice
    stopLoss := floatOrNone (assessment.get "stop_loss")
    takeProfit := floatOrNone (assessment.get "take_profit")
    confidence := floatOrNone (assessment.get "confidence")
    rewardRiskRatio := floatOrNone (assessment.get "reward_risk_ratio")
    expectedRisk := floatOrNone (assessment.get "expected_risk")
    expectedReward := floatOrNone (assessment.get "expected_reward")
    hypotheticalNotionalInr := observation.hypotheticalNotionalInr
    hypotheticalPnlInr := observation.hypotheticalPnlInr
    hypotheticalPnlPct := observation.hypotheticalPnlPct }

/-- `_sample_from_training_sample`. -/
def sampleFromTrainingSample (sample : ShadowTrainingSample) : IntradayTrainingSample :=
  let assessment := objectAt sample.metadataJson "assessment"
  { market := sample.market
    symbol := sample.symbol
    openedAt := sample.sampleAt
    lastMarkedAt := sample.sampleAt
    entryPrice := sample.entryPrice
    currentPrice := sample.currentPrice
    stopLoss := floatOrNone (assessment.get "stop_loss")
    takeProfit := floatOrNone (assessment.get "take_profit")
    confidence := floatOrNone (assessment.get "confidence")
    rewardRiskRatio := floatOrNone (assessment.get "reward_risk_ratio")
    expectedRisk := floatOrNone (assessment.get "expected_risk")
    expectedReward := floatOrNone (assessment.get "expected_reward")
    hypotheticalNotionalInr := sample.hypotheticalNotionalInr
    hypotheticalPnlInr := sample.hypotheticalPnlInr
    hypotheticalPnlPct := sample.hypotheticalPnlPct }

section Signals

/-- `_last_price_from_signal`. -/
def lastPriceFromSignal (signal : AgentSignal) (assessment : Mapping) : Option ℚ :=
  let candidates := (if signal.market = .us then [signal.payload.get "last_price_usd"] else []) ++
    [signal.payload.get "last_price", (objectAt assessment "metrics").get "last_price"]
  (candidates.filterMap floatOrNone).find? (0 < ·)

/-- `_signal_fx_rate`. -/
def signalFxRate (signal : AgentSignal) : ℚ :=
  if signal.market ≠ .us then 1
  else
    match floatOrNone (signal.payload.get "usd_inr") with
    | some rate => if rate = 0 then 1 else rate
    | none => 1

/-- The first priced signal of a symbol and a day. -/
structure EntryState where
  openedAt : ℤ
  entryPrice : ℚ
  quantity : ℤ
  notional : ℚ

abbrev EntryStates := Dict (Market × String × Day) EntryState

variable (shadowHypothesisNotionalInr : ℚ)

/-- The entry which a signal starts. -/
def entryOf (signal : AgentSignal) (lastPrice fxRate : ℚ) : EntryState :=
  let priceInr := lastPrice * fxRate
  let quantity := if 0 < priceInr then ⌊shadowHypothesisNotionalInr / priceInr⌋ else 0
  { openedAt := signal.createdAt
    entryPrice := lastPrice
    quantity
    notional := quantity * lastPrice * fxRate }

/-- `_sample_from_signal`, with the entries after it. -/
def sampleFromSignal (entries : EntryStates) (signal : AgentSignal) :
    EntryStates × Option IntradayTrainingSample :=
  let assessment := objectAt signal.payload "assessment"
  match lastPriceFromSignal signal assessment with
  | none => (entries, none)
  | some lastPrice =>
    let fxRate := signalFxRate signal
    let key := (signal.market, signal.symbol, signal.createdAt / microsecondsPerDay)
    let (entries, entry) :=
      match entries.get? key with
      | some entry => (entries, entry)
      | none =>
        let entry := entryOf shadowHypothesisNotionalInr signal lastPrice fxRate
        (entries.set key entry, entry)
    let pnl := (lastPrice - entry.entryPrice) * entry.quantity * fxRate
    (entries, some
      { market := signal.market
        symbol := signal.symbol
        openedAt := entry.openedAt
        lastMarkedAt := signal.createdAt
        entryPrice := entry.entryPrice
        currentPrice := lastPrice
        stopLoss := floatOrNone (assessment.get "stop_loss")
        takeProfit := floatOrNone (assessment.get "take_profit")
        confidence := floatOrNone (assessment.get "confidence")
        rewardRiskRatio := floatOrNone (assessment.get "reward_risk_ratio")
        expectedRisk := floatOrNone (assessment.get "expected_risk")
        expectedReward := floatOrNone (assessment.get "expected_reward")
        hypotheticalNotionalInr := entry.notional
        hypotheticalPnlInr := pnl
        hypotheticalPnlPct := if entry.notional = 0 then 0 else pnl / entry.notional })

/-- The loop of `_samples_from_signals`. -/
def sampleEach (entries : EntryStates) : List AgentSignal → List Loaded
  | [] => []
  | signal :: rest =>
    match sampleFromSignal shadowHypothesisNotionalInr entries signal with
    | (entries, some sample) => ⟨.signal signal, sample⟩ :: sampleEach entries rest
    | (entries, none) => sampleEach entries rest

/-- `_samples_from_signals`. -/
def samplesFromSignals (signals : List AgentSignal) : List Loaded :=
  descending (·.sample.lastMarkedAt) (sampleEach shadowHypothesisNotionalInr .empty
    (signals.insertionSort fun first second => first.createdAt ≤ second.createdAt))

end Signals

section Load

/-- The ids which are neither null nor empty. -/
def concrete (ids : List (Option String)) : List String :=
  ids.filterMap fun id => id.filter (· ≠ "")

/-- `column NOT IN (ids)`, which is unknown where the column is null. -/
def notIn (column : Option String) (ids : List String) : Option Bool :=
  column.map fun value => decide (value ∉ ids)

/-- `where(column.not_in(ids))`, if there are ids: a row is kept where this is true. -/
def excludes (ids : List String) (column : Option String) : Bool :=
  if ids = [] then true else notIn column ids = some true

/-- `_load_unsampled_signals`. -/
def loadUnsampledSignals (tables : Tables) (sampledSignalIds : List String) (limit : ℕ) :
    List AgentSignal :=
  if limit = 0 then []
  else
    newest (·.createdAt) limit (tables.signals.filter fun signal =>
      signal.strategyName = "shadow_training_observation_v1" &&
        excludes sampledSignalIds (some signal.id))

/-- The query for observations. -/
def loadLegacyObservations (tables : Tables) (sampledObservationIds sampledSignalIds : List String)
    (limit : ℕ) : List ShadowObservation :=
  newest (·.lastMarkedAt) limit (tables.observations.filter fun observation =>
    excludes sampledObservationIds (some observation.id) &&
      excludes sampledSignalIds observation.signalId)

variable (shadowHypothesisNotionalInr : ℚ) (maxSamples : ℕ) (tables : Tables)

/-- The training samples which are read. -/
def sampleRows : List ShadowTrainingSample := newest (·.sampleAt) maxSamples tables.samples

/-- The signals which are read, where room is left. -/
def signalRows : List AgentSignal :=
  loadUnsampledSignals tables (concrete ((sampleRows maxSamples tables).map (·.signalId)))
    (maxSamples - (sampleRows maxSamples tables).length)

/-- `_load_samples`. -/
def loadSamples : List Loaded :=
  let sampleRows := sampleRows maxSamples tables
  let samples := sampleRows.map fun row => ⟨.trainingSample row, sampleFromTrainingSample row⟩
  if maxSamples - samples.length = 0 then samples
  else
    let sampledObservationIds := concrete (sampleRows.map (·.observationId))
    let sampledSignalIds := concrete (sampleRows.map (·.signalId))
    let signalRows := signalRows maxSamples tables
    let samples := samples ++ samplesFromSignals shadowHypothesisNotionalInr signalRows
    let sampledSignalIds := sampledSignalIds ++ signalRows.map (·.id)
    let remainingLimit := maxSamples - samples.length
    if remainingLimit = 0 then samples
    else
      samples ++ (loadLegacyObservations tables sampledObservationIds sampledSignalIds
        remainingLimit).map fun row => ⟨.observation row, sampleFromObservation row⟩

/-- The signal ids which the query for observations excludes. -/
def sampledSignalIds : List String :=
  concrete ((sampleRows maxSamples tables).map (·.signalId)) ++
    (signalRows maxSamples tables).map (·.id)

/-- The observations which are read, where room is left. -/
def legacyRows : List ShadowObservation :=
  loadLegacyObservations tables (concrete ((sampleRows maxSamples tables).map (·.observationId)))
    (sampledSignalIds maxSamples tables)
    (maxSamples - ((sampleRows maxSamples tables).length +
      (samplesFromSignals shadowHypothesisNotionalInr (signalRows maxSamples tables)).length))

/-- A query without room finds nothing, so the result is always that of all three. -/
theorem loadSamples_eq : loadSamples shadowHypothesisNotionalInr maxSamples tables =
    (sampleRows maxSamples tables).map
        (fun row => ⟨.trainingSample row, sampleFromTrainingSample row⟩) ++
      samplesFromSignals shadowHypothesisNotionalInr (signalRows maxSamples tables) ++
      (legacyRows shadowHypothesisNotionalInr maxSamples tables).map
        fun row => ⟨.observation row, sampleFromObservation row⟩ := by
  have unread (observationIds signalIds : List String) :
      loadLegacyObservations tables observationIds signalIds 0 = [] := by
    rw [loadLegacyObservations, newest, List.take_zero]
  simp only [loadSamples, legacyRows, sampledSignalIds, List.length_append, List.length_map]
  split_ifs with full filled
  · rw [show signalRows maxSamples tables = [] from if_pos full, Nat.sub_add_eq, full, Nat.zero_sub,
      unread]
    exact ((List.append_nil _).trans (List.append_nil _)).symm
  · rw [filled, unread, List.map_nil, List.append_nil]
  · rfl

end Load

section Ids

variable (shadowHypothesisNotionalInr : ℚ)

theorem mem_concrete {ids : List (Option String)} {id : String} :
    id ∈ concrete ids ↔ some id ∈ ids ∧ id ≠ "" := by
  simp only [concrete, List.mem_filterMap, Option.filter_eq_some_iff, decide_eq_true_eq]
  constructor
  · rintro ⟨_, member, rfl, given⟩
    exact ⟨member, given⟩
  · rintro ⟨member, given⟩
    exact ⟨_, member, rfl, given⟩

theorem excludes_iff {ids : List String} {column : Option String} : excludes ids column = true ↔
    ids = [] ∨ ∃ value, column = some value ∧ value ∉ ids := by
  rw [excludes]
  split_ifs with empty
  · exact iff_of_true rfl (.inl empty)
  · simp [notIn, empty]

/-- Each item for a signal comes from a signal of its own. -/
theorem sources_sampleEach (entries : EntryStates) (signals : List AgentSignal) :
    ((sampleEach shadowHypothesisNotionalInr entries signals).map (·.source)).Sublist
      (signals.map .signal) := by
  induction signals generalizing entries with
  | nil => exact List.Sublist.refl _
  | cons signal rest ih =>
    rw [sampleEach, List.map_cons]
    split
    · exact (ih _).cons_cons _
    · exact (ih _).cons _

theorem sources_samplesFromSignals (signals : List AgentSignal) :
    ((samplesFromSignals shadowHypothesisNotionalInr signals).map (·.source)).Subperm
      (signals.map .signal) := by
  have ordered := (descending_perm (·.sample.lastMarkedAt) (sampleEach shadowHypothesisNotionalInr
    .empty (signals.insertionSort fun first second => first.createdAt ≤ second.createdAt))).map
      (·.source)
  have sorted := (List.perm_insertionSort (fun first second : AgentSignal =>
    first.createdAt ≤ second.createdAt) signals).map Source.signal
  exact ordered.subperm.trans ((sources_sampleEach _ _ _).subperm.trans sorted.subperm)

variable {shadowHypothesisNotionalInr}

theorem source_samplesFromSignals {signals : List AgentSignal} {item : Loaded}
    (member : item ∈ samplesFromSignals shadowHypothesisNotionalInr signals) :
    ∃ signal ∈ signals, item.source = .signal signal := by
  have source := (sources_samplesFromSignals _ signals).subset (List.mem_map_of_mem member)
  obtain ⟨signal, among, same⟩ := List.mem_map.mp source
  exact ⟨signal, among, same.symm⟩

end Ids
end AlphaAgent.ModelTraining
