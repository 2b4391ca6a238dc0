import AlphaAgent.Foundation.Grouping
import AlphaAgent.ModelTraining.Diagnostics
import AlphaAgent.Shadow.OutcomeLabels
import Mathlib.Data.Prod.Lex
import Mathlib.Data.String.Basic

/-!
# The training report

`IntradayModelTrainingService.build_report` over the samples which it loaded: counts for
each market, labels, outcomes of ideas, the diagnostics of the features, the status of
the calibration and the next actions. Numbers are exact. The texts which no sample changes
are left out.
-/

namespace AlphaAgent.ModelTraining

open Foundation
open Shadow (GroupOutcome)

namespace IntradayTrainingSample

variable (sample : IntradayTrainingSample)

def hasStopLoss : Bool := sample.stopLoss.any (0 < ·) && decide (0 < sample.entryPrice)

def hasRewardRisk : Bool := sample.rewardRiskRatio.any (0 < ·)

def trainable : Bool := sample.hasStopLoss && sample.hasRewardRisk

def touchesStop : Bool := sample.stopLoss.any (sample.currentPrice ≤ ·)

def touchesTarget : Bool := sample.takeProfit.any (· ≤ sample.currentPrice)

/-- The date of `opened_at`. -/
def openedDate : Day := sample.openedAt / microsecondsPerDay

/-- The sample without the features on which no outcome depends. -/
def outcomeSample : Shadow.IntradayTrainingSample := { sample with }

end IntradayTrainingSample

inductive SampleLabel where
  | positive
  | negative
  | flat
deriving DecidableEq, Repr

/-- `_label`. -/
def label (sample : IntradayTrainingSample) : SampleLabel :=
  if 1 / 1000 < sample.hypotheticalPnlPct then .positive
  else if sample.hypotheticalPnlPct < -(1 / 1000) then .negative
  else .flat

structure LabelCounts where
  positive : ℕ := 0
  negative : ℕ := 0
  flat : ℕ := 0
  stopArea : ℕ := 0
  targetArea : ℕ := 0
deriving DecidableEq

/-- One turn of the loop of `_label_counts`. -/
def LabelCounts.count (labels : LabelCounts) (sample : IntradayTrainingSample) : LabelCounts where
  positive := labels.positive + if label sample = .positive then 1 else 0
  negative := labels.negative + if label sample = .negative then 1 else 0
  flat := labels.flat + if label sample = .flat then 1 else 0
  stopArea := labels.stopArea + if sample.touchesStop then 1 else 0
  targetArea := labels.targetArea + if sample.touchesTarget then 1 else 0

/-- `_label_counts`. -/
def labelCounts (samples : List IntradayTrainingSample) : LabelCounts :=
  samples.foldl .count {}

structure MarketReport where
  samples : ℕ
  trainableSamples : ℕ
  stopLossCoverage : ℚ
  hypotheticalPnlInr : ℚ
  avgHypotheticalPnlInr : ℚ
  avgHypotheticalPnlPct : ℚ
  winRate : ℚ
  profitFactor : Option ℚ
  avgRewardRiskRatio : ℚ
  labels : LabelCounts
  worstSamples : List (String × ℚ)
  bestSamples : List (String × ℚ)
deriving DecidableEq

/-- The share of samples with a stop loss. -/
def stopLossCoverage (samples : List IntradayTrainingSample) : ℚ :=
  (samples.filter (·.hasStopLoss)).length / samples.length

/-- `_market_report`. -/
def marketReport (market : Market) (samples : List IntradayTrainingSample) : MarketReport :=
  let marketSamples := samples.filter (·.market = market)
  let trainable := marketSamples.filter (·.trainable)
  let wins := trainable.filter (0 < ·.hypotheticalPnlInr)
  let losses := trainable.filter (·.hypotheticalPnlInr < 0)
  let positives := (wins.map (·.hypotheticalPnlInr)).sum
  let negatives := |(losses.map (·.hypotheticalPnlInr)).sum|
  let sortedSamples := (trainable.insertionSort fun first second =>
    first.hypotheticalPnlInr ≤ second.hypotheticalPnlInr).map fun sample =>
      (sample.symbol, sample.hypotheticalPnlInr)
  { samples := marketSamples.length
    trainableSamples := trainable.length
    stopLossCoverage := stopLossCoverage marketSamples
    hypotheticalPnlInr := (trainable.map (·.hypotheticalPnlInr)).sum
    avgHypotheticalPnlInr := meanOf (trainable.map (·.hypotheticalPnlInr))
    avgHypotheticalPnlPct := meanOf (trainable.map (·.hypotheticalPnlPct))
    winRate := wins.length / trainable.length
    profitFactor := if negatives = 0 then none else some (positives / negatives)
    avgRewardRiskRatio := meanOf (trainable.filterMap (·.rewardRiskRatio))
    labels := labelCounts trainable
    worstSamples := sortedSamples.take 3
    bestSamples := sortedSamples.reverse.take 3 }

section Outcomes

/-- What `_outcome_summary` tells of one idea. -/
structure IdeaRow where
  market : Market
  symbol : String
  openedDate : Day
  samples : ℕ
  outcome : GroupOutcome
  entryPrice : ℚ
  finalPrice : ℚ
  stopLoss : Option ℚ
  takeProfit : Option ℚ
  hypotheticalPnlInr : ℚ
  hypotheticalPnlPct : ℚ
deriving DecidableEq

structure OutcomeCounts where
  targetTouched : ℕ := 0
  stopTouched : ℕ := 0
  timeExitPositive : ℕ := 0
  timeExitNegative : ℕ := 0
  timeExitFlat : ℕ := 0
deriving DecidableEq

namespace OutcomeCounts

/-- `counts[outcome]`. -/
def of (counts : OutcomeCounts) : GroupOutcome → ℕ
  | .targetTouched => counts.targetTouched
  | .stopTouched => counts.stopTouched
  | .timeExitPositive => counts.timeExitPositive
  | .timeExitNegative => counts.timeExitNegative
  | .timeExitFlat => counts.timeExitFlat

/-- `counts[outcome] += 1`. -/
def add (counts : OutcomeCounts) : GroupOutcome → OutcomeCounts
  | .targetTouched => { counts with targetTouched := counts.targetTouched + 1 }
  | .stopTouched => { counts with stopTouched := counts.stopTouched + 1 }
  | .timeExitPositive => { counts with timeExitPositive := counts.timeExitPositive + 1 }
  | .timeExitNegative => { counts with timeExitNegative := counts.timeExitNegative + 1 }
  | .timeExitFlat => { counts with timeExitFlat := counts.timeExitFlat + 1 }

end OutcomeCounts

/-- The variables of the loop over the ideas. -/
structure OutcomeScan where
  counts : OutcomeCounts := {}
  india : OutcomeCounts := {}
  us : OutcomeCounts := {}
  symbolPnl : Dict String ℚ := .empty
  ideaRows : List IdeaRow := []

def OutcomeScan.ofMarket (scan : OutcomeScan) : Market → OutcomeCounts
  | .india => scan.india
  | .us => scan.us

/-- One turn of the loop, for the row of an idea. -/
def OutcomeScan.add (scan : OutcomeScan) (row : IdeaRow) : OutcomeScan where
  counts := scan.counts.add row.outcome
  india := if row.market = .india then scan.india.add row.outcome else scan.india
  us := if row.market = .us then scan.us.add row.outcome else scan.us
  symbolPnl := scan.symbolPnl.set row.symbol
    ((scan.symbolPnl.get? row.symbol).getD 0 + row.hypotheticalPnlInr)
  ideaRows := scan.ideaRows ++ [row]

/-- The key under which a sample belongs to an idea. -/
def ideaKey (sample : IntradayTrainingSample) : Market × String × Day :=
  (sample.market, sample.symbol, sample.openedDate)

/-- The samples of each idea. -/
def ideaGroups (samples : List IntradayTrainingSample) :
    Dict (Market × String × Day) (List IntradayTrainingSample) :=
  Dict.collect ideaKey (fun group sample => group.getD [] ++ [sample]) samples

/-- The samples of an idea, ordered by their marks. -/
def byMark (group : List IntradayTrainingSample) : List IntradayTrainingSample :=
  group.insertionSort fun first second => first.lastMarkedAt ≤ second.lastMarkedAt

/-- The row of an idea. A group without samples raises. -/
def ideaRow (key : Market × String × Day) (group : List IntradayTrainingSample) :
    Except RaisedError IdeaRow :=
  let ordered := byMark group
  match ordered.head?, ordered.getLast? with
  | some first, some final => do
    let outcome ← Shadow.IntradayModelTraining.groupOutcome (ordered.map (·.outcomeSample))
    return {
      market := key.1
      symbol := key.2.1
      openedDate := key.2.2
      samples := ordered.length
      outcome
      entryPrice := first.entryPrice
      finalPrice := final.currentPrice
      stopLoss := first.stopLoss
      takeProfit := first.takeProfit
      hypotheticalPnlInr := final.hypotheticalPnlInr
      hypotheticalPnlPct := final.hypotheticalPnlPct }
  | _, _ => .error ⟨"IndexError", "list index out of range"⟩

structure OutcomeSummary where
  ideas : ℕ
  counts : OutcomeCounts
  markets : Market → OutcomeCounts
  netHypotheticalPnlInr : ℚ
  targetTouchRate : ℚ
  stopTouchRate : ℚ
  bestSymbols : List (String × ℚ)
  worstSymbols : List (String × ℚ)
  recentIdeas : List IdeaRow

/-- What `_outcome_summary` returns after its loop. -/
def OutcomeScan.summary (scan : OutcomeScan) (ideas : ℕ) : OutcomeSummary :=
  let sortedSymbols := scan.symbolPnl.entries.insertionSort fun first second =>
    first.2 ≤ second.2
  { ideas
    counts := scan.counts
    markets := scan.ofMarket
    netHypotheticalPnlInr := scan.symbolPnl.values.sum
    targetTouchRate := scan.counts.targetTouched / ideas
    stopTouchRate := scan.counts.stopTouched / ideas
    bestSymbols := sortedSymbols.reverse.take 5
    worstSymbols := sortedSymbols.take 5
    recentIdeas := (descending (fun row : IdeaRow =>
      toLex (row.openedDate, toLex (row.market.value, row.symbol))) scan.ideaRows).take 20 }

/-- `_outcome_summary`. -/
def outcomeSummary (samples : List IntradayTrainingSample) : Except RaisedError OutcomeSummary := do
  let groups := ideaGroups samples
  let scan ← groups.entries.foldlM (fun scan entry => do
    return OutcomeScan.add scan (← ideaRow entry.1 entry.2)) {}
  return scan.summary groups.entries.length

end Outcomes

/-- What the service reads of the settings. -/
structure TrainingSettings where
  shadowHypothesisNotionalInr : ℚ
  maxSamples : ℕ
  minTotalSamples : ℤ
  minSamplesPerMarket : ℤ
  minStopLossCoverage : ℚ

inductive TrainingStatus where
  | waitingForMarketData
  | insufficientData
  | insufficientStopLossCoverage
  | insufficientMarketCoverage
  | calibratedShadowOnly
deriving DecidableEq, Repr

def TrainingStatus.value : TrainingStatus → String
  | waitingForMarketData => "WAITING_FOR_MARKET_DATA"
  | insufficientData => "INSUFFICIENT_DATA"
  | insufficientStopLossCoverage => "INSUFFICIENT_STOP_LOSS_COVERAGE"
  | insufficientMarketCoverage => "INSUFFICIENT_MARKET_COVERAGE"
  | calibratedShadowOnly => "CALIBRATED_SHADOW_ONLY"

section Report

variable (settings : TrainingSettings) (totalSamples trainableSamples : ℕ) (coverage : ℚ)
  (marketReports : Market → MarketReport)

/-- `_status`. -/
def trainingStatus : TrainingStatus :=
  if totalSamples = 0 then .waitingForMarketData
  else if trainableSamples < settings.minTotalSamples then .insufficientData
  else if coverage < settings.minStopLossCoverage then .insufficientStopLossCoverage
  else if [Market.india, .us].any fun market =>
      (marketReports market).trainableSamples < settings.minSamplesPerMarket then
    .insufficientMarketCoverage
  else .calibratedShadowOnly

def collectAction (missing : ℤ) : String :=
  s!"Collect {missing} more shadow observations before model review."

def rejectAction : String :=
  "Reject or repair observations missing stop-loss or reward/risk metadata."

def coverageAction : String :=
  "Keep stop-loss coverage above 95% before trusting intraday diagnostics."

def marketAction (market : Market) (missing : ℤ) : String :=
  s!"Collect {missing} more trainable {market.value} intraday samples."

def standingActions : List String :=
  ["Review only risk-adjusted expectancy after costs and slippage; " ++
      "do not optimize for raw returns.",
    "Keep live trading disabled until separate compliance and risk gates approve it."]

/-- `_next_actions`. -/
def nextActions : List String :=
  ((if totalSamples < settings.minTotalSamples then
      [collectAction (settings.minTotalSamples - totalSamples)] else []) ++
    (if trainableSamples < totalSamples then [rejectAction] else []) ++
    (if coverage < settings.minStopLossCoverage then [coverageAction] else []) ++
    ([Market.india, .us].flatMap fun market =>
      let missing := settings.minSamplesPerMarket - (marketReports market).trainableSamples
      if 0 < missing then [marketAction market missing] else []) ++
    standingActions).eraseDups

end Report

/-- What `build_report` says of its samples. -/
structure TrainingReport where
  status : TrainingStatus
  totalSamples : ℕ
  trainableSamples : ℕ
  stopLossCoverage : ℚ
  markets : Market → MarketReport
  labels : LabelCounts
  outcomeSummary : OutcomeSummary
  featureDiagnostics : List FeatureDiagnostic
  nextActions : List String
  recentSamples : List (IntradayTrainingSample × SampleLabel)

/-- The samples of a report. -/
def reportSamples (settings : TrainingSettings) (tables : Tables) : List IntradayTrainingSample :=
  (loadSamples settings.shadowHypothesisNotionalInr settings.maxSamples tables).map (·.sample)

/-- What `build_report` returns, given the outcomes and the diagnostics. -/
def reportOf (settings : TrainingSettings) (samples : List IntradayTrainingSample)
    (outcomeSummary : OutcomeSummary) (featureDiagnostics : List FeatureDiagnostic) :
    TrainingReport :=
  let trainable := samples.filter (·.trainable)
  let coverage := stopLossCoverage samples
  let markets := fun market => marketReport market samples
  { status := trainingStatus settings samples.length trainable.length coverage markets
    totalSamples := samples.length
    trainableSamples := trainable.length
    stopLossCoverage := coverage
    markets
    labels := labelCounts trainable
    outcomeSummary
    featureDiagnostics
    nextActions := nextActions settings samples.length trainable.length coverage markets
    recentSamples := (samples.take 20).map fun sample => (sample, label sample) }

/-- `build_report`. -/
def buildReport (squareRoot : SquareRoot) (settings : TrainingSettings) (tables : Tables) :
    Except RaisedError TrainingReport := do
  let samples := reportSamples settings tables
  let trainable := samples.filter (·.trainable)
  let outcomeSummary ← outcomeSummary trainable
  let featureDiagnostics ← featureDiagnostics squareRoot trainable
  return reportOf settings samples outcomeSummary featureDiagnostics

end AlphaAgent.ModelTraining
