import AlphaAgent.Agentic.Models
import AlphaAgent.Foundation.Scan
import AlphaAgent.Intraday.Positions

/-!
# The intraday shadow pipeline

`IntradayShadowPipeline.process_snapshot`. What the review agents say and what
the clock reads come from outside: a call carries the reviews' results and the
clock readings, those made for a strategy by the strategy's place.
-/

namespace AlphaAgent.Intraday

open Agentic Foundation Paper

structure JournalEntry where
  timestamp : DateTime
  eventType : String
  symbol : String
  direction : String := ""
  strategy : String := ""
  regime : String := ""
  signalScore : Option ℤ := none
  reasonCodes : List String := []
  rejectionReason : Option String := none
  entryPrice : Option ℚ := none
  stopLoss : Option ℚ := none
  target : Option ℚ := none
  quantity : Option ℤ := none
  riskAmount : Option ℚ := none
  riskReward : Option ℚ := none
  simulatedFillPrice : Option ℚ := none
  slippage : Option ℚ := none
  candleSnapshot : Option Candle := none
deriving DecidableEq

/-- The state of an `IntradayShadowPipeline`. -/
structure IntradayShadowPipeline where
  positions : List VirtualPosition := []
  killSwitch : ShadowKillSwitchState := {}
  journal : List JournalEntry := []
deriving DecidableEq

/-- What a pipeline is built with. -/
structure PipelineSettings where
  text : SymbolText
  config : IntradayShadowConfig
  strategies : List IntradayStrategy

/-- What the review agents of an orchestrator say while a snapshot is
processed: of its regime, and of the signal of the strategy in each place. -/
structure AgenticReviews where
  enabled : Bool
  regime : Except RaisedError AgenticReviewResult
  signal : ℕ → Except RaisedError AgenticReviewResult
  risk : ℕ → Except RaisedError AgenticReviewResult
  execution : ℕ → Except RaisedError AgenticReviewResult

namespace AgenticReviews

variable (reviews : AgenticReviews)

/-- A disabled orchestrator returns `AgenticReviewResult()`. -/
def whenEnabled (result : Except RaisedError AgenticReviewResult) :
    Except RaisedError AgenticReviewResult :=
  if reviews.enabled then result else .ok {}

def reviewRegime : Except RaisedError AgenticReviewResult := reviews.whenEnabled reviews.regime

def reviewSignal (place : ℕ) : Except RaisedError AgenticReviewResult :=
  reviews.whenEnabled (reviews.signal place)

def reviewRisk (place : ℕ) : Except RaisedError AgenticReviewResult :=
  reviews.whenEnabled (reviews.risk place)

def reviewExecution (place : ℕ) : Except RaisedError AgenticReviewResult :=
  reviews.whenEnabled (reviews.execution place)

end AgenticReviews

/-- A call of `process_snapshot` with all that it reads from outside. -/
structure SnapshotCall where
  snapshot : MarketDataSnapshot
  riskState : Option ShadowRiskState := none
  checkedAt : ℤ
  orderedAt : ℕ → ℤ
  reviews : AgenticReviews

structure SignalRow where
  strategy : String
  direction : Direction
  score : ℤ
  decision : SignalDecision
  reasons : List String
  agenticWarnings : List String
deriving DecidableEq

structure OrderRow where
  fillStatus : FillStatus
  simulatedFill : Option ℚ
  rejectionReason : Option String
deriving DecidableEq

/-- The returned mapping. -/
structure SnapshotResult where
  symbol : String
  quality : DataQualityReport
  regime : RegimeResult
  universeDecision : UniverseDecision
  killSwitch : ShadowKillSwitchState
  agenticEnabled : Bool
  signals : List SignalRow := []
  orders : List OrderRow := []
  positions : List String := []
  reviews : List AgenticReviewResult := []
  ordersPlaced : ℕ := 0
  shadowOnly : Bool := true
deriving DecidableEq

/-- The rows which one strategy adds to the result. -/
structure StrategyRows where
  signals : List SignalRow := []
  orders : List OrderRow := []
  positions : List String := []
  reviews : List AgenticReviewResult := []
deriving DecidableEq

/-- The result with the rows of the strategies, in their order. -/
def SnapshotResult.withRows (result : SnapshotResult) (rows : List StrategyRows) :
    SnapshotResult :=
  { result with
    signals := result.signals ++ rows.flatMap StrategyRows.signals
    orders := result.orders ++ rows.flatMap StrategyRows.orders
    positions := result.positions ++ rows.flatMap StrategyRows.positions
    reviews := result.reviews ++ rows.flatMap StrategyRows.reviews }

/-- `int(value)`: towards zero. -/
def truncate (value : ℚ) : ℤ := if 0 ≤ value then ⌊value⌋ else ⌈value⌉

/-- The score under the confidence multiplier of its review. -/
def applyConfidence (config : IntradayShadowConfig) (scored : ScoredSignal)
    (multiplier : Proportion) : ScoredSignal :=
  if multiplier.val < 1 then
    let adjustedScore := truncate (scored.score * multiplier.val)
    { scored with
      score := adjustedScore
      decision := decisionOf config adjustedScore
      reasons := scored.reasons ++ ["agentic_confidence_reduction"] }
  else scored

theorem applyConfidence_signal (config : IntradayShadowConfig) (scored : ScoredSignal)
    (multiplier : Proportion) :
    (applyConfidence config scored multiplier).signal = scored.signal := by
  unfold applyConfidence
  split <;> rfl

def joinReasons (reasons : List String) : String := String.intercalate ";" reasons

/-- `_journal`. -/
def writeEntry (entry : JournalEntry) : Fallible RaisedError IntradayShadowPipeline Unit :=
  modify fun pipeline => { pipeline with journal := pipeline.journal ++ [entry] }

/-- What every entry about a scored signal says. -/
def signalEntry (eventType : String) (scored : ScoredSignal) : JournalEntry :=
  let signal := scored.signal
  { timestamp := signal.timestamp
    eventType
    symbol := signal.symbol
    direction := signal.direction.value
    strategy := signal.strategyName
    regime := signal.regimeAtSignal.value
    signalScore := some scored.score
    reasonCodes := scored.reasons
    entryPrice := some signal.entryPrice
    stopLoss := some signal.stopLoss
    target := some signal.targetPrice
    riskReward := some signal.riskRewardRatio
    candleSnapshot := signal.candleSnapshot }

def rejectedEntry (scored : ScoredSignal) (reason : String) : JournalEntry :=
  { signalEntry "SIGNAL_REJECTED" scored with rejectionReason := some reason }

def orderEntry (scored : ScoredSignal) (approval : RiskApproval) (order : ShadowOrder) :
    JournalEntry :=
  { signalEntry (if order.fillStatus = .filled then "SHADOW_ORDER_FILLED"
      else "SHADOW_ORDER_REJECTED") scored with
    timestamp := order.timestamp
    symbol := order.symbol
    direction := order.direction.value
    rejectionReason := order.rejectionReason
    quantity := some order.quantity
    riskAmount := some approval.riskAmount
    simulatedFillPrice := order.simulatedFill
    slippage := some order.slippage }

/-- What the strategies of one snapshot are judged by. -/
structure Judgement where
  quality : DataQualityReport
  regime : RegimeResult
  state : ShadowRiskState

section Process

variable (settings : PipelineSettings) (call : SnapshotCall)

/-- Simulate an accepted signal and open what was filled. -/
def executeSignal (place : ℕ) (scored : ScoredSignal) (approval : RiskApproval)
    (rows : StrategyRows) : Fallible RaisedError IntradayShadowPipeline StrategyRows := do
  writeEntry { signalEntry "SIGNAL_ACCEPTED" scored with
    quantity := some approval.quantity
    riskAmount := some approval.riskAmount }
  let order ← Fallible.ofExcept (ShadowExecutionSimulator.simulate settings.config scored.signal
    approval call.snapshot (.utc (call.orderedAt place)))
  let executionReview ← Fallible.ofExcept (call.reviews.reviewExecution place)
  writeEntry (orderEntry scored approval order)
  let rows := { rows with
    orders := [⟨order.fillStatus, order.simulatedFill, order.rejectionReason⟩]
    reviews := rows.reviews ++ [executionReview] }
  match VirtualPositionManager.openPosition scored.signal order with
  | none => return rows
  | some position =>
    modify fun pipeline => { pipeline with positions := pipeline.positions ++ [position] }
    return { rows with positions := [position.symbol] }

/-- Ask the risk manager and the risk auditor about a valid signal. -/
def processScored (judgement : Judgement) (place : ℕ) (scored : ScoredSignal)
    (rows : StrategyRows) : Fallible RaisedError IntradayShadowPipeline StrategyRows := do
  let approval := RiskManager.approve settings.config scored judgement.quality judgement.state
    (some judgement.regime.regime)
  if approval.approved = false then
    writeEntry { rejectedEntry scored (joinReasons approval.rejectionReasons) with
      riskAmount := some approval.riskAmount }
    return rows
  else
    let riskReview ← Fallible.ofExcept (call.reviews.reviewRisk place)
    let rows := { rows with reviews := rows.reviews ++ [riskReview] }
    if riskReview.block then
      writeEntry { rejectedEntry scored ("agentic_risk_block:" ++ joinReasons riskReview.warnings)
        with riskAmount := some approval.riskAmount }
      return rows
    else executeSignal settings call place scored approval rows

/-- One round of the loop over the strategies. -/
def processStrategy (judgement : Judgement) (earlier : List IntradayStrategy)
    (strategy : IntradayStrategy) : Fallible RaisedError IntradayShadowPipeline StrategyRows := do
  let place := earlier.length
  match ← Fallible.ofExcept (strategy call.snapshot judgement.regime) with
  | none => return {}
  | some signal =>
    let review ← Fallible.ofExcept (call.reviews.reviewSignal place)
    let scored := applyConfidence settings.config
      (SignalScoringEngine.score settings.config signal) review.confidenceMultiplier
    let rows : StrategyRows :=
      { signals := [⟨signal.strategyName, signal.direction, scored.score, scored.decision,
          scored.reasons, review.warnings⟩]
        reviews := [review] }
    if review.block then
      writeEntry (rejectedEntry scored ("agentic_block:" ++ joinReasons review.warnings))
      return rows
    else if scored.decision ≠ .valid then
      writeEntry (rejectedEntry scored scored.decision.value)
      return rows
    else processScored settings call judgement place scored rows

/-- An entry about a snapshot as a whole. -/
def blockEntry (eventType reason : String) : JournalEntry :=
  { timestamp := call.snapshot.timestamp
    eventType
    symbol := call.snapshot.symbol
    rejectionReason := some reason }

/-- Review the regime and, unless that blocks, ask every strategy. -/
def processStrategies (judgement : Judgement) (result : SnapshotResult) :
    Fallible RaisedError IntradayShadowPipeline SnapshotResult := do
  let regimeReview ← Fallible.ofExcept call.reviews.reviewRegime
  let result := { result with reviews := [regimeReview] }
  if regimeReview.block then
    writeEntry (blockEntry call "AGENTIC_REGIME_BLOCK" (joinReasons regimeReview.warnings))
    return result
  else
    let rows ← Fallible.scan (processStrategy settings call judgement) [] settings.strategies
    return result.withRows rows

/-- `process_snapshot`. -/
def processSnapshot : Fallible RaisedError IntradayShadowPipeline SnapshotResult := do
  let pipeline ← get
  let state := call.riskState.getD { openPositions := pipeline.positions }
  let quality ← Fallible.ofExcept
    (DataQualityMonitor.check settings.config call.snapshot (.utc call.checkedAt))
  let regime := MarketRegimeClassifier.classify settings.config call.snapshot
  let kill := KillSwitchManager.evaluate settings.config pipeline.killSwitch state (some quality)
  modify fun pipeline => { pipeline with killSwitch := kill }
  let universeDecision := UniverseFilter.check settings.text settings.config call.snapshot quality
  let result : SnapshotResult :=
    { symbol := call.snapshot.symbol
      quality
      regime
      universeDecision
      killSwitch := kill
      agenticEnabled := call.reviews.enabled }
  if kill.triggered ∨ ¬universeDecision.allowed then
    writeEntry (blockEntry call "DATA_OR_UNIVERSE_BLOCK"
      (joinReasons (kill.reasons ++ universeDecision.reasons)))
    return result
  else processStrategies settings call ⟨quality, regime, state⟩ result

end Process
end AlphaAgent.Intraday
