import AlphaAgent.Agentic.FailSafe
import AlphaAgent.Intraday.JournalRows

/-!
# The deterministic reviews

`SignalCriticAgent`, `RiskAuditorAgent` and `ExecutionSimulationAgent`, and a call which
they review: what the orchestrator asks them is what the pipeline has found. An agent
dumps its output as a text, which is parsed under its schema again; both are the work of
pydantic. The regime review looks at the raw payload of a provider and stays whatever
it is.
-/

namespace AlphaAgent.Agentic

def AgentSeverity.rank : AgentSeverity → ℕ
  | low => 1
  | medium => 2
  | high => 3

/-- `max_severity`. -/
def maxSeverity (left right : AgentSeverity) : AgentSeverity :=
  if right.rank ≤ left.rank then left else right

/-- `_raw_review`: the text of what an agent answers after some time, or what it raised. -/
def rawReview {Output : Type} (dump : Output → String) (elapsedMs : ℚ) :
    Except RaisedError Output → RawReview
  | .ok output => .returned (dump output) elapsedMs
  | .error raised => .raised (raised.errorType = "ValueError") raised.message

end AlphaAgent.Agentic

namespace AlphaAgent.Intraday

open Agentic Foundation Risk

/-- The reasons and the severity of a critique. -/
structure Critique where
  reasons : List String := []
  severity : AgentSeverity := .low

/-- Append a reason of a severity when its condition holds. -/
def Critique.note (critique : Critique) (condition : Prop) [Decidable condition] (reason : String)
    (severity : AgentSeverity) : Critique :=
  if condition then
    { reasons := critique.reasons ++ [reason]
      severity := maxSeverity critique.severity severity }
  else critique

namespace SignalCriticAgent

/-- The close of the latest candle, where it has one. -/
def lastClose (signal : Signal) : Option ℚ := given (signal.candleSnapshot.map Candle.close)

def critique (signal : Signal) (tradesTakenToday : ℕ) : Critique :=
  ({} : Critique)
    |>.note (signal.riskRewardRatio < 3 / 2) "risk_reward_too_low" .high
    |>.note (signal.stopLoss ≤ 0 ∨ signal.stopLoss = signal.entryPrice) "invalid_stop_loss" .high
    |>.note (signal.direction = .long ∧ signal.regimeAtSignal.isBearish)
      "long_signal_against_bearish_regime" .high
    |>.note (signal.direction = .short ∧ signal.regimeAtSignal.isBullish)
      "short_signal_against_bullish_regime" .high
    |>.note ((lastClose signal).any fun close =>
      1 / 100 < |signal.entryPrice - close| / signal.entryPrice)
      "entry_far_from_latest_candle_close" .medium
    |>.note (3 ≤ tradesTakenToday) "trade_count_near_daily_limit" .medium

/-- `SignalCriticAgent._deterministic_review`. -/
def deterministicReview (signal : Signal) (tradesTakenToday : ℕ) :
    Except RaisedError SignalCriticOutput :=
  if (lastClose signal).isSome ∧ signal.entryPrice = 0 then
    .error (.zeroDivisionError "float division by zero")
  else
    let critique := critique signal tradesTakenToday
    let (verdict, action) : AgentVerdict × AgentRecommendation := match critique.severity with
      | .high => (.reject, .block)
      | .medium => (.warn, .reduceConfidence)
      | .low => (.approve, .allow)
    .ok {
      agentName := "SignalCriticAgent"
      verdict
      severity := critique.severity
      confidence :=
        if critique.reasons = [] then ⟨72 / 100, by norm_num⟩ else ⟨82 / 100, by norm_num⟩
      reasonCodes :=
        if critique.reasons = [] then ["signal_context_acceptable"] else critique.reasons
      explanation := "Signal critique completed. Agent cannot force trades or increase size."
      recommendedAction := action
      riskMultiplierSuggestion := if action = .block then .zero else .one
      auditTags := ["pre_signal_acceptance"] }

end SignalCriticAgent

namespace RiskAuditorAgent

variable (config : IntradayShadowConfig) (signal : Signal) (approval : RiskApproval)
  (tradesTakenToday : ℕ)

def riskViolations : List String :=
  rejectIf (approval.quantity ≤ 0) "quantity_not_positive" ++
    rejectIf (|signal.entryPrice - signal.stopLoss| ≤ 0) "stop_distance_invalid" ++
    rejectIf (signal.riskRewardRatio < 3 / 2) "risk_reward_below_policy" ++
    rejectIf (config.maxTradesPerDay ≤ tradesTakenToday) "daily_trade_limit_reached" ++
    rejectIf (config.capital * (5 / 1000) < approval.riskAmount) "risk_amount_above_hard_shadow_cap"

/-- `RiskAuditorAgent._deterministic_review`. -/
def deterministicReview : RiskAuditorOutput :=
  let violations := riskViolations config signal approval tradesTakenToday
  let accepted := violations = []
  { agentName := "RiskAuditorAgent"
    verdict := if accepted then .approve else .reject
    severity := if accepted then .low else .high
    confidence := ⟨9 / 10, by norm_num⟩
    reasonCodes := if accepted then ["risk_manager_output_acceptable"] else violations
    explanation := "Risk audit reviewed deterministic approval before shadow execution."
    recommendedAction := if accepted then .allow else .block
    riskViolations := violations
    auditTags := ["pre_shadow_execution"] }

end RiskAuditorAgent

/-- `ExecutionSimulationAgent._deterministic_review`. -/
def ExecutionSimulationAgent.deterministicReview (order : ShadowOrder) : AgentBaseOutput :=
  let missed := order.fillStatus = .missed
  let slipped : Bool := 0 < order.expectedEntry && order.simulatedFill.any fun fill =>
    25 / 10000 < |fill - order.expectedEntry| / order.expectedEntry
  let reasons := rejectIf missed "missed_entry" ++ rejectIf slipped "high_simulated_slippage"
  let accepted := reasons = []
  { agentName := "ExecutionSimulationAgent"
    verdict := if accepted then .approve else .warn
    severity := if accepted then .low else .medium
    confidence := .threeQuarters
    reasonCodes := if accepted then ["execution_simulation_reasonable"] else reasons
    explanation := "Execution simulation reviewed; no broker order path exists here."
    recommendedAction :=
      if slipped then .increaseSlippageModel else if missed then .markMissed else .allow
    auditTags := ["post_shadow_fill"] }

/-- An orchestrator with the texts which its agents dump their outputs as. -/
structure Reviewers where
  orchestrator : AgenticOrchestrator
  dumpCritique : SignalCriticOutput → String
  dumpAudit : RiskAuditorOutput → String
  dumpExecution : AgentBaseOutput → String

/-- A schema reads back what its agent dumps. -/
structure Reviewers.RoundTrips (reviewers : Reviewers) : Prop where
  critique : ∀ signal tradesTakenToday output,
    SignalCriticAgent.deterministicReview signal tradesTakenToday = .ok output →
      reviewers.orchestrator.signalCriticSchema (reviewers.dumpCritique output) = .ok output
  audit : ∀ config signal approval tradesTakenToday,
    let output := RiskAuditorAgent.deterministicReview config signal approval tradesTakenToday
    reviewers.orchestrator.riskAuditorSchema (reviewers.dumpAudit output) = .ok output

/-- How long the agents take for the signal in each place. -/
structure ReviewTimes where
  signal : ℕ → ℚ
  risk : ℕ → ℚ
  execution : ℕ → ℚ

section Reviews

variable (reviewers : Reviewers) (times : ReviewTimes) (settings : PipelineSettings)
  (call : SnapshotCall) (judgement : Judgement) (place : ℕ) (signal : Signal)

/-- `review_signal`, of a signal. -/
def signalReview : AgenticReviewResult :=
  reviewers.orchestrator.reviewSignal (rawReview reviewers.dumpCritique (times.signal place)
    (SignalCriticAgent.deterministicReview signal judgement.state.tradesToday))

/-- What the risk manager says of the signal once its critique is heeded. -/
def reviewedApproval : RiskApproval :=
  RiskManager.approve settings.config (applyConfidence settings.config
    (SignalScoringEngine.score settings.config signal)
    (signalReview reviewers times judgement place signal).confidenceMultiplier)
    judgement.quality judgement.state (some judgement.regime.regime)

/-- `review_risk`, of the signal and its approval. -/
def riskReview (approval : RiskApproval) : AgenticReviewResult :=
  reviewers.orchestrator.reviewRisk (rawReview reviewers.dumpAudit (times.risk place)
    (.ok (RiskAuditorAgent.deterministicReview settings.config signal approval
      judgement.state.tradesToday)))

/-- `review_execution`, of the order which is simulated for an approval. -/
def executionReview (approval : RiskApproval) : AgenticReviewResult :=
  match ShadowExecutionSimulator.simulate settings.config signal approval call.snapshot
      (.utc (call.orderedAt place)) with
  | .ok order =>
    reviewers.orchestrator.reviewExecution (rawReview reviewers.dumpExecution
      (times.execution place) (.ok (ExecutionSimulationAgent.deterministicReview order)))
  | .error _ => {}

/-- The signal of the strategy in a place. -/
def signalAt : Option Signal :=
  settings.strategies[place]?.bind fun strategy =>
    match strategy call.snapshot judgement.regime with
    | .ok signal => signal
    | .error _ => none

/-- What the agents say of what the strategies signal. A place without a signal is
not reviewed. -/
def reviewsOf : AgenticReviews where
  enabled := reviewers.orchestrator.config.enabled
  regime := call.reviews.regime
  signal place := .ok ((signalAt settings call judgement place).elim {}
    (signalReview reviewers times judgement place))
  risk place := .ok ((signalAt settings call judgement place).elim {} fun signal =>
    riskReview reviewers times settings judgement place signal
      (reviewedApproval reviewers times settings judgement place signal))
  execution place := .ok ((signalAt settings call judgement place).elim {} fun signal =>
    executionReview reviewers times settings call place signal
      (reviewedApproval reviewers times settings judgement place signal))

/-- A call which the agents review. -/
def SnapshotCall.reviewed (pipeline : IntradayShadowPipeline) : SnapshotCall :=
  match DataQualityMonitor.check settings.config call.snapshot (.utc call.checkedAt) with
  | .ok quality =>
    { call with
      reviews := reviewsOf reviewers times settings call
        (call.judgement settings pipeline quality) }
  | .error _ => call

end Reviews
end AlphaAgent.Intraday
