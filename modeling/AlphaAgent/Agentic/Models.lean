import AlphaAgent.Core.Values

/-!
# Values of the agentic review layer

`app/agentic/models.py` and `app/agentic/config.py`. Prompts, hashes and
generated ids identify a record but decide nothing, so a record has none.
-/

namespace AlphaAgent.Agentic

inductive AgentSeverity where
  | low
  | medium
  | high
deriving DecidableEq, Repr

inductive AgentVerdict where
  | approve
  | warn
  | reject
  | insufficientData
deriving DecidableEq, Repr

inductive AgentRecommendation where
  | allow
  | reduceConfidence
  | block
  | waitForPullback
  | reduceSize
  | reviewOnly
  | markMissed
  | requireBacktest
  | disableStrategyTemporarily
  | increaseSlippageModel
deriving DecidableEq, Repr

def AgentRecommendation.value : AgentRecommendation → String
  | allow => "ALLOW"
  | reduceConfidence => "REDUCE_CONFIDENCE"
  | block => "BLOCK"
  | waitForPullback => "WAIT_FOR_PULLBACK"
  | reduceSize => "REDUCE_SIZE"
  | reviewOnly => "REVIEW_ONLY"
  | markMissed => "MARK_MISSED"
  | requireBacktest => "REQUIRE_BACKTEST"
  | disableStrategyTemporarily => "DISABLE_STRATEGY_TEMPORARILY"
  | increaseSlippageModel => "INCREASE_SLIPPAGE_MODEL"

inductive AgentDecisionStatus where
  | valid
  | invalid
  | timeout
  | error
deriving DecidableEq, Repr

/-- The three texts of `final_action_taken`: `NONE`, `BLOCK` and `ALLOW_OR_WARN`. -/
inductive FinalAction where
  | none
  | block
  | allowOrWarn
deriving DecidableEq, Repr

structure AgentBaseOutput where
  agentName : String
  verdict : AgentVerdict
  severity : AgentSeverity
  confidence : Proportion
  reasonCodes : List String := []
  explanation : String := ""
  recommendedAction : AgentRecommendation
  auditTags : List String := []
deriving DecidableEq

structure RegimeReviewOutput extends AgentBaseOutput where
  agreesWithRegime : Bool
deriving DecidableEq

structure SignalCriticOutput extends AgentBaseOutput where
  riskMultiplierSuggestion : Proportion := Proportion.one
deriving DecidableEq

structure RiskAuditorOutput extends AgentBaseOutput where
  riskViolations : List String := []
deriving DecidableEq

structure DriftDetectionOutput extends AgentBaseOutput where
  driftDetected : Bool
deriving DecidableEq

/-- A record; `parsedOutput` is `none` where the source stores an empty mapping. -/
structure AgentDecisionRecord where
  agentName : String
  rawOutput : String
  parsedOutput : Option AgentBaseOutput := none
  schemaValidationStatus : AgentDecisionStatus
  confidence : Proportion := Proportion.zero
  severity : AgentSeverity := .low
  recommendation : String := ""
  finalActionTaken : FinalAction := .none
  error : Option String := none
deriving DecidableEq

/-- `parsed.get("reasonCodes", [])`, for the parsed output of a record. -/
def AgentDecisionRecord.reasonCodes (record : AgentDecisionRecord) (default : List String := []) :
    List String := (record.parsedOutput.map AgentBaseOutput.reasonCodes).getD default

structure AgenticReviewResult where
  allowed : Bool := true
  block : Bool := false
  confidenceMultiplier : Proportion := Proportion.one
  riskMultiplier : Proportion := Proportion.one
  warnings : List String := []
  records : List AgentDecisionRecord := []
deriving DecidableEq

/-- `AgenticConfig`, with its defaults. -/
structure AgenticConfig where
  enabled : Bool := true
  strictMode : Bool := true
  agentCanBlockTrade : Bool := true
  agentCanReduceConfidence : Bool := true
  agentCanRecommendRiskReduction : Bool := true
  agentTimeoutMs : ℤ := 1500
  fallbackPolicy : String := "FAIL_SAFE_BLOCK"
deriving DecidableEq

end AlphaAgent.Agentic
