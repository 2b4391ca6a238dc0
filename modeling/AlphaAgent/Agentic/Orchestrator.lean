import AlphaAgent.Agentic.Agents
import AlphaAgent.Core.Enums

/-!
# Coordinating the review agents

`app/agentic/orchestrator.py`. Parsing a raw output under its schema is the work
of pydantic and is a parameter of each agent. A review is a function of the raw
replies of the agents which it consults.
-/

namespace AlphaAgent.Agentic

/-- The agents of an orchestrator, by their output schemas. -/
structure AgenticOrchestrator where
  config : AgenticConfig
  complianceSchema : String → Except String AgentBaseOutput
  marketContextSchema : String → Except String AgentBaseOutput
  driftDetectionSchema : String → Except String DriftDetectionOutput
  regimeReviewSchema : String → Except String RegimeReviewOutput
  signalCriticSchema : String → Except String SignalCriticOutput
  riskAuditorSchema : String → Except String RiskAuditorOutput
  executionReviewSchema : String → Except String AgentBaseOutput

/-- `_result_from_record`. -/
def resultFromRecord (record : AgentDecisionRecord) : AgenticReviewResult :=
  if record.schemaValidationStatus ≠ .valid then
    { allowed := false
      block := true
      warnings := [(record.error.filter (· ≠ "")).getD "agent_decision_invalid"]
      records := [record] }
  else
    let blocks := record.finalActionTaken = .block ∨ record.severity = .high
    { allowed := ¬blocks
      block := blocks
      confidenceMultiplier :=
        if record.severity = .medium then Proportion.fourFifths else Proportion.one
      warnings := record.reasonCodes
      records := [record] }

/-- `_record_blocks`. -/
def recordBlocks (record : AgentDecisionRecord) : Bool :=
  record.finalActionTaken = .block ∨ record.severity = .high

namespace AgenticOrchestrator

variable (orchestrator : AgenticOrchestrator)

def complianceSafety : ReviewAgent AgentBaseOutput :=
  ⟨"ComplianceSafetyAgent", orchestrator.complianceSchema, id⟩

def marketContext : ReviewAgent AgentBaseOutput :=
  ⟨"MarketContextAgent", orchestrator.marketContextSchema, id⟩

def driftDetection : ReviewAgent DriftDetectionOutput :=
  ⟨"DriftDetectionAgent", orchestrator.driftDetectionSchema, (·.toAgentBaseOutput)⟩

def regimeReview : ReviewAgent RegimeReviewOutput :=
  ⟨"RegimeReviewAgent", orchestrator.regimeReviewSchema, (·.toAgentBaseOutput)⟩

def signalCritic : ReviewAgent SignalCriticOutput :=
  ⟨"SignalCriticAgent", orchestrator.signalCriticSchema, (·.toAgentBaseOutput)⟩

def riskAuditor : ReviewAgent RiskAuditorOutput :=
  ⟨"RiskAuditorAgent", orchestrator.riskAuditorSchema, (·.toAgentBaseOutput)⟩

def executionReview : ReviewAgent AgentBaseOutput :=
  ⟨"ExecutionSimulationAgent", orchestrator.executionReviewSchema, id⟩

def withRecord (record : AgentDecisionRecord) (result : AgenticReviewResult) :
    AgenticReviewResult := { result with records := result.records ++ [record] }

/-- Block a result with further warnings. -/
def blocked (result : AgenticReviewResult) (warnings : List String) : AgenticReviewResult :=
  { result with allowed := false, block := true, warnings := result.warnings ++ warnings }

/-- What the pre-market review takes from its compliance record. -/
def withCompliance (record : AgentDecisionRecord) (result : AgenticReviewResult) :
    AgenticReviewResult :=
  let recorded := withRecord record result
  if recordBlocks record then blocked recorded (record.reasonCodes ["compliance_block"])
  else recorded

/-- What it takes from the review of the market context. -/
def withMarketContext (review : Option AgentBaseOutput × AgentDecisionRecord)
    (result : AgenticReviewResult) : AgenticReviewResult :=
  let recorded := withRecord review.2 result
  match review.1 with
  | some output =>
    if output.severity = .high then blocked recorded output.reasonCodes else recorded
  | none => recorded

/-- What it takes from the drift detection. -/
def withDrift (review : Option DriftDetectionOutput × AgentDecisionRecord)
    (result : AgenticReviewResult) : AgenticReviewResult :=
  let recorded := withRecord review.2 result
  match review.1 with
  | some output =>
    if output.driftDetected then
      { recorded with
        confidenceMultiplier := min recorded.confidenceMultiplier Proportion.fourFifths
        warnings := recorded.warnings ++ output.reasonCodes }
    else recorded
  | none => recorded

def preMarketReview (compliance market drift : RawReview) : AgenticReviewResult :=
  if !orchestrator.config.enabled then {}
  else
    let config := orchestrator.config
    let afterCompliance :=
      withCompliance (orchestrator.complianceSafety.review config compliance).2 {}
    let afterMarket :=
      withMarketContext (orchestrator.marketContext.review config market) afterCompliance
    withDrift (orchestrator.driftDetection.review config drift) afterMarket

/-- A review which consults one agent: the result of its record, in which the
review heeds what else the output says. -/
def reviewBy {Output : Type} (agent : ReviewAgent Output)
    (heed : Output → AgenticReviewResult → AgenticReviewResult) (reply : RawReview) :
    AgenticReviewResult :=
  if !orchestrator.config.enabled then {}
  else
    let review := agent.review orchestrator.config reply
    let result := resultFromRecord review.2
    match review.1 with
    | some output => heed output result
    | none => result

def reviewRegime : RawReview → AgenticReviewResult :=
  orchestrator.reviewBy orchestrator.regimeReview fun output result =>
    if output.agreesWithRegime then result
    else { result with
      confidenceMultiplier := min result.confidenceMultiplier Proportion.fourFifths }

def reviewSignal : RawReview → AgenticReviewResult :=
  orchestrator.reviewBy orchestrator.signalCritic fun output result =>
    { result with riskMultiplier := min result.riskMultiplier output.riskMultiplierSuggestion }

def reviewRisk : RawReview → AgenticReviewResult :=
  orchestrator.reviewBy orchestrator.riskAuditor fun output result =>
    { result with warnings := result.warnings ++ output.riskViolations }

def reviewExecution : RawReview → AgenticReviewResult :=
  orchestrator.reviewBy orchestrator.executionReview fun output result =>
    if output.recommendedAction = .markMissed then
      { result with warnings := result.warnings ++ ["execution_agent_marked_missed_entry"] }
    else result

end AgenticOrchestrator
end AlphaAgent.Agentic
