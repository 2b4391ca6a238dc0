import AlphaAgent.Agentic.Models
import Mathlib.Algebra.Order.Ring.Rat

/-!
# Review agents

`AgentAuthorityPolicy` and `BaseReviewAgent.review`. An agent is known by its
name, the schema which its raw output is parsed under and the fields all
outputs share. What the agent answers to its payload is any raw review.
-/

namespace AlphaAgent.Agentic

/-- `FORBIDDEN_RECOMMENDATIONS`. -/
def forbiddenRecommendations : List String :=
  ["FORCE_TRADE", "INCREASE_SIZE", "INCREASE_RISK", "ENABLE_LIVE_TRADING",
    "CHANGE_STRATEGY_LIVE", "DELETE_LOGS", "MODIFY_JOURNAL"]

namespace AgentAuthorityPolicy

/-- `validate_recommendation` of a recommendation in upper case: the error, if any. -/
def validateRecommendation (config : AgenticConfig) (normalized : String) : Option String :=
  if normalized ∈ forbiddenRecommendations then some "forbidden_agent_recommendation"
  else if normalized = AgentRecommendation.block.value ∧ ¬config.agentCanBlockTrade then
    some "agent_block_not_allowed"
  else if normalized = AgentRecommendation.reduceConfidence.value ∧
      ¬config.agentCanReduceConfidence then
    some "agent_reduce_confidence_not_allowed"
  else if normalized = AgentRecommendation.reduceSize.value ∧
      ¬config.agentCanRecommendRiskReduction then
    some "agent_risk_reduction_not_allowed"
  else none

/-- `apply`, for an output which was valid. -/
def apply (config : AgenticConfig) (output : AgentBaseOutput) : AgenticReviewResult :=
  match validateRecommendation config output.recommendedAction.value with
  | some policyError =>
    { allowed := !config.strictMode, block := config.strictMode, warnings := [policyError] }
  | none =>
    let warnings := output.reasonCodes
    if output.severity = .high then { allowed := false, block := true, warnings }
    else if output.verdict = .reject ∨ output.recommendedAction = .block then
      { allowed := false, block := true, warnings }
    else if output.severity = .medium then
      { confidenceMultiplier := Proportion.fourFifths
        riskMultiplier :=
          if output.recommendedAction = .reduceSize then Proportion.threeQuarters
          else Proportion.one
        warnings }
    else { warnings }

end AgentAuthorityPolicy

/-- What `_raw_review` does: raise, or return a text after some time. -/
inductive RawReview where
  | raised (isValueError : Bool) (message : String)
  | returned (rawOutput : String) (elapsedMs : ℚ)
deriving DecidableEq

/-- An agent with its output schema, which parses a raw output or says why not. -/
structure ReviewAgent (Output : Type) where
  agentName : String
  outputModel : String → Except String Output
  base : Output → AgentBaseOutput

namespace ReviewAgent

variable {Output : Type} (agent : ReviewAgent Output) (config : AgenticConfig)

/-- `raw_output_required`. -/
def storedOutput (rawOutput : String) : String := if rawOutput = "" then "\x7b\x7d" else rawOutput

/-- The record of a review which gave no output. -/
def failureRecord (rawOutput : String) (status : AgentDecisionStatus) (error : String) :
    AgentDecisionRecord :=
  { agentName := agent.agentName
    rawOutput := storedOutput rawOutput
    schemaValidationStatus := status
    error := some error }

/-- The record of a valid output. -/
def validRecord (rawOutput : String) (output : Output) : AgentDecisionRecord :=
  let base := agent.base output
  { agentName := agent.agentName
    rawOutput := storedOutput rawOutput
    parsedOutput := some base
    schemaValidationStatus := .valid
    confidence := base.confidence
    severity := base.severity
    recommendation := base.recommendedAction.value
    finalActionTaken :=
      if (AgentAuthorityPolicy.apply config base).block then .block else .allowOrWarn }

/-- `BaseReviewAgent.review`. -/
def review (reply : RawReview) : Option Output × AgentDecisionRecord :=
  match reply with
  | .raised true message => (none, agent.failureRecord "" .invalid message)
  | .raised false message => (none, agent.failureRecord "" .error message)
  | .returned rawOutput elapsedMs =>
    if config.agentTimeoutMs < elapsedMs then
      (none, agent.failureRecord rawOutput .timeout "agent_timeout")
    else
      match agent.outputModel rawOutput with
      | .error message => (none, agent.failureRecord rawOutput .invalid message)
      | .ok output => (some output, agent.validRecord config rawOutput output)

/-- The agent answers in time with an output which its schema accepts. -/
def Answers (reply : RawReview) (output : Output) : Prop :=
  ∃ rawOutput elapsedMs, reply = .returned rawOutput elapsedMs ∧
    elapsedMs ≤ config.agentTimeoutMs ∧ agent.outputModel rawOutput = .ok output

/-- The review fails: the agent raised, was late, or its output is no valid one. -/
def Fails : RawReview → Prop
  | .raised _ _ => True
  | .returned rawOutput elapsedMs =>
    config.agentTimeoutMs < elapsedMs ∨ ∃ message, agent.outputModel rawOutput = .error message

variable {agent config} {reply : RawReview}

/-- A review which fails gives no output and a record which is not valid. -/
theorem review_of_fails (fails : agent.Fails config reply) :
    ∃ rawOutput status error, status ≠ AgentDecisionStatus.valid ∧
      agent.review config reply = (none, agent.failureRecord rawOutput status error) := by
  unfold review
  match reply, fails with
  | .raised true message, _ => exact ⟨"", .invalid, message, by decide, rfl⟩
  | .raised false message, _ => exact ⟨"", .error, message, by decide, rfl⟩
  | .returned rawOutput elapsedMs, reason =>
    dsimp only
    split
    · exact ⟨rawOutput, .timeout, "agent_timeout", by decide, rfl⟩
    · next inTime =>
      obtain ⟨message, invalid⟩ := reason.resolve_left inTime
      rw [invalid]
      exact ⟨rawOutput, .invalid, message, by decide, rfl⟩

/-- A review with an answer gives the answer and its record. -/
theorem review_of_answers {output : Output} (answers : agent.Answers config reply output) :
    ∃ rawOutput, agent.review config reply =
      (some output, agent.validRecord config rawOutput output) := by
  obtain ⟨rawOutput, elapsedMs, rfl, inTime, parsed⟩ := answers
  refine ⟨rawOutput, ?_⟩
  simp only [review, if_neg inTime.not_gt, parsed]

/-- A review fails or it has an answer. -/
theorem fails_or_answers (agent : ReviewAgent Output) (config : AgenticConfig) (reply : RawReview) :
    agent.Fails config reply ∨ ∃ output, agent.Answers config reply output := by
  cases reply with
  | raised isValueError message => exact .inl trivial
  | returned rawOutput elapsedMs =>
    rcases lt_or_ge (config.agentTimeoutMs : ℚ) elapsedMs with late | inTime
    · exact .inl (.inl late)
    · cases parsed : agent.outputModel rawOutput with
      | error message => exact .inl (.inr ⟨message, parsed⟩)
      | ok output => exact .inr ⟨output, rawOutput, elapsedMs, rfl, inTime, parsed⟩

/-- An answer is the only one, and the review has not failed. -/
theorem Answers.unique {output other : Output} (answers : agent.Answers config reply output)
    (again : agent.Answers config reply other) : output = other := by
  obtain ⟨rawOutput, elapsedMs, rfl, -, parsed⟩ := answers
  obtain ⟨_, _, same, -, reparsed⟩ := again
  cases same
  exact Except.ok.inj (parsed.symm.trans reparsed)

theorem Answers.not_fails {output : Output} (answers : agent.Answers config reply output) :
    ¬agent.Fails config reply := by
  obtain ⟨rawOutput, elapsedMs, rfl, inTime, parsed⟩ := answers
  rintro (late | ⟨message, invalid⟩)
  · exact absurd late inTime.not_gt
  · rw [parsed] at invalid
    cases invalid

end ReviewAgent
end AlphaAgent.Agentic
