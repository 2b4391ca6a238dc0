import AlphaAgent.Agentic.Orchestrator

/-!
# Which reviews fail safe

A review fails safe when it blocks as soon as an agent which it consults has
failed. The four reviews of a snapshot turn the record of a failed agent into a
block; the pre-market review reads only the action and the severity of a
record, which a failed agent leaves at their harmless defaults.
-/

namespace AlphaAgent.Agentic

/-- The raw replies of all consulted agents. -/
structure ReviewReplies where
  compliance : RawReview
  marketContext : RawReview
  drift : RawReview
  regime : RawReview
  signal : RawReview
  risk : RawReview
  execution : RawReview

/-- The result stops what it reviews. -/
def IsBlocked (result : AgenticReviewResult) : Prop :=
  result.block = true ∧ result.allowed = false

/-- If an agent has failed then the review blocks. -/
def FailsSafe (failed : Prop) (result : AgenticReviewResult) : Prop := failed → IsBlocked result

namespace AgenticOrchestrator

variable (orchestrator : AgenticOrchestrator) (replies : ReviewReplies)

/-- An agent which the pre-market review consults has failed. -/
def PreMarketAgentFails : Prop :=
  orchestrator.complianceSafety.Fails orchestrator.config replies.compliance ∨
    orchestrator.marketContext.Fails orchestrator.config replies.marketContext ∨
    orchestrator.driftDetection.Fails orchestrator.config replies.drift

/-- All five reviews fail safe. -/
structure AllFailSafe : Prop where
  preMarket : FailsSafe (orchestrator.PreMarketAgentFails replies)
    (orchestrator.preMarketReview replies.compliance replies.marketContext replies.drift)
  regime : FailsSafe (orchestrator.regimeReview.Fails orchestrator.config replies.regime)
    (orchestrator.reviewRegime replies.regime)
  signal : FailsSafe (orchestrator.signalCritic.Fails orchestrator.config replies.signal)
    (orchestrator.reviewSignal replies.signal)
  risk : FailsSafe (orchestrator.riskAuditor.Fails orchestrator.config replies.risk)
    (orchestrator.reviewRisk replies.risk)
  execution : FailsSafe (orchestrator.executionReview.Fails orchestrator.config replies.execution)
    (orchestrator.reviewExecution replies.execution)

/-- The compliance agent answers with an output which blocks: it is of high
severity, or the authority policy turns it into a block. -/
def ComplianceBlocks : Prop :=
  ∃ output, orchestrator.complianceSafety.Answers orchestrator.config replies.compliance output ∧
    ((AgentAuthorityPolicy.apply orchestrator.config output).block = true ∨
      output.severity = .high)

/-- The market context agent answers with an output of high severity. -/
def MarketContextBlocks : Prop :=
  ∃ output, orchestrator.marketContext.Answers orchestrator.config replies.marketContext output ∧
    output.severity = .high

end AgenticOrchestrator

/-- The record of a failed agent becomes a block. -/
theorem resultFromRecord_isBlocked {record : AgentDecisionRecord}
    (invalid : record.schemaValidationStatus ≠ .valid) : IsBlocked (resultFromRecord record) := by
  unfold resultFromRecord
  rw [if_pos invalid]
  exact ⟨rfl, rfl⟩

section PreMarket

variable {Output : Type} (agent : ReviewAgent Output) (config : AgenticConfig)

/-- The record of a failed agent blocks nothing before the market opens. -/
theorem recordBlocks_failureRecord (rawOutput : String) (status : AgentDecisionStatus)
    (error : String) : recordBlocks (agent.failureRecord rawOutput status error) = false := rfl

/-- The record of an answer blocks by its severity or by the authority policy. -/
theorem recordBlocks_validRecord (rawOutput : String) (output : Output) :
    recordBlocks (agent.validRecord config rawOutput output) = true ↔
      (AgentAuthorityPolicy.apply config (agent.base output)).block = true ∨
        (agent.base output).severity = .high := by
  unfold recordBlocks ReviewAgent.validRecord
  rw [decide_eq_true_iff]
  dsimp only
  split
  · next blocks => simp [blocks]
  · next passes => simp [passes]

/-- A review blocks before the market opens exactly by an answer which blocks. -/
theorem recordBlocks_review (reply : RawReview) :
    recordBlocks (agent.review config reply).2 = true ↔
      ∃ output, agent.Answers config reply output ∧
        ((AgentAuthorityPolicy.apply config (agent.base output)).block = true ∨
          (agent.base output).severity = .high) := by
  rcases ReviewAgent.fails_or_answers agent config reply with
    fails | ⟨output, answers⟩
  · obtain ⟨rawOutput, status, error, -, reviewed⟩ := ReviewAgent.review_of_fails fails
    rw [reviewed, recordBlocks_failureRecord]
    refine iff_of_false Bool.false_ne_true ?_
    rintro ⟨output, answers, -⟩
    exact answers.not_fails fails
  · obtain ⟨rawOutput, reviewed⟩ := ReviewAgent.review_of_answers answers
    rw [reviewed, recordBlocks_validRecord]
    constructor
    · intro blocks
      exact ⟨output, answers, blocks⟩
    · rintro ⟨other, again, blocks⟩
      rwa [answers.unique again]

/-- The output of a review is the agent's answer. -/
theorem review_eq_some (reply : RawReview) (output : Output) :
    (agent.review config reply).1 = some output ↔ agent.Answers config reply output := by
  rcases ReviewAgent.fails_or_answers agent config reply with
    fails | ⟨answer, answers⟩
  · obtain ⟨rawOutput, status, error, -, reviewed⟩ := ReviewAgent.review_of_fails fails
    rw [reviewed]
    exact iff_of_false (by rintro ⟨⟩) fun answers => answers.not_fails fails
  · obtain ⟨rawOutput, reviewed⟩ := ReviewAgent.review_of_answers answers
    rw [reviewed, Option.some.injEq]
    constructor
    · rintro rfl
      exact answers
    · exact answers.unique

end PreMarket

namespace AgenticOrchestrator

section Folds

variable (result : AgenticReviewResult)

theorem withCompliance_isBlocked (record : AgentDecisionRecord) :
    IsBlocked (withCompliance record result) ↔
      recordBlocks record = true ∨ IsBlocked result := by
  unfold withCompliance
  dsimp only
  split
  · next blocks => exact iff_of_true ⟨rfl, rfl⟩ (.inl blocks)
  · next passes => exact (or_iff_right passes).symm

theorem withMarketContext_isBlocked (review : Option AgentBaseOutput × AgentDecisionRecord) :
    IsBlocked (withMarketContext review result) ↔
      (∃ output, review.1 = some output ∧ output.severity = .high) ∨ IsBlocked result := by
  unfold withMarketContext
  dsimp only
  split
  · next output answered =>
    rw [answered]
    split
    · next high => exact iff_of_true ⟨rfl, rfl⟩ (.inl ⟨output, rfl, high⟩)
    · next harmless =>
      refine (or_iff_right ?_).symm
      rintro ⟨_, ⟨⟩, high⟩
      exact harmless high
  · next unanswered =>
    rw [unanswered]
    refine (or_iff_right ?_).symm
    rintro ⟨_, ⟨⟩, -⟩

theorem withDrift_isBlocked (review : Option DriftDetectionOutput × AgentDecisionRecord) :
    IsBlocked (withDrift review result) ↔ IsBlocked result := by
  unfold withDrift
  dsimp only
  split
  · split <;> exact Iff.rfl
  · exact Iff.rfl

end Folds

section Enabled

variable {orchestrator : AgenticOrchestrator} (enabled : orchestrator.config.enabled = true)
include enabled

/-- A review of one agent fails safe, whatever else it heeds. -/
theorem reviewBy_failsSafe {Output : Type} (agent : ReviewAgent Output)
    (heed : Output → AgenticReviewResult → AgenticReviewResult) (reply : RawReview) :
    FailsSafe (agent.Fails orchestrator.config reply)
      (orchestrator.reviewBy agent heed reply) := by
  intro fails
  obtain ⟨rawOutput, status, error, invalid, reviewed⟩ := ReviewAgent.review_of_fails fails
  simp only [reviewBy, enabled, reviewed]
  exact resultFromRecord_isBlocked invalid

/-- The pre-market review blocks exactly by an answer of one of two agents. -/
theorem preMarketReview_isBlocked (replies : ReviewReplies) :
    IsBlocked (orchestrator.preMarketReview replies.compliance replies.marketContext
        replies.drift) ↔
      orchestrator.ComplianceBlocks replies ∨ orchestrator.MarketContextBlocks replies := by
  have unblocked : ¬IsBlocked {} := fun blocked => Bool.false_ne_true blocked.1
  simp only [preMarketReview, enabled, Bool.not_true, Bool.false_eq_true, if_false,
    withDrift_isBlocked, withMarketContext_isBlocked, withCompliance_isBlocked,
    recordBlocks_review, review_eq_some, unblocked, or_false]
  exact or_comm

/-- All reviews fail safe exactly if the agents of the pre-market review do not
fail, or an answer of one of them blocks it anyway. -/
theorem allFailSafe_iff (replies : ReviewReplies) :
    orchestrator.AllFailSafe replies ↔
      ¬orchestrator.PreMarketAgentFails replies ∨
        orchestrator.ComplianceBlocks replies ∨ orchestrator.MarketContextBlocks replies := by
  rw [← preMarketReview_isBlocked enabled, ← imp_iff_not_or]
  constructor
  · intro safe
    exact safe.preMarket
  · intro preMarket
    exact
      { preMarket
        regime := reviewBy_failsSafe enabled _ _ _
        signal := reviewBy_failsSafe enabled _ _ _
        risk := reviewBy_failsSafe enabled _ _ _
        execution := reviewBy_failsSafe enabled _ _ _ }

end Enabled

/-- Default settings, and schemas which refuse every text, as they do one that is no JSON. -/
def ofInvalidJson : AgenticOrchestrator where
  config := {}
  complianceSchema _ := .error "Invalid JSON"
  marketContextSchema _ := .error "Invalid JSON"
  driftDetectionSchema _ := .error "Invalid JSON"
  regimeReviewSchema _ := .error "Invalid JSON"
  signalCriticSchema _ := .error "Invalid JSON"
  riskAuditorSchema _ := .error "Invalid JSON"
  executionReviewSchema _ := .error "Invalid JSON"

/-- Every agent returns a text which is no JSON. -/
def invalidJsonReplies : ReviewReplies :=
  let invalid := .returned "\x7bnot-json" 1
  ⟨invalid, invalid, invalid, invalid, invalid, invalid, invalid⟩

theorem allFailSafe_iff_invalidJson :
    ofInvalidJson.config.enabled = true ∧
      (ofInvalidJson.AllFailSafe invalidJsonReplies ↔
        ¬ofInvalidJson.PreMarketAgentFails invalidJsonReplies ∨
          ofInvalidJson.ComplianceBlocks invalidJsonReplies ∨
          ofInvalidJson.MarketContextBlocks invalidJsonReplies) :=
  ⟨rfl, allFailSafe_iff rfl invalidJsonReplies⟩

/-- In strict mode with the blocking fallback, three failed agents block nothing
before the market opens. -/
theorem not_allFailSafe_invalidJson :
    ofInvalidJson.config.enabled = true ∧ ofInvalidJson.config.strictMode = true ∧
      ofInvalidJson.config.fallbackPolicy = "FAIL_SAFE_BLOCK" ∧
      ¬ofInvalidJson.AllFailSafe invalidJsonReplies := by
  refine ⟨rfl, rfl, rfl, ?_⟩
  intro safe
  have failed : ofInvalidJson.PreMarketAgentFails invalidJsonReplies :=
    .inl (.inr ⟨"Invalid JSON", rfl⟩)
  have blocked : IsBlocked (ofInvalidJson.preMarketReview invalidJsonReplies.compliance
      invalidJsonReplies.marketContext invalidJsonReplies.drift) := safe.preMarket failed
  exact absurd blocked.1 (by decide)

end AgenticOrchestrator
end AlphaAgent.Agentic
