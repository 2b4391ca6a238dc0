import AlphaAgent.Agentic.OutputTexts
import AlphaAgent.Intraday.Budget
import AlphaAgent.Intraday.DeterministicReviews
import AlphaAgent.Intraday.OpenPositions

/-!
# What reviewed runs open

The caps of the deterministic agents do not depend on the configuration of the pipeline,
nor on the authority which the agents have: an agent which is late or raises blocks, and
what it answers blocks by its severity. So they hold of every position which a reviewed
run opens. Of what the risk manager approves, the risk auditor blocks exactly what is
above its cap or below its reward.
-/

namespace AlphaAgent.Agentic

namespace AgenticOrchestrator

variable {orchestrator : AgenticOrchestrator} {Output : Type} {agent : ReviewAgent Output}
  {heed : Output → AgenticReviewResult → AgenticReviewResult} {reply : RawReview}

/-- An enabled review which does not block has an answer, which is not of high severity. -/
theorem answers_of_unblocked (enabled : orchestrator.config.enabled = true)
    (heeds : ∀ output result, (heed output result).block = result.block)
    (unblocked : (orchestrator.reviewBy agent heed reply).block = false) :
    ∃ output, agent.Answers orchestrator.config reply output ∧
      (agent.base output).severity ≠ .high := by
  rcases ReviewAgent.fails_or_answers agent orchestrator.config reply with fails | ⟨output, answers⟩
  · have blocked := reviewBy_failsSafe enabled agent heed reply fails
    rw [blocked.1] at unblocked
    cases unblocked
  · refine ⟨output, answers, fun high => ?_⟩
    obtain ⟨rawOutput, reviewed⟩ := ReviewAgent.review_of_answers answers
    simp [reviewBy, enabled, reviewed, heeds, resultFromRecord, ReviewAgent.validRecord, high]
      at unblocked

/-- An answer of low severity which approves and allows does not block. -/
theorem unblocked_of_answers (heeds : ∀ output result, (heed output result).block = result.block)
    {output : Output} (answers : agent.Answers orchestrator.config reply output)
    (low : (agent.base output).severity = .low) (approves : (agent.base output).verdict = .approve)
    (allows : (agent.base output).recommendedAction = .allow) :
    (orchestrator.reviewBy agent heed reply).block = false := by
  obtain ⟨rawOutput, reviewed⟩ := ReviewAgent.review_of_answers answers
  have applied :
      (AgentAuthorityPolicy.apply orchestrator.config (agent.base output)).block = false := by
    have permitted : AgentAuthorityPolicy.validateRecommendation orchestrator.config
        AgentRecommendation.allow.value = none := by
      simp [AgentAuthorityPolicy.validateRecommendation, forbiddenRecommendations,
        AgentRecommendation.value]
    simp [AgentAuthorityPolicy.apply, allows, permitted, low, approves]
  unfold reviewBy
  split
  · rfl
  · simp [reviewed, heeds, resultFromRecord, ReviewAgent.validRecord, low, applied]

/-- What a review makes of what an agent found in time, where the schema reads back what the
agent dumps: the text is only recorded. -/
def heeded (orchestrator : AgenticOrchestrator) (agent : ReviewAgent Output)
    (heed : Output → AgenticReviewResult → AgenticReviewResult) (dump : Output → String) :
    Except RaisedError Output → AgenticReviewResult
  | .ok output =>
    heed output (resultFromRecord (agent.validRecord orchestrator.config (dump output) output))
  | .error raised => orchestrator.reviewBy agent heed (rawReview dump 0 (.error raised))

theorem reviewBy_rawReview {dump : Output → String} {elapsedMs : ℚ}
    {found : Except RaisedError Output} (enabled : orchestrator.config.enabled = true)
    (inTime : elapsedMs ≤ orchestrator.config.agentTimeoutMs)
    (reads : ∀ output, found = .ok output → agent.outputModel (dump output) = .ok output) :
    orchestrator.reviewBy agent heed (rawReview dump elapsedMs found) =
      orchestrator.heeded agent heed dump found := by
  cases found with
  | error raised => rfl
  | ok output =>
    simp only [heeded, reviewBy, rawReview, ReviewAgent.review, enabled, Bool.not_true,
      Bool.false_eq_true, if_false, if_neg inTime.not_gt, reads output rfl]

end AgenticOrchestrator

/-- What an agent whose schema reads back its texts answers is what it found. -/
theorem answers_rawReview {Output : Type} {agent : ReviewAgent Output} {config : AgenticConfig}
    {dump : Output → String} {elapsedMs : ℚ} {found : Except RaisedError Output}
    (reads : ∀ output, found = .ok output → agent.outputModel (dump output) = .ok output)
    {output : Output} : agent.Answers config (rawReview dump elapsedMs found) output ↔
      found = .ok output ∧ elapsedMs ≤ config.agentTimeoutMs := by
  constructor
  · rintro ⟨rawOutput, elapsed, replied, inTime, parsed⟩
    cases found with
    | error raised => cases replied
    | ok other =>
      cases replied
      rw [reads other rfl] at parsed
      cases parsed
      exact ⟨rfl, inTime⟩
  · rintro ⟨rfl, inTime⟩
    exact ⟨_, _, rfl, inTime, reads output rfl⟩

end AlphaAgent.Agentic

namespace AlphaAgent.Intraday

open Agentic Foundation Risk

section Critique

variable {critique : Critique} {condition : Prop} [Decidable condition] {reason : String}

@[simp] theorem note_high : (critique.note condition reason .high).severity = .high ↔
    critique.severity = .high ∨ condition := by
  unfold Critique.note
  split_ifs with holds
  · cases critique.severity <;> simp [holds, maxSeverity, AgentSeverity.rank]
  · simp [holds]

@[simp] theorem note_medium : (critique.note condition reason .medium).severity = .high ↔
    critique.severity = .high := by
  unfold Critique.note
  split_ifs with holds
  · cases critique.severity <;> simp [maxSeverity, AgentSeverity.rank]
  · rfl

/-- A signal which the critique does not reject. -/
structure Acceptable (signal : Signal) : Prop where
  reward : 3 / 2 ≤ signal.riskRewardRatio
  stop : 0 < signal.stopLoss ∧ signal.stopLoss ≠ signal.entryPrice
  long : signal.direction = .long → signal.regimeAtSignal.isBearish = false
  short : signal.direction = .short → signal.regimeAtSignal.isBullish = false

theorem acceptable_iff {signal : Signal} {tradesTakenToday : ℕ} :
    (SignalCriticAgent.critique signal tradesTakenToday).severity ≠ .high ↔ Acceptable signal := by
  simp only [SignalCriticAgent.critique, ne_eq, note_high, note_medium, not_or]
  constructor
  · rintro ⟨⟨⟨⟨-, reward⟩, stop⟩, long⟩, short⟩
    exact ⟨not_lt.mp reward, ⟨not_le.mp stop.1, stop.2⟩, by simpa using long, by simpa using short⟩
  · rintro ⟨reward, stop, long, short⟩
    exact ⟨⟨⟨⟨by decide, not_lt.mpr reward⟩, not_le.mpr stop.1, stop.2⟩, by simpa using long⟩,
      by simpa using short⟩

end Critique

section Audit

variable {config : IntradayShadowConfig} {signal : Signal} {approval : RiskApproval}
  {tradesTakenToday : ℕ}

/-- An approval in which the audit finds nothing. -/
structure WithinCaps (config : IntradayShadowConfig) (signal : Signal) (approval : RiskApproval)
    (tradesTakenToday : ℕ) : Prop where
  quantity : 0 < approval.quantity
  distance : 0 < |signal.entryPrice - signal.stopLoss|
  reward : 3 / 2 ≤ signal.riskRewardRatio
  trades : tradesTakenToday < config.maxTradesPerDay
  risk : approval.riskAmount ≤ config.capital * (5 / 1000)

theorem withinCaps_iff :
    RiskAuditorAgent.riskViolations config signal approval tradesTakenToday = [] ↔
      WithinCaps config signal approval tradesTakenToday := by
  simp only [RiskAuditorAgent.riskViolations, List.append_eq_nil_iff, rejectIf_eq_nil, not_le,
    not_lt]
  constructor
  · rintro ⟨⟨⟨⟨quantity, distance⟩, reward⟩, trades⟩, risk⟩
    exact ⟨quantity, distance, reward, trades, risk⟩
  · rintro ⟨quantity, distance, reward, trades, risk⟩
    exact ⟨⟨⟨⟨quantity, distance⟩, reward⟩, trades⟩, risk⟩

end Audit

/-- The audit answers with what it finds, in time. -/
theorem auditor_answers {reviewers : Reviewers} (reads : reviewers.RoundTrips) {elapsedMs : ℚ}
    {config : IntradayShadowConfig} {signal : Signal} {approval : RiskApproval}
    {tradesTakenToday : ℕ} {output : RiskAuditorOutput} :
    reviewers.orchestrator.riskAuditor.Answers reviewers.orchestrator.config
        (rawReview reviewers.dumpAudit elapsedMs
          (.ok (RiskAuditorAgent.deterministicReview config signal approval tradesTakenToday)))
        output ↔
      RiskAuditorAgent.deterministicReview config signal approval tradesTakenToday = output ∧
        elapsedMs ≤ reviewers.orchestrator.config.agentTimeoutMs := by
  rw [answers_rawReview]
  · exact and_congr_left' ⟨Except.ok.inj, congrArg _⟩
  · rintro _ ⟨⟩
    exact reads.audit config signal approval tradesTakenToday

section Reviews

variable {reviewers : Reviewers} {times : ReviewTimes} {settings : PipelineSettings}
  {call : SnapshotCall} {judgement : Judgement} {place : ℕ} {signal : Signal}
  (enabled : reviewers.orchestrator.config.enabled = true) (reads : reviewers.RoundTrips)
include enabled reads

theorem signalReview_eq_heeded
    (inTime : ∀ place, times.signal place ≤ reviewers.orchestrator.config.agentTimeoutMs) :
    signalReview reviewers times judgement place = fun signal =>
      reviewers.orchestrator.heeded reviewers.orchestrator.signalCritic
        (fun output result => { result with
          riskMultiplier := min result.riskMultiplier output.riskMultiplierSuggestion })
        reviewers.dumpCritique
        (SignalCriticAgent.deterministicReview signal judgement.state.tradesToday) := by
  funext signal
  unfold signalReview AgenticOrchestrator.reviewSignal
  exact AgenticOrchestrator.reviewBy_rawReview enabled (inTime place) (reads.critique _ _)

theorem riskReview_eq_heeded {approval : RiskApproval}
    (inTime : ∀ place, times.risk place ≤ reviewers.orchestrator.config.agentTimeoutMs) :
    riskReview reviewers times settings judgement place signal approval =
      reviewers.orchestrator.heeded reviewers.orchestrator.riskAuditor
        (fun output result => { result with
          warnings := result.warnings ++ output.riskViolations })
        reviewers.dumpAudit (.ok (RiskAuditorAgent.deterministicReview settings.config signal
          approval judgement.state.tradesToday)) := by
  unfold riskReview AgenticOrchestrator.reviewRisk
  refine AgenticOrchestrator.reviewBy_rawReview enabled (inTime place) ?_
  rintro _ ⟨⟩
  exact reads.audit settings.config signal approval judgement.state.tradesToday

theorem acceptable_of_unblocked
    (unblocked : (signalReview reviewers times judgement place signal).block = false) :
    Acceptable signal := by
  unfold signalReview AgenticOrchestrator.reviewSignal at unblocked
  obtain ⟨output, answers, severity⟩ :=
    AgenticOrchestrator.answers_of_unblocked enabled (by intros; rfl) unblocked
  obtain ⟨found, -⟩ := (answers_rawReview (reads.critique _ _)).mp answers
  unfold SignalCriticAgent.deterministicReview at found
  split_ifs at found
  cases found
  exact acceptable_iff.mp severity

/-- The risk review lets through exactly what is within the caps, in time. -/
theorem riskReview_unblocked {approval : RiskApproval} :
    (riskReview reviewers times settings judgement place signal approval).block = false ↔
      WithinCaps settings.config signal approval judgement.state.tradesToday ∧
        times.risk place ≤ reviewers.orchestrator.config.agentTimeoutMs := by
  unfold riskReview AgenticOrchestrator.reviewRisk
  constructor
  · intro unblocked
    obtain ⟨output, answers, severity⟩ :=
      AgenticOrchestrator.answers_of_unblocked enabled (by intros; rfl) unblocked
    obtain ⟨rfl, inTime⟩ := (auditor_answers reads).mp answers
    refine ⟨withinCaps_iff.mp ?_, inTime⟩
    by_contra violations
    exact severity (if_neg violations)
  · rintro ⟨within, inTime⟩
    have accepted := withinCaps_iff.mpr within
    exact AgenticOrchestrator.unblocked_of_answers (by intros; rfl)
      ((auditor_answers reads).mpr ⟨rfl, inTime⟩) (if_pos accepted) (if_pos accepted)
      (if_pos accepted)

end Reviews

section Opened

/-- A position which was opened for a signal, of an approved quantity. -/
structure OpenedFor (signal : Signal) (approval : RiskApproval) (position : VirtualPosition) :
    Prop where
  symbol : position.symbol = signal.symbol
  direction : position.direction = signal.direction
  regime : position.regimeAtEntry = signal.regimeAtSignal
  stopLoss : position.stopLoss = signal.stopLoss
  target : position.targetPrice = signal.targetPrice
  quantity : position.quantity = approval.quantity

variable {settings : PipelineSettings} {call : SnapshotCall} {judgement : Judgement} {place : ℕ}

theorem openedFor_of_fill {signal : Signal} {approval : RiskApproval} {now : DateTime}
    {order : ShadowOrder} {position : VirtualPosition} (approved : approval.approved = true)
    (positive : 0 < approval.quantity)
    (simulated : ShadowExecutionSimulator.simulate settings.config signal approval call.snapshot
      now = .ok order)
    (opened : VirtualPositionManager.openPosition signal order = some position) :
    OpenedFor signal approval position := by
  obtain ⟨-, -, quantity, -⟩ :=
    ShadowExecutionSimulator.simulate_order approved positive simulated
  unfold VirtualPositionManager.openPosition at opened
  split at opened
  · cases opened
  · split at opened
    · cases opened
    · rw [← Option.some.inj opened]
      exact ⟨rfl, rfl, rfl, rfl, rfl, quantity⟩

/-- The reviews which the trade of a strategy has passed. -/
theorem attempt_reviewed {strategy : IntradayStrategy} {position : VirtualPosition}
    (passes : attempt settings call judgement place strategy = .ok (some position)) :
    ∃ signal review, strategy call.snapshot judgement.regime = .ok (some signal) ∧
      call.reviews.reviewSignal place = .ok review ∧ review.block = false ∧
      ∃ scored approval riskReview, scored = applyConfidence settings.config
          (SignalScoringEngine.score settings.config signal) review.confidenceMultiplier ∧
        approval = RiskManager.approve settings.config scored judgement.quality judgement.state
          (some judgement.regime.regime) ∧
        approval.approved = true ∧ call.reviews.reviewRisk place = .ok riskReview ∧
        riskReview.block = false ∧ OpenedFor signal approval position := by
  obtain ⟨generated, generates, asked⟩ := Fallible.except_bind_ok passes
  cases generated with
  | none => cases asked
  | some signal =>
    obtain ⟨review, reviewed, scored⟩ := Fallible.except_bind_ok asked
    refine ⟨signal, review, generates, reviewed, ?_⟩
    dsimp only at scored
    split at scored
    · cases scored
    · next unblocked =>
      split at scored
      · cases scored
      · unfold attemptScored at scored
        dsimp only at scored
        split at scored
        · cases scored
        · next approved =>
          obtain ⟨riskReview, audited, executed⟩ := Fallible.except_bind_ok scored
          split at executed
          · cases executed
          · next passed =>
            obtain ⟨order, simulated, last⟩ := Fallible.except_bind_ok executed
            obtain ⟨execution, -, opened⟩ := Fallible.except_bind_ok last
            have isApproved := Bool.not_eq_false _ ▸ approved
            refine ⟨Bool.eq_false_iff.mpr unblocked, _, _, riskReview, rfl, rfl, isApproved,
              audited, Bool.eq_false_iff.mpr passed, ?_⟩
            rw [applyConfidence_signal] at simulated opened
            exact openedFor_of_fill isApproved (RiskManager.approve_quantity isApproved) simulated
              (Except.ok.inj opened)

/-- What a loop opens, the strategy in some place gets through. -/
theorem filledInTurn_at {first : ℕ} {strategies : List IntradayStrategy}
    {position : VirtualPosition}
    (member : position ∈ filledInTurn (attempts settings call judgement first strategies)) :
    ∃ place strategy, strategies[place]? = some strategy ∧
      attempt settings call judgement (first + place) strategy = .ok (some position) := by
  induction strategies generalizing first with
  | nil => cases member
  | cons strategy rest ih =>
    rw [attempts, List.zipIdx_cons, List.map_cons] at member
    cases attempted : attempt settings call judgement first strategy with
    | error raised =>
      rw [attempted] at member
      cases member
    | ok made =>
      rw [attempted, filledInTurn, List.mem_append, Option.mem_toList] at member
      rcases member with here | later
      · exact ⟨0, strategy, rfl, by rw [Nat.add_zero, attempted, Option.mem_def.mp here]⟩
      · obtain ⟨place, other, listed, passes⟩ := ih later
        refine ⟨place + 1, other, listed, ?_⟩
        rwa [← Nat.add_assoc, Nat.add_right_comm]

end Opened

section Runs

variable {reviewers : Reviewers} {settings : PipelineSettings}

/-- What passes in a reviewed call, the strategy in some place gets through what the
agents say. -/
theorem mem_passing_reviewed {times : ReviewTimes} {pipeline : IntradayShadowPipeline}
    {call : SnapshotCall} {position : VirtualPosition}
    (member :
      position ∈ passing settings pipeline (call.reviewed reviewers times settings pipeline)) :
    ∃ quality place strategy, settings.strategies[place]? = some strategy ∧
      attempt settings { call with
          reviews := reviewsOf reviewers times settings call
            (call.judgement settings pipeline quality) }
        (call.judgement settings pipeline quality) place strategy = .ok (some position) := by
  unfold SnapshotCall.reviewed passing at member
  cases checked : DataQualityMonitor.check settings.config call.snapshot (.utc call.checkedAt) with
  | error raised =>
    simp only [checked] at member
    cases member
  | ok quality =>
    simp only [checked] at member
    split at member
    · cases member
    · split at member
      · split at member
        · cases member
        · obtain ⟨place, strategy, listed, passes⟩ := filledInTurn_at member
          rw [Nat.zero_add] at passes
          exact ⟨quality, place, strategy, listed, passes⟩
      · cases member

/-- A position of a signal which a strategy made of a snapshot, within the caps which
the agents put on it: no configuration moves them. -/
structure CappedFor (settings : PipelineSettings) (call : SnapshotCall) (signal : Signal)
    (position : VirtualPosition) : Prop where
  generated : ∃ strategy ∈ settings.strategies, strategy call.snapshot
    (MarketRegimeClassifier.classify settings.config call.snapshot) = .ok (some signal)
  acceptable : Acceptable signal
  symbol : position.symbol = signal.symbol
  direction : position.direction = signal.direction
  regime : position.regimeAtEntry = signal.regimeAtSignal
  stopLoss : position.stopLoss = signal.stopLoss
  target : position.targetPrice = signal.targetPrice
  quantity : 0 < position.quantity
  risk : position.quantity * |signal.entryPrice - signal.stopLoss| ≤
    settings.config.capital * (5 / 1000)

/-- Positions which differ in their value or their end alone are capped alike. -/
theorem CappedFor.congr {call : SnapshotCall} {signal : Signal} {position other : VirtualPosition}
    (capped : CappedFor settings call signal position) (symbol : other.symbol = position.symbol)
    (direction : other.direction = position.direction)
    (regime : other.regimeAtEntry = position.regimeAtEntry)
    (stopLoss : other.stopLoss = position.stopLoss)
    (target : other.targetPrice = position.targetPrice)
    (quantity : other.quantity = position.quantity) : CappedFor settings call signal other where
  generated := capped.generated
  acceptable := capped.acceptable
  symbol := symbol.trans capped.symbol
  direction := direction.trans capped.direction
  regime := regime.trans capped.regime
  stopLoss := stopLoss.trans capped.stopLoss
  target := target.trans capped.target
  quantity := quantity ▸ capped.quantity
  risk := quantity ▸ capped.risk

section Enabled

variable (enabled : reviewers.orchestrator.config.enabled = true) (reads : reviewers.RoundTrips)
include enabled reads

/-- What passes in a reviewed call is capped, for the signal of a strategy. -/
theorem passing_capped {times : ReviewTimes} {pipeline : IntradayShadowPipeline}
    {call : SnapshotCall} {position : VirtualPosition}
    (member :
      position ∈ passing settings pipeline (call.reviewed reviewers times settings pipeline)) :
    ∃ signal, CappedFor settings call signal position := by
  obtain ⟨quality, place, strategy, listed, passes⟩ := mem_passing_reviewed member
  obtain ⟨signal, review, generates, reviewed, unblocked, scored, approval, audit, isScored,
    isApproval, approved, audited, passed, opened⟩ := attempt_reviewed passes
  have signalled : signalAt settings call (call.judgement settings pipeline quality) place =
      some signal := by
    have made : strategy call.snapshot (call.judgement settings pipeline quality).regime =
      .ok (some signal) := generates
    rw [signalAt, listed, Option.bind_some, made]
  simp only [AgenticReviews.reviewSignal, AgenticReviews.reviewRisk, AgenticReviews.whenEnabled,
    reviewsOf, enabled, if_true, signalled, Option.elim_some, Except.ok.injEq] at reviewed audited
  have sameApproval : reviewedApproval reviewers times settings
      (call.judgement settings pipeline quality) place signal = approval := by
    rw [isApproval, isScored, ← reviewed]
    rfl
  rw [sameApproval] at audited
  rw [← reviewed] at unblocked
  rw [← audited] at passed
  have acceptable := acceptable_of_unblocked enabled reads unblocked
  obtain ⟨within, -⟩ := (riskReview_unblocked enabled reads).mp passed
  have risked : approval.riskAmount =
      position.quantity * |signal.entryPrice - signal.stopLoss| := by
    rw [opened.quantity, isApproval, RiskManager.approve_sized (isApproval ▸ approved), isScored,
      applyConfidence_signal]
    rfl
  exact ⟨signal,
    { generated := ⟨strategy, List.mem_of_getElem? listed, generates⟩
      acceptable
      symbol := opened.symbol
      direction := opened.direction
      regime := opened.regime
      stopLoss := opened.stopLoss
      target := opened.target
      quantity := opened.quantity ▸ within.quantity
      risk := risked ▸ within.risk }⟩

end Enabled

/-- A call which the agents review when it processes a snapshot. -/
def PipelineCall.reviewed (reviewers : Reviewers) (settings : PipelineSettings)
    (pipeline : IntradayShadowPipeline) (times : ReviewTimes) : PipelineCall → PipelineCall
  | .process call => .process (call.reviewed reviewers times settings pipeline)
  | .updateMark place snapshot => .updateMark place snapshot
  | .close place exitPrice exitReason timestamp => .close place exitPrice exitReason timestamp

/-- The pipeline after a call, for which the agents take some time. -/
def IntradayShadowPipeline.reviewedCall (reviewers : Reviewers) (settings : PipelineSettings)
    (pipeline : IntradayShadowPipeline) (call : PipelineCall × ReviewTimes) :
    IntradayShadowPipeline :=
  pipeline.call settings (call.1.reviewed reviewers settings pipeline call.2)

/-- The position was opened for a signal of a call of a run, within the caps. -/
def CappedIn (settings : PipelineSettings) (calls : List (PipelineCall × ReviewTimes))
    (position : VirtualPosition) : Prop :=
  ∃ call times signal, (.process call, times) ∈ calls ∧ CappedFor settings call signal position

theorem CappedIn.append {calls : List (PipelineCall × ReviewTimes)} {position : VirtualPosition}
    (capped : CappedIn settings calls position) (last : PipelineCall × ReviewTimes) :
    CappedIn settings (calls ++ [last]) position := by
  obtain ⟨call, times, signal, member, within⟩ := capped
  exact ⟨call, times, signal, List.mem_append_left _ member, within⟩

/-- A change of one position leaves all capped when it keeps what the caps are about. -/
theorem cappedIn_modify {calls : List (PipelineCall × ReviewTimes)}
    {positions : List VirtualPosition} {place : ℕ} {change : VirtualPosition → VirtualPosition}
    (capped : ∀ position ∈ positions, CappedIn settings calls position)
    (keeps : ∀ position, CappedIn settings calls position →
      CappedIn settings calls (change position)) :
    ∀ position ∈ positions.modify place change, CappedIn settings calls position := by
  intro position member
  obtain ⟨other, same⟩ := List.mem_iff_getElem?.mp member
  rw [List.getElem?_modify] at same
  obtain ⟨before, found, changed⟩ := Option.map_eq_some_iff.mp same
  have held := capped before (List.mem_of_getElem? found)
  split at changed
  · exact changed ▸ keeps before held
  · exact changed ▸ held

/-- With the agents enabled, every position of a run was opened for a signal of a strategy
which they accept, of an amount at risk within their cap: whatever the configuration
of the pipeline, their authority and the time which they take. -/
theorem reviewedRuns (enabled : reviewers.orchestrator.config.enabled = true)
    (reads : reviewers.RoundTrips) (calls : List (PipelineCall × ReviewTimes)) :
    ∀ position ∈ (calls.foldl
        (IntradayShadowPipeline.reviewedCall reviewers settings) {}).positions,
      CappedIn settings calls position := by
  induction calls using List.reverseRecOn with
  | nil => exact List.forall_mem_nil _
  | append_singleton calls last ih =>
    have before := fun position member => (ih position member).append last
    rw [List.foldl_append, List.foldl_cons, List.foldl_nil]
    obtain ⟨call, times⟩ := last
    cases call with
    | process call =>
      rw [IntradayShadowPipeline.reviewedCall, PipelineCall.reviewed, call_process_positions]
      intro position member
      rcases List.mem_append.mp member with held | opened
      · exact before position held
      · obtain ⟨signal, capped⟩ := passing_capped enabled reads opened
        exact ⟨call, times, signal, List.mem_append_right _ List.mem_cons_self, capped⟩
    | updateMark place snapshot =>
      rw [IntradayShadowPipeline.reviewedCall, PipelineCall.reviewed, IntradayShadowPipeline.call,
        VirtualPositionManager.updateMark, withPositions_update]
      refine cappedIn_modify before ?_
      rintro position ⟨call, times, signal, member, capped⟩
      exact ⟨call, times, signal, member, capped.congr rfl rfl rfl rfl rfl rfl⟩
    | close place exitPrice exitReason timestamp =>
      rw [IntradayShadowPipeline.reviewedCall, PipelineCall.reviewed, IntradayShadowPipeline.call,
        VirtualPositionManager.closePosition, withPositions_update]
      refine cappedIn_modify before ?_
      rintro position ⟨call, times, signal, member, capped⟩
      exact ⟨call, times, signal, member, capped.congr rfl rfl rfl rfl rfl rfl⟩

/-- Agents whose outputs go through JSON texts, under the default settings. -/
def jsonReviewers : Reviewers where
  orchestrator := { AgenticOrchestrator.ofInvalidJson with
    signalCriticSchema := validateCritique hundredths
    riskAuditorSchema := validateAudit hundredths
    executionReviewSchema := validateExecution hundredths }
  dumpCritique := dumpCritique hundredths
  dumpAudit := dumpAudit hundredths
  dumpExecution := dumpExecution hundredths

/-- What the critic answers with. -/
theorem critic_numbers {signal : Signal} {tradesTakenToday : ℕ} {output : SignalCriticOutput}
    (found : SignalCriticAgent.deterministicReview signal tradesTakenToday = .ok output) :
    (output.confidence.val = 72 / 100 ∨ output.confidence.val = 82 / 100) ∧
      (output.riskMultiplierSuggestion.val = 0 ∨ output.riskMultiplierSuggestion.val = 1) := by
  unfold SignalCriticAgent.deterministicReview at found
  split_ifs at found
  cases found
  constructor
  · dsimp only
    split_ifs
    · exact .inl rfl
    · exact .inr rfl
  · dsimp only
    split_ifs
    · exact .inl rfl
    · exact .inr rfl

theorem jsonReviewers_roundTrips : jsonReviewers.RoundTrips := by
  constructor
  · intro signal tradesTakenToday output found
    obtain ⟨confidence, suggestion⟩ := critic_numbers found
    rw [show jsonReviewers.orchestrator.signalCriticSchema = validateCritique hundredths from rfl,
      show jsonReviewers.dumpCritique = dumpCritique hundredths from rfl]
    apply validateCritique_dumpCritique
    · rcases confidence with same | same <;> exact hundredths_exact _ (by simp [same])
    · rcases suggestion with same | same <;> exact hundredths_exact _ (by simp [same])
  · intro config signal approval tradesTakenToday
    dsimp only
    rw [show jsonReviewers.orchestrator.riskAuditorSchema = validateAudit hundredths from rfl,
      show jsonReviewers.dumpAudit = dumpAudit hundredths from rfl]
    exact validateAudit_dumpAudit
      (hundredths_exact _ (by simp [RiskAuditorAgent.deterministicReview]))

/-- A mark keeps the positions which a first call opens. -/
theorem length_positions_of_marked {call : SnapshotCall} {snapshot : MarketDataSnapshot}
    {place : ℕ} {times : ReviewTimes} :
    ([(.process call, times), (.updateMark place snapshot, times)].foldl
        (IntradayShadowPipeline.reviewedCall reviewers settings) {}).positions.length =
      (passing settings {} (call.reviewed reviewers times settings {})).length := by
  rw [List.foldl_cons, List.foldl_cons, List.foldl_nil, IntradayShadowPipeline.reviewedCall,
    PipelineCall.reviewed, IntradayShadowPipeline.call, VirtualPositionManager.updateMark,
    withPositions_update, List.length_modify, IntradayShadowPipeline.reviewedCall,
    PipelineCall.reviewed, call_process_positions]
  rfl

/-- Agents who take a hundred milliseconds each. -/
def promptTimes : ReviewTimes := ⟨fun _ => 100, fun _ => 100, fun _ => 100⟩

/-- A call which the agents review. -/
def criticizedCall : SnapshotCall :=
  { relianceCall with reviews := { relianceCall.reviews with enabled := true } }

/-- The agents let two trades pass. The texts which they dump are not evaluated. -/
theorem passing_criticizedCall : (passing defaultSettings {}
    (criticizedCall.reviewed jsonReviewers promptTimes defaultSettings {})).length = 2 := by
  have signals : ∀ place, promptTimes.signal place ≤
      jsonReviewers.orchestrator.config.agentTimeoutMs :=
    fun _ => show (100 : ℚ) ≤ _ by decide
  have risks : ∀ place, promptTimes.risk place ≤
      jsonReviewers.orchestrator.config.agentTimeoutMs :=
    fun _ => show (100 : ℚ) ≤ _ by decide
  simp only [SnapshotCall.reviewed, reviewsOf, reviewedApproval,
    signalReview_eq_heeded rfl jsonReviewers_roundTrips signals,
    riskReview_eq_heeded rfl jsonReviewers_roundTrips risks]
  decide +kernel

/-- The reviewed call and a mark after it. -/
def reviewedCalls : List (PipelineCall × ReviewTimes) :=
  [(.process criticizedCall, promptTimes), (.updateMark 0 relianceSnapshot, promptTimes)]

theorem reviewedRuns_reliance :
    (jsonReviewers.orchestrator.config.enabled = true ∧ jsonReviewers.RoundTrips) ∧
      (reviewedCalls.foldl
        (IntradayShadowPipeline.reviewedCall jsonReviewers defaultSettings) {}).positions.length =
          2 ∧
      ∀ position ∈ (reviewedCalls.foldl
          (IntradayShadowPipeline.reviewedCall jsonReviewers defaultSettings) {}).positions,
        CappedIn defaultSettings reviewedCalls position :=
  ⟨⟨rfl, jsonReviewers_roundTrips⟩, length_positions_of_marked.trans passing_criticizedCall,
    reviewedRuns rfl jsonReviewers_roundTrips reviewedCalls⟩

end Runs
end AlphaAgent.Intraday
