import AlphaAgent.Intraday.Effects

/-!
# Agents can only restrict

Two runs of one call, with and without the review agents, ask the same
strategies and the same risk manager. In each place the run with agents raises,
opens nothing, or makes the trade of the run without them. A run without agents
goes on after each strategy unless a strategy itself raises, or a signal which
the risk manager approves has no entry price to divide by.
-/

namespace AlphaAgent.Intraday

open Agentic Foundation

/-- What a position was opened as. -/
structure Trade where
  symbol : String
  direction : Direction
  quantity : ℤ
  stopLoss : ℚ
  targetPrice : ℚ
  simulatedFill : ℚ
deriving DecidableEq

def VirtualPosition.trade (position : VirtualPosition) : Trade where
  symbol := position.symbol
  direction := position.direction
  quantity := position.quantity
  stopLoss := position.stopLoss
  targetPrice := position.targetPrice
  simulatedFill := position.entryPrice

/-- The same call with the review disabled, whenever it reads the clock for an order. -/
def SnapshotCall.withoutReview (call : SnapshotCall) (orderedAt : ℕ → ℤ) : SnapshotCall :=
  { call with orderedAt, reviews := { call.reviews with enabled := false } }

section WithoutReview

variable (call : SnapshotCall) (orderedAt : ℕ → ℤ) (place : ℕ)

@[simp] theorem withoutReview_snapshot :
    (call.withoutReview orderedAt).snapshot = call.snapshot := rfl

@[simp] theorem withoutReview_orderedAt :
    (call.withoutReview orderedAt).orderedAt = orderedAt := rfl

@[simp] theorem withoutReview_reviewRegime :
    (call.withoutReview orderedAt).reviews.reviewRegime = .ok {} := rfl

@[simp] theorem withoutReview_reviewSignal :
    (call.withoutReview orderedAt).reviews.reviewSignal place = .ok {} := rfl

@[simp] theorem withoutReview_reviewRisk :
    (call.withoutReview orderedAt).reviews.reviewRisk place = .ok {} := rfl

@[simp] theorem withoutReview_reviewExecution :
    (call.withoutReview orderedAt).reviews.reviewExecution place = .ok {} := rfl

end WithoutReview

/-- One round raises, opens nothing, or makes the trade of the other round. -/
inductive Restricts : Except RaisedError (Option VirtualPosition) →
    Except RaisedError (Option VirtualPosition) → Prop where
  | stops (raised : RaisedError) (result : Except RaisedError (Option VirtualPosition)) :
    Restricts (.error raised) result
  | skips (position : Option VirtualPosition) : Restricts (.ok none) (.ok position)
  | takes (position other : VirtualPosition) (same : position.trade = other.trade) :
    Restricts (.ok (some position)) (.ok (some other))

section Scores

variable {config : IntradayShadowConfig}

/-- A multiplier up to one does not raise a score which is not negative. -/
theorem truncate_le {score : ℤ} (nonneg : 0 ≤ score) (multiplier : Proportion) :
    truncate (score * multiplier.val) ≤ score := by
  have positive : (0 : ℚ) ≤ score := by exact_mod_cast nonneg
  have bounded : score * multiplier.val ≤ (score : ℚ) :=
    mul_le_of_le_one_right positive multiplier.property.2
  rw [truncate, if_pos (mul_nonneg positive multiplier.property.1), Int.floor_le_iff]
  linarith

/-- A signal which is valid under a confidence multiplier is valid without it. -/
theorem applyConfidence_valid (watched : 1 ≤ config.watchScore) {signal : Signal}
    {multiplier : Proportion}
    (valid : (applyConfidence config (SignalScoringEngine.score config signal)
      multiplier).decision = .valid) :
    (SignalScoringEngine.score config signal).decision = .valid := by
  unfold applyConfidence at valid
  split at valid
  · have nonneg := SignalScoringEngine.score_nonneg watched signal
    have reduced := truncate_le nonneg multiplier
    have enough : config.minSignalScore ≤
        truncate ((SignalScoringEngine.score config signal).score * multiplier.val) := by
      by_contra short
      simp only [decisionOf, if_neg short] at valid
      split at valid <;> cases valid
    change decisionOf config (SignalScoringEngine.score config signal).score = .valid
    rw [decisionOf, if_pos (enough.trans reduced)]
  · exact valid

@[simp] theorem applyConfidence_one (scored : ScoredSignal) :
    applyConfidence config scored Proportion.one = scored := if_neg (lt_irrefl 1)

/-- The risk manager looks at the signal and the decision, not at the score. -/
theorem approve_congr {first second : ScoredSignal} (signal : first.signal = second.signal)
    (decision : first.decision = second.decision) (quality : DataQualityReport)
    (state : ShadowRiskState) (regime : Option MarketRegime) :
    RiskManager.approve config first quality state regime =
      RiskManager.approve config second quality state regime := by
  unfold RiskManager.approve rejectionReasons
  rw [signal, decision]

end Scores

section Fill

variable {config : IntradayShadowConfig} {signal : Signal} {approval : RiskApproval}
  {snapshot : MarketDataSnapshot}

/-- The clock only stamps a simulated order. -/
theorem simulate_now (now other : DateTime) :
    ShadowExecutionSimulator.simulate config signal approval snapshot other =
      (ShadowExecutionSimulator.simulate config signal approval snapshot now).map
        fun order => { order with timestamp := other } := by
  unfold ShadowExecutionSimulator.simulate
  dsimp only
  split_ifs <;> rfl

/-- The simulator raises only on an entry price of zero. -/
theorem simulate_ok (priced : approval.approved = true → signal.entryPrice ≠ 0)
    (now : DateTime) :
    ∃ order, ShadowExecutionSimulator.simulate config signal approval snapshot now = .ok order := by
  unfold ShadowExecutionSimulator.simulate
  dsimp only
  split_ifs with unapproved unpriced moved
  · exact ⟨_, rfl⟩
  · exact absurd unpriced (priced (by simpa using (not_or.mp unapproved).1))
  · exact ⟨_, rfl⟩
  · exact ⟨_, rfl⟩

/-- Orders which differ in their stamp alone open the same trade. -/
theorem openPosition_trade (order : ShadowOrder) (other : DateTime) :
    (VirtualPositionManager.openPosition signal { order with timestamp := other }).map
        VirtualPosition.trade =
      (VirtualPositionManager.openPosition signal order).map VirtualPosition.trade := by
  unfold VirtualPositionManager.openPosition
  dsimp only
  split
  · rfl
  · split <;> rfl

end Fill

section Attempts

variable (settings : PipelineSettings) (call : SnapshotCall) (judgement : Judgement)
  (orderedAt : ℕ → ℤ) (place : ℕ)

/-- Without agents an order which was simulated opens what it fills. -/
theorem attemptFill_withoutReview (signal : Signal) (approval : RiskApproval) :
    attemptFill settings (call.withoutReview orderedAt) place signal approval =
      (ShadowExecutionSimulator.simulate settings.config signal approval call.snapshot
        (.utc (orderedAt place))).map (VirtualPositionManager.openPosition signal) := by
  unfold attemptFill
  simp only [withoutReview_snapshot, withoutReview_orderedAt, withoutReview_reviewExecution]
  cases ShadowExecutionSimulator.simulate settings.config signal approval call.snapshot
    (.utc (orderedAt place)) with
  | error raised => rfl
  | ok order => rfl

theorem attemptFill_restricts (signal : Signal) (approval : RiskApproval) :
    Restricts (attemptFill settings call place signal approval)
      (attemptFill settings (call.withoutReview orderedAt) place signal approval) := by
  rw [attemptFill_withoutReview, simulate_now (.utc (call.orderedAt place)), attemptFill]
  cases ShadowExecutionSimulator.simulate settings.config signal approval call.snapshot
    (.utc (call.orderedAt place)) with
  | error raised => exact .stops raised _
  | ok order =>
    cases call.reviews.reviewExecution place with
    | error raised => exact .stops raised _
    | ok review =>
      have same : (VirtualPositionManager.openPosition signal
            { order with timestamp := .utc (orderedAt place) }).map VirtualPosition.trade =
          (VirtualPositionManager.openPosition signal order).map VirtualPosition.trade :=
        openPosition_trade order _
      change Restricts (.ok (VirtualPositionManager.openPosition signal order))
        (.ok (VirtualPositionManager.openPosition signal
          { order with timestamp := .utc (orderedAt place) }))
      cases opened : VirtualPositionManager.openPosition signal order with
      | none => exact .skips _
      | some position =>
        rw [opened] at same
        obtain ⟨other, reopened, trade⟩ := Option.map_eq_some_iff.mp same
        rw [reopened]
        exact .takes position other trade.symm

/-- The approval which a scored signal meets. -/
def approvalOf (scored : ScoredSignal) : RiskApproval :=
  RiskManager.approve settings.config scored judgement.quality judgement.state
    (some judgement.regime.regime)

theorem attemptScored_eq (scored : ScoredSignal) :
    attemptScored settings call judgement place scored =
      if (approvalOf settings judgement scored).approved = false then .ok none
      else
        call.reviews.reviewRisk place >>= fun riskReview =>
          if riskReview.block then .ok none
          else
            attemptFill settings call place scored.signal (approvalOf settings judgement scored) :=
  rfl

theorem attemptScored_withoutReview (scored : ScoredSignal) :
    attemptScored settings (call.withoutReview orderedAt) judgement place scored =
      if (approvalOf settings judgement scored).approved = false then .ok none
      else attemptFill settings (call.withoutReview orderedAt) place scored.signal
        (approvalOf settings judgement scored) := by
  rw [attemptScored_eq, withoutReview_reviewRisk]
  generalize attemptFill settings (call.withoutReview orderedAt) place scored.signal
    (approvalOf settings judgement scored) = executed
  rfl

/-- Without agents a scored signal raises nothing unless it has no entry price. -/
theorem attemptScored_withoutReview_ok {scored : ScoredSignal}
    (priced : (approvalOf settings judgement scored).approved = true →
      scored.signal.entryPrice ≠ 0) :
    ∃ position, attemptScored settings (call.withoutReview orderedAt) judgement place scored =
      .ok position := by
  rw [attemptScored_withoutReview]
  by_cases refused : (approvalOf settings judgement scored).approved = false
  · exact ⟨none, if_pos refused⟩
  · have simulates : ∃ order, ShadowExecutionSimulator.simulate settings.config scored.signal
        (approvalOf settings judgement scored) call.snapshot (.utc (orderedAt place)) = .ok order :=
      simulate_ok priced _
    obtain ⟨order, simulated⟩ := simulates
    refine ⟨VirtualPositionManager.openPosition scored.signal order, ?_⟩
    rw [if_neg refused, attemptFill_withoutReview, simulated]
    rfl

theorem attemptScored_restricts {scored other : ScoredSignal}
    (signal : scored.signal = other.signal) (decision : scored.decision = other.decision)
    (priced : (approvalOf settings judgement other).approved = true →
      other.signal.entryPrice ≠ 0) :
    Restricts (attemptScored settings call judgement place scored)
      (attemptScored settings (call.withoutReview orderedAt) judgement place other) := by
  obtain ⟨position, goesOn⟩ :=
    attemptScored_withoutReview_ok settings call judgement orderedAt place priced
  have approval : approvalOf settings judgement scored = approvalOf settings judgement other :=
    approve_congr signal decision judgement.quality judgement.state _
  rw [attemptScored_eq, approval, signal]
  by_cases refused : (approvalOf settings judgement other).approved = false
  · rw [if_pos refused, goesOn]
    exact .skips position
  · rw [if_neg refused]
    cases call.reviews.reviewRisk place with
    | error raised => exact .stops raised _
    | ok review =>
      change Restricts (if review.block = true then .ok none else _) _
      by_cases blocks : review.block = true
      · rw [if_pos blocks, goesOn]
        exact .skips position
      · rw [if_neg blocks, attemptScored_withoutReview, if_neg refused]
        exact attemptFill_restricts settings call orderedAt place other.signal _

/-- No signal which the risk manager approves has an entry price of zero. -/
def EntriesPriced (strategies : List IntradayStrategy) : Prop :=
  ∀ strategy ∈ strategies, ∀ signal, strategy call.snapshot judgement.regime = .ok (some signal) →
    (approvalOf settings judgement (SignalScoringEngine.score settings.config signal)).approved =
      true → signal.entryPrice ≠ 0

/-- Without agents only the score decides whether a signal meets the risk manager. -/
theorem attempt_withoutReview (strategy : IntradayStrategy) :
    attempt settings (call.withoutReview orderedAt) judgement place strategy =
      match strategy call.snapshot judgement.regime with
      | .error raised => .error raised
      | .ok none => .ok none
      | .ok (some signal) =>
        if (SignalScoringEngine.score settings.config signal).decision ≠ .valid then .ok none
        else attemptScored settings (call.withoutReview orderedAt) judgement place
          (SignalScoringEngine.score settings.config signal) := by
  unfold attempt
  simp only [withoutReview_snapshot, withoutReview_reviewSignal]
  cases strategy call.snapshot judgement.regime with
  | error raised => rfl
  | ok generated =>
    cases generated with
    | none => rfl
    | some signal =>
      change (if (applyConfidence settings.config _ Proportion.one).decision ≠ _ then _ else
        attemptScored _ _ _ _ (applyConfidence settings.config _ Proportion.one)) = _
      rw [applyConfidence_one]
      rfl

variable (watched : 1 ≤ settings.config.watchScore)
include watched

/-- In one place, the agents only restrict. -/
theorem attempt_restricts {strategies : List IntradayStrategy}
    (priced : EntriesPriced settings call judgement strategies)
    {strategy : IntradayStrategy} (member : strategy ∈ strategies) :
    Restricts (attempt settings call judgement place strategy)
      (attempt settings (call.withoutReview orderedAt) judgement place strategy) := by
  rw [attempt_withoutReview, attempt]
  cases generates : strategy call.snapshot judgement.regime with
  | error raised => exact .stops raised _
  | ok generated =>
    cases generated with
    | none => exact .skips none
    | some signal =>
      have entry := priced strategy member signal generates
      have goesOn : ∃ position,
          (if (SignalScoringEngine.score settings.config signal).decision ≠ .valid then .ok none
            else attemptScored settings (call.withoutReview orderedAt) judgement place
              (SignalScoringEngine.score settings.config signal)) = Except.ok position := by
        split
        · exact ⟨none, rfl⟩
        · exact attemptScored_withoutReview_ok settings call judgement orderedAt place entry
      obtain ⟨position, alone⟩ := goesOn
      dsimp only
      cases call.reviews.reviewSignal place with
      | error raised => exact .stops raised _
      | ok review =>
        change Restricts (if review.block = true then .ok none else
          if (applyConfidence settings.config _ review.confidenceMultiplier).decision ≠ .valid then
            .ok none
          else attemptScored settings call judgement place
            (applyConfidence settings.config _ review.confidenceMultiplier)) _
        by_cases blocks : review.block = true
        · rw [if_pos blocks, alone]
          exact .skips position
        · rw [if_neg blocks]
          by_cases valid : (applyConfidence settings.config
              (SignalScoringEngine.score settings.config signal)
              review.confidenceMultiplier).decision = .valid
          · have without := applyConfidence_valid watched valid
            rw [if_neg (not_not.mpr valid), if_neg (not_not.mpr without)]
            exact attemptScored_restricts settings call judgement orderedAt place
              (applyConfidence_signal _ _ _) (valid.trans without.symm) entry
          · rw [if_pos valid, alone]
            exact .skips position

/-- In turn, too: the trades of the run with agents are some of the others, in order. -/
theorem filledInTurn_restricts {strategies : List IntradayStrategy}
    (priced : EntriesPriced settings call judgement strategies) (first : ℕ) :
    ((filledInTurn (attempts settings call judgement first strategies)).map
        VirtualPosition.trade).Sublist
      ((filledInTurn (attempts settings (call.withoutReview orderedAt) judgement first
        strategies)).map VirtualPosition.trade) := by
  induction strategies generalizing first with
  | nil => exact List.Sublist.refl _
  | cons strategy rest ih =>
    have here := attempt_restricts settings call judgement orderedAt first watched priced
      List.mem_cons_self
    have later := ih (fun other member => priced other (List.mem_cons_of_mem _ member)) (first + 1)
    rw [attempts, attempts, List.zipIdx_cons, List.map_cons, List.map_cons]
    cases attempted : attempt settings call judgement first strategy with
    | error raised => exact List.nil_sublist _
    | ok position =>
      cases alone : attempt settings (call.withoutReview orderedAt) judgement first strategy with
      | error raised =>
        rw [attempted, alone] at here
        cases here
      | ok other =>
        rw [attempted, alone] at here
        change (List.map _ (position.toList ++ _)).Sublist (List.map _ (other.toList ++ _))
        rw [List.map_append, List.map_append]
        cases here with
        | skips => exact later.trans (List.sublist_append_right _ _)
        | takes opened also same =>
          rw [Option.toList_some, Option.toList_some, List.map_singleton, List.map_singleton, same]
          exact later.cons_cons _

end Attempts

/-- Among the signals of a call, none which the risk manager approves has an
entry price of zero. -/
def PricedCall (settings : PipelineSettings) (pipeline : IntradayShadowPipeline)
    (call : SnapshotCall) : Prop :=
  ∀ quality, DataQualityMonitor.check settings.config call.snapshot (.utc call.checkedAt) =
      .ok quality →
    EntriesPriced settings call (call.judgement settings pipeline quality) settings.strategies

/-- What a call opens under review is a part of what it opens without. -/
theorem newPositions_restricted (settings : PipelineSettings) (pipeline : IntradayShadowPipeline)
    (call : SnapshotCall) (orderedAt : ℕ → ℤ) (watched : 1 ≤ settings.config.watchScore)
    (priced : PricedCall settings pipeline call) :
    ((newPositions settings pipeline call).map VirtualPosition.trade).Subperm
      ((newPositions settings pipeline (call.withoutReview orderedAt)).map
        VirtualPosition.trade) := by
  apply List.Sublist.subperm
  rw [newPositions_eq, newPositions_eq, passing, passing, withoutReview_snapshot,
    withoutReview_reviewRegime]
  have sameClock : (call.withoutReview orderedAt).checkedAt = call.checkedAt := rfl
  rw [sameClock]
  cases checked : DataQualityMonitor.check settings.config call.snapshot (.utc call.checkedAt) with
  | error raised => exact List.nil_sublist _
  | ok quality =>
    change List.Sublist (List.map _ (if call.turnedAway settings pipeline quality then _ else _))
      (List.map _ (if call.turnedAway settings pipeline quality then _ else _))
    by_cases away : call.turnedAway settings pipeline quality
    · rw [if_pos away]
      exact List.nil_sublist _
    · rw [if_neg away, if_neg away]
      cases call.reviews.reviewRegime with
      | error raised => exact List.nil_sublist _
      | ok review =>
        dsimp only
        split
        · exact List.nil_sublist _
        · exact filledInTurn_restricts settings call _ orderedAt watched (priced quality checked) 0

/-- A signal of a breakout in the strong regime of the sample snapshot. -/
def breakoutSignal (entryPrice stopLoss targetPrice : ℚ) : Signal where
  symbol := "RELIANCE"
  market := .india
  direction := .long
  strategyName := "BREAKOUT"
  regimeAtSignal := .strongBullish
  entryPrice
  stopLoss
  targetPrice
  riskRewardRatio := 2
  confidenceScore := 7 / 10
  reasonCodes := ["opening_range_breakout", "price_above_vwap", "volume_confirmation"]
  timestamp := relianceSnapshot.timestamp
  candleSnapshot := none
  marketSnapshot := {}

/-- The default configuration with strategies which give these signals. -/
def signalling (signals : List Signal) : PipelineSettings where
  text := .plain
  config := {}
  strategies := signals.map fun signal _ _ => .ok (some signal)

/-- Agents which block the signal in the first place and no other. -/
def AgenticReviews.blockingFirst : AgenticReviews where
  enabled := true
  regime := .ok {}
  signal place := .ok (if place = 0 then { allowed := false, block := true } else {})
  risk _ := .ok {}
  execution _ := .ok {}

def blockedCall : SnapshotCall := { relianceCall with reviews := .blockingFirst }

theorem newPositions_restricted_blockingFirst :
    ((newPositions (signalling [breakoutSignal 104 103 106, breakoutSignal 104 102 108]) {}
        blockedCall).map VirtualPosition.trade).Subperm
      ((newPositions (signalling [breakoutSignal 104 103 106, breakoutSignal 104 102 108]) {}
        (blockedCall.withoutReview relianceCall.orderedAt)).map VirtualPosition.trade) := by
  refine newPositions_restricted _ _ _ _ (by decide) ?_
  rintro quality - strategy member signal generates -
  simp only [signalling, List.map_cons, List.map_nil, List.mem_cons, List.not_mem_nil,
    or_false] at member
  rcases member with rfl | rfl <;> cases generates <;> decide

/-- Where the first of two signals has no entry price, the run without review
ends there, and agents which block that signal let the second one through. -/
theorem newPositions_unpriced :
    1 ≤ (signalling []).config.watchScore ∧
      (signalling []).config.watchScore ≤ (signalling []).config.minSignalScore ∧
      ¬((newPositions (signalling [breakoutSignal 0 1 2, breakoutSignal 104 102 108]) {}
          blockedCall).map VirtualPosition.trade).Subperm
        ((newPositions (signalling [breakoutSignal 0 1 2, breakoutSignal 104 102 108]) {}
          (blockedCall.withoutReview relianceCall.orderedAt)).map VirtualPosition.trade) := by
  refine ⟨by decide, by decide, ?_⟩
  intro restricted
  exact absurd restricted.length_le (by decide +kernel)

end AlphaAgent.Intraday
