import AlphaAgent.Risk.SizingBounds

/-!
# The levels of an approved BUY

The engine measures the risk of an order as the distance between its entry and
its stop, whichever side the stop is on, and compares the ratio of reward to
risk which the candidate supplies. The take profit is never read. An approved
BUY has coherent levels when its strategy supplied them coherently.
-/

namespace AlphaAgent.Risk

/-- The reward of a target over the risk of a stop below the entry. -/
def levelRatio (entryPrice stopLoss takeProfit : ℚ) : ℚ :=
  (takeProfit - entryPrice) / (entryPrice - stopLoss)

/-- A stop below the entry and, with a target, a target above it which is worth
the risk. -/
def CoherentLevels (candidate : TradeCandidate) (minimumRatio : ℚ) : Prop :=
  ∃ stopLoss, candidate.stopLoss = some stopLoss ∧ stopLoss.val < candidate.entryPrice.val ∧
    ∀ takeProfit, candidate.takeProfit = some takeProfit →
      candidate.entryPrice.val < takeProfit.val ∧
        minimumRatio ≤ levelRatio candidate.entryPrice stopLoss takeProfit

/-- The same input with another take profit. -/
def EvaluateInput.withTakeProfit (input : EvaluateInput) (takeProfit : Option Positive) :
    EvaluateInput :=
  { input with candidate := { input.candidate with takeProfit } }

/-- The take profit has no part in the evaluation. -/
theorem evaluate_withTakeProfit (settings : Settings) (utcNow : ℤ) (id : String)
    (input : EvaluateInput) (takeProfit : Option Positive) :
    evaluate settings utcNow id (input.withTakeProfit takeProfit) =
      evaluate settings utcNow id input := rfl

/-- Levels which keep the ratio supplied with them keep every smaller one. -/
theorem CoherentLevels.of_le {candidate : TradeCandidate} {minimumRatio ratio : ℚ}
    (coherent : CoherentLevels candidate ratio) (below : minimumRatio ≤ ratio) :
    CoherentLevels candidate minimumRatio := by
  obtain ⟨stopLoss, stop, under, targets⟩ := coherent
  refine ⟨stopLoss, stop, under, fun takeProfit target => ?_⟩
  obtain ⟨above, worth⟩ := targets takeProfit target
  exact ⟨above, below.trans worth⟩

/-- What an approval says about the levels of its candidate. -/
structure ApprovedLevels (input : EvaluateInput) (config : RiskConfig) (decision : RiskDecision)
    (stopLoss : Positive) (fxRate : ℚ) : Prop where
  stop : input.candidate.stopLoss = some stopLoss
  differs : stopLoss ≠ input.candidate.entryPrice
  rate : IsInrRate input fxRate
  risk : decision.approvedRisk.val = decision.approvedQuantity *
    |input.candidate.entryPrice.val * fxRate - stopLoss.val * fxRate|
  budget : decision.approvedRisk.val ≤ input.portfolio.totalValueInr * config.maxRiskPerTradePct
  ratio : config.minRewardRiskRatio.val ≤ input.candidate.rewardRiskRatio.val
  loss : stopLoss.val < input.candidate.entryPrice.val → decision.approvedRisk.val =
    decision.approvedQuantity * ((input.candidate.entryPrice.val - stopLoss.val) * fxRate)
  coherent : CoherentLevels input.candidate input.candidate.rewardRiskRatio →
    CoherentLevels input.candidate config.minRewardRiskRatio

/-- Every approval has a stop away from its entry, risks what lies between them
and was offered a ratio of at least the minimum, whatever its take profit. Below
the entry this is the loss at the stop, and levels which keep the ratio supplied
with them keep the minimum. -/
theorem evaluate_levels {settings : Settings} {utcNow : ℤ} {id : String} {input : EvaluateInput}
    {decision : RiskDecision} (returned : evaluate settings utcNow id input = .ok decision)
    (approved : decision.decision = .approved) :
    (∃ stopLoss fxRate, ApprovedLevels input (input.config settings) decision stopLoss fxRate) ∧
      ∀ takeProfit, evaluate settings utcNow id (input.withTakeProfit takeProfit) =
        .ok decision := by
  refine ⟨?_, fun takeProfit => (evaluate_withTakeProfit ..).trans returned⟩
  obtain ⟨stopLoss, fxRate, sizing, approval, rfl⟩ := exists_approval returned approved
  have bounds := approval.sizingBounds id
  have ratio := approval.rulebook.rewardRisk
  have loss : stopLoss.val < input.candidate.entryPrice.val →
      (approvedDecision settings id input sizing).approvedRisk.val =
        (approvedDecision settings id input sizing).approvedQuantity *
          ((input.candidate.entryPrice.val - stopLoss.val) * fxRate) := by
    intro below
    have apart : 0 ≤ (input.candidate.entryPrice.val - stopLoss.val) * fxRate.val :=
      mul_nonneg (sub_nonneg.mpr below.le) fxRate.2.le
    rw [bounds.risk, ← sub_mul, abs_of_nonneg apart]
  exact ⟨stopLoss, fxRate, {
    stop := approval.stop
    differs := approval.onlySizing.differs
    rate := approval.isInrRate
    risk := bounds.risk
    budget := bounds.risk ▸ bounds.riskBudget
    ratio
    loss
    coherent := fun supplied => supplied.of_le ratio }⟩

theorem evaluate_levels_relianceBuy :
    evaluate liveSettings 0 "risk-1" (relianceBuy.withTakeProfit none) = .ok relianceDecision ∧
      ∃ stopLoss fxRate, ApprovedLevels relianceBuy (relianceBuy.config liveSettings)
        relianceDecision stopLoss fxRate :=
  ⟨(evaluate_levels evaluate_relianceBuy rfl).2 none, (evaluate_levels evaluate_relianceBuy rfl).1⟩

/-- `relianceBuy` with its stop above the entry and its target below it. -/
def invertedBuy : EvaluateInput :=
  { relianceBuy with
    candidate :=
      { relianceBuy.candidate with
        stopLoss := some ⟨110, by norm_num⟩
        takeProfit := some ⟨50, by norm_num⟩ } }

/-- The inverted BUY is approved. -/
theorem invertedBuy_approved :
    Approves liveSettings 0 "risk-1" invertedBuy 500 ∧
      invertedBuy.candidate.action = .buy ∧
      ¬CoherentLevels invertedBuy.candidate
        (invertedBuy.config liveSettings).minRewardRiskRatio := by
  have onlySizing : OnlySizing liveSettings 0 invertedBuy ⟨110, by norm_num⟩ ⟨1, by norm_num⟩ :=
    ⟨.inl rfl, rfl, rfl, rfl, by decide +kernel⟩
  refine ⟨⟨_, onlySizing.evaluate_eq, by decide +kernel, by decide +kernel⟩, rfl, ?_⟩
  rintro ⟨stopLoss, stop, below, -⟩
  obtain rfl := Option.some.inj stop
  exact absurd below (by decide +kernel)

end AlphaAgent.Risk
