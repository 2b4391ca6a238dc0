import AlphaAgent.Risk.LargestOrder

/-!
# What an approved quantity costs and risks

All amounts are in INR: `entryPriceInr` and `stopLossInr` are the candidate's
prices at the INR rate of its market. An approved quantity is at least one and
stays below the floor of every budget at once, so each budget bounds it exactly;
the exposure and long-only checks add the bounds of a BUY and of a SELL.
-/

namespace AlphaAgent.Risk

/-- The INR rate of a candidate's prices: one in India, the FX rate in the US. -/
def IsInrRate (input : EvaluateInput) (fxRate : ℚ) : Prop :=
  (input.candidate.market = .india → fxRate = 1) ∧
    (input.candidate.market = .us → ∃ status rate, input.fxStatus = some status ∧
      status.rate = some rate ∧ rate.val = fxRate)

/-- The bounds on an approved order, at an entry price and a stop in INR. -/
structure SizingBounds (input : EvaluateInput) (config : RiskConfig) (decision : RiskDecision)
    (entryPriceInr stopLossInr : ℚ) : Prop where
  quantity : 1 ≤ decision.approvedQuantity
  riskBudget : decision.approvedQuantity * |entryPriceInr - stopLossInr| ≤
    input.portfolio.totalValueInr * config.maxRiskPerTradePct
  capital : decision.approvedCapital.val = decision.approvedQuantity * entryPriceInr
  positionCap : decision.approvedCapital.val ≤
    input.portfolio.totalValueInr * maxPositionPct input.candidate config
  marketRoom : decision.approvedCapital.val ≤
    marketExposureCap input.candidate.market input.portfolio config -
      marketExposureInr input.candidate.market input.portfolio
  risk : decision.approvedRisk.val =
    decision.approvedQuantity * |entryPriceInr - stopLossInr|
  cash : input.candidate.action = .buy → decision.approvedCapital.val ≤ input.portfolio.cashInr
  equityExposure : input.candidate.action = .buy →
    input.portfolio.equityExposureInr + decision.approvedCapital.val ≤
      input.portfolio.totalValueInr * config.maxTotalEquityExposurePct
  marketExposure : input.candidate.action = .buy →
    marketExposureInr input.candidate.market input.portfolio + decision.approvedCapital.val ≤
      marketExposureCap input.candidate.market input.portfolio config
  held : input.candidate.action = .sell → ∃ position ∈ input.portfolio.positions,
    position.market = input.candidate.market ∧ position.symbol = input.candidate.symbol ∧
      decision.approvedQuantity ≤ position.quantity

section Approved

variable {settings : Settings} {utcNow : ℤ} {input : EvaluateInput} {stopLoss fxRate : Positive}
  {sizing : Sizing}

theorem Approval.isInrRate (approval : Approval settings utcNow input stopLoss fxRate sizing) :
    IsInrRate input fxRate := by
  have rate := approval.rate
  unfold fxRateUsed at rate
  constructor
  · intro india
    simp only [india, Except.ok.injEq] at rate
    rw [← rate]
  · intro us
    obtain ⟨status, found, present, priced, -⟩ := approval.rulebook.fx us
    simp only [us, present, priced, Except.ok.injEq] at rate
    exact ⟨status, found, present, priced, congrArg Subtype.val rate⟩

theorem Approval.quantity_pos (approval : Approval settings utcNow input stopLoss fxRate sizing) :
    1 ≤ sizing.approvedQuantity := by
  obtain ⟨stop, sets, differs⟩ := approval.rulebook.stopLoss
  have noStopReason : stopLossRejectionReason input.candidate = none := by
    simp [stopLossRejectionReason, sets, differs]
  have accepted := approval.quantity
  simp only [quantityReasons, List.append_eq_nil_iff, rejectIf_eq_nil, noStopReason,
    and_true] at accepted
  omega

/-- The approved quantity is below every budget at once. -/
theorem Approval.sizingBounds (id : String)
    (approval : Approval settings utcNow input stopLoss fxRate sizing) :
    SizingBounds input (input.config settings) (approvedDecision settings id input sizing)
      (input.candidate.entryPrice * fxRate) (stopLoss * fxRate) := by
  have differs := approval.onlySizing.differs
  have one := approval.quantity_pos
  have reasons := approval.sizingReasons
  rw [approval.sized] at one reasons ⊢
  obtain ⟨order, room⟩ := (le_sized_iff differs one).mp le_rfl
  have equity := (sizeOrder_reasons_eq_nil differs one).mp reasons
  exact {
    quantity := one
    riskBudget := order.risk
    capital := rfl
    positionCap := order.position
    marketRoom := le_sub_iff_add_le'.mpr room
    risk := rfl
    cash := order.cash
    equityExposure := fun buys => by
      rw [FitsEquity, if_pos buys] at equity
      exact equity
    marketExposure := fun _ => room
    held := fun sells => by
      have below := order.held sells
      obtain ⟨position, member, serves, symbol, held⟩ :=
        existingLongQuantity_held (lt_of_lt_of_le one below)
      exact ⟨position, member, serves, symbol, held ▸ below⟩ }

end Approved

/-- Every approval is sized within every limit, at the INR rate of its market. -/
theorem evaluate_sizing {settings : Settings} {utcNow : ℤ} {id : String} {input : EvaluateInput}
    {decision : RiskDecision} (returned : evaluate settings utcNow id input = .ok decision)
    (approved : decision.decision = .approved) :
    ∃ (stopLoss : Positive) (fxRate : ℚ), input.candidate.stopLoss = some stopLoss ∧
      IsInrRate input fxRate ∧
      SizingBounds input (input.config settings) decision
        (input.candidate.entryPrice * fxRate) (stopLoss * fxRate) := by
  obtain ⟨stopLoss, fxRate, sizing, approval, rfl⟩ := exists_approval returned approved
  exact ⟨stopLoss, fxRate, approval.stop, approval.isInrRate, approval.sizingBounds id⟩

theorem evaluate_sizing_relianceBuy :
    relianceDecision.approvedQuantity = 500 ∧ ∃ (stopLoss : Positive) (fxRate : ℚ),
      relianceBuy.candidate.stopLoss = some stopLoss ∧ IsInrRate relianceBuy fxRate ∧
        SizingBounds relianceBuy (relianceBuy.config liveSettings) relianceDecision
          (relianceBuy.candidate.entryPrice * fxRate) (stopLoss * fxRate) :=
  ⟨relianceDecision_approvedQuantity, evaluate_sizing evaluate_relianceBuy rfl⟩

end AlphaAgent.Risk
