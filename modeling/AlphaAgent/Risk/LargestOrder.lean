import AlphaAgent.Foundation.Quota
import AlphaAgent.Risk.FailClosed
import AlphaAgent.Risk.Rulebook

/-!
# Which quantity an evaluation approves

Risk, position size, cash, holding and
market exposure shrink an order; the equity exposure is only looked at
afterwards. `OnlySizing.approves_iff` puts both together: what is approved is
the largest quantity which fits the shrinking caps, when the equity cap takes it.
-/

namespace AlphaAgent.Risk

open Foundation

section Caps

variable (candidate : TradeCandidate) (portfolio : PortfolioSnapshot) (config : RiskConfig)
  (fxRate stopLoss : Positive)

/-- The caps which shrink an order and which no exposure enters. A SELL needs no
cash and stays within what is held. -/
structure FitsOrder (quantity : ℕ) : Prop where
  risk : quantity * |candidate.entryPrice.val * fxRate - stopLoss.val * fxRate| ≤
    portfolio.totalValueInr * config.maxRiskPerTradePct
  position : quantity * (candidate.entryPrice.val * fxRate) ≤
    portfolio.totalValueInr * maxPositionPct candidate config
  cash : candidate.action = .buy →
    quantity * (candidate.entryPrice.val * fxRate) ≤ portfolio.cashInr
  held : candidate.action = .sell → quantity ≤ existingLongQuantity candidate portfolio.positions

/-- The market's exposure, with the order on top, stays within its cap. -/
def FitsMarket (quantity : ℕ) : Prop :=
  marketExposureInr candidate.market portfolio +
      quantity * (candidate.entryPrice.val * fxRate) ≤
    marketExposureCap candidate.market portfolio config

/-- Every cap which shrinks an order. -/
def FitsSizing (quantity : ℕ) : Prop :=
  FitsOrder candidate portfolio config fxRate stopLoss quantity ∧
    FitsMarket candidate portfolio config fxRate quantity

/-- The equity exposure, with a BUY on top, stays within its cap. -/
def FitsEquity (quantity : ℕ) : Prop :=
  portfolio.equityExposureInr +
      (if candidate.action = .buy then quantity * (candidate.entryPrice.val * fxRate) else 0) ≤
    portfolio.totalValueInr * config.maxTotalEquityExposurePct

instance (quantity : ℕ) :
    Decidable (FitsOrder candidate portfolio config fxRate stopLoss quantity) :=
  decidable_of_iff
    (quantity * |candidate.entryPrice.val * fxRate - stopLoss.val * fxRate| ≤
        portfolio.totalValueInr * config.maxRiskPerTradePct ∧
      quantity * (candidate.entryPrice.val * fxRate) ≤
        portfolio.totalValueInr * maxPositionPct candidate config ∧
      (candidate.action = .buy →
        quantity * (candidate.entryPrice.val * fxRate) ≤ portfolio.cashInr) ∧
      (candidate.action = .sell →
        quantity ≤ existingLongQuantity candidate portfolio.positions))
    ⟨fun ⟨risk, position, cash, held⟩ => ⟨risk, position, cash, held⟩,
      fun fits => ⟨fits.risk, fits.position, fits.cash, fits.held⟩⟩

instance (quantity : ℕ) : Decidable (FitsMarket candidate portfolio config fxRate quantity) :=
  inferInstanceAs (Decidable (_ ≤ _))

instance (quantity : ℕ) :
    Decidable (FitsSizing candidate portfolio config fxRate stopLoss quantity) :=
  inferInstanceAs (Decidable (_ ∧ _))

instance (quantity : ℕ) : Decidable (FitsEquity candidate portfolio config fxRate quantity) :=
  inferInstanceAs (Decidable (_ ≤ _))

variable {candidate portfolio config fxRate stopLoss} {quantity : ℕ}

theorem entryPriceInr_pos (candidate : TradeCandidate) (fxRate : Positive) :
    0 < candidate.entryPrice.val * fxRate.val :=
  mul_pos candidate.entryPrice.2 fxRate.2

theorem FitsOrder.of_le {fewer : ℕ} (below : fewer ≤ quantity)
    (fits : FitsOrder candidate portfolio config fxRate stopLoss quantity) :
    FitsOrder candidate portfolio config fxRate stopLoss fewer where
  risk := mul_le_of_le (abs_nonneg _) below fits.risk
  position := mul_le_of_le (entryPriceInr_pos candidate fxRate).le below fits.position
  cash := fun buys => mul_le_of_le (entryPriceInr_pos candidate fxRate).le below (fits.cash buys)
  held := fun sells => below.trans (fits.held sells)

theorem FitsMarket.of_le {fewer : ℕ} (below : fewer ≤ quantity)
    (fits : FitsMarket candidate portfolio config fxRate quantity) :
    FitsMarket candidate portfolio config fxRate fewer := by
  have room := mul_le_of_le (entryPriceInr_pos candidate fxRate).le below
    (le_sub_iff_add_le'.mpr fits)
  exact le_sub_iff_add_le'.mp room

theorem FitsEquity.of_le {fewer : ℕ} (below : fewer ≤ quantity)
    (fits : FitsEquity candidate portfolio config fxRate quantity) :
    FitsEquity candidate portfolio config fxRate fewer := by
  unfold FitsEquity at fits ⊢
  split at fits
  · next buys =>
    have room := mul_le_of_le (entryPriceInr_pos candidate fxRate).le below
      (le_sub_iff_add_le'.mpr fits)
    simpa only [buys, if_true] using le_sub_iff_add_le'.mp room
  · next other => simpa only [other, if_false] using fits

/-- Nothing against the exposures: with the order on top, both are within their caps. -/
theorem exposureReasons_eq_nil {market : Market} {orderValueInr : ℚ} :
    exposureReasons market portfolio config orderValueInr = [] ↔
      portfolio.equityExposureInr + orderValueInr ≤
          portfolio.totalValueInr * config.maxTotalEquityExposurePct ∧
        marketExposureInr market portfolio + orderValueInr ≤
          marketExposureCap market portfolio config := by
  simp only [exposureReasons, List.append_eq_nil_iff, rejectIf_eq_nil, and_true, not_lt, gt_iff_lt]
  cases market <;> simp [marketExposureInr, marketExposureCap]

/-- A sized quantity bounds exactly the quantities which fit the shrinking caps. -/
theorem le_sized_iff (differs : stopLoss ≠ candidate.entryPrice) (one : 1 ≤ quantity) :
    quantity ≤ (sizeOrder candidate portfolio config fxRate stopLoss).approvedQuantity ↔
      FitsSizing candidate portfolio config fxRate stopLoss quantity := by
  have positive := entryPriceInr_pos candidate fxRate
  have apart : candidate.entryPrice.val * fxRate.val ≠ stopLoss.val * fxRate.val := fun same =>
    differs (Subtype.ext (mul_right_cancel₀ fxRate.2.ne' same).symm)
  simp only [sizeOrder, approvedQuantity]
  split
  · next sells =>
    rw [le_min_iff, le_capQuantity_iff positive one]
    constructor
    · rintro ⟨⟨⟨-, risk⟩, position, cash, room⟩, held⟩
      exact ⟨⟨risk, position, cash, fun _ => held⟩, room⟩
    · rintro ⟨fits, room⟩
      exact ⟨⟨⟨apart, fits.risk⟩, fits.position, fits.cash, room⟩, fits.held sells⟩
  · next other =>
    rw [le_capQuantity_iff positive one]
    constructor
    · rintro ⟨⟨-, risk⟩, position, cash, room⟩
      exact ⟨⟨risk, position, cash, fun sells => absurd sells other⟩, room⟩
    · rintro ⟨fits, room⟩
      exact ⟨⟨apart, fits.risk⟩, fits.position, fits.cash, room⟩

/-- An order of at least one share has no reason against it exactly when it
fits the equity cap; sizing has kept it within the market's cap and the holding. -/
theorem sizeOrder_reasons_eq_nil (differs : stopLoss ≠ candidate.entryPrice)
    (one : 1 ≤ (sizeOrder candidate portfolio config fxRate stopLoss).approvedQuantity) :
    (sizeOrder candidate portfolio config fxRate stopLoss).reasons = [] ↔
      FitsEquity candidate portfolio config fxRate
        (sizeOrder candidate portfolio config fxRate stopLoss).approvedQuantity := by
  obtain ⟨fits, room⟩ := (le_sized_iff differs one).mp le_rfl
  have capital : 0 ≤ ((sizeOrder candidate portfolio config fxRate stopLoss).approvedQuantity : ℚ) *
      (candidate.entryPrice.val * fxRate.val) :=
    (sizeOrder candidate portfolio config fxRate stopLoss).approvedCapital.2
  have longOnly : longOnlyRejectionReason candidate
      (sizeOrder candidate portfolio config fxRate stopLoss).approvedQuantity
      portfolio.positions = none := by
    unfold longOnlyRejectionReason
    by_cases sells : candidate.action = .sell
    · have held := fits.held sells
      rw [if_neg (not_not.mpr sells), if_neg (by omega), if_neg (by omega)]
    · rw [if_pos sells]
  have reasons : (sizeOrder candidate portfolio config fxRate stopLoss).reasons =
      (longOnlyRejectionReason candidate
        (sizeOrder candidate portfolio config fxRate stopLoss).approvedQuantity
        portfolio.positions).toList ++
      exposureReasons candidate.market portfolio config
        (if candidate.action = .buy then
          (sizeOrder candidate portfolio config fxRate stopLoss).approvedCapital.val else 0) := rfl
  rw [reasons, longOnly, Option.toList_none, List.nil_append, exposureReasons_eq_nil]
  refine ⟨And.left, fun equity => ⟨equity, ?_⟩⟩
  split
  · exact room
  · exact le_trans (add_le_add_right capital _) room

end Caps

section Evaluate

variable {settings : Settings} {utcNow : ℤ} {id : String} {input : EvaluateInput}
  {stopLoss fxRate : Positive} {quantity : ℕ}

/-- `evaluate` approves a quantity. -/
def Approves (settings : Settings) (utcNow : ℤ) (id : String) (input : EvaluateInput)
    (quantity : ℕ) : Prop :=
  ∃ decision, evaluate settings utcNow id input = .ok decision ∧
    decision.decision = .approved ∧ decision.approvedQuantity = quantity

/-- A trade against which no check but sizing and exposure has a reason. -/
structure OnlySizing (settings : Settings) (utcNow : ℤ) (input : EvaluateInput)
    (stopLoss fxRate : Positive) : Prop where
  trades : input.candidate.action = .buy ∨ input.candidate.action = .sell
  stop : input.candidate.stopLoss = some stopLoss
  rate : fxRateUsed input.candidate input.fxStatus = .ok fxRate
  fx : fxRejectionReason input.candidate.market input.fxStatus utcNow = .ok none
  guards : guardReasons settings input none = []

theorem Approval.onlySizing {sizing : Sizing}
    (approval : Approval settings utcNow input stopLoss fxRate sizing) :
    OnlySizing settings utcNow input stopLoss fxRate :=
  ⟨approval.tradeAction, approval.stop, approval.rate, approval.fx, approval.guards⟩

theorem OnlySizing.stopReason (onlySizing : OnlySizing settings utcNow input stopLoss fxRate) :
    stopLossRejectionReason input.candidate = none := by
  have guards := onlySizing.guards
  simp only [guardReasons, List.append_eq_nil_iff, Option.toList_eq_nil_iff] at guards
  exact guards.1.1.1.1.1.2

theorem OnlySizing.differs (onlySizing : OnlySizing settings utcNow input stopLoss fxRate) :
    stopLoss ≠ input.candidate.entryPrice :=
  stopLossRejectionReason_eq_none onlySizing.stop onlySizing.stopReason

/-- Such a trade is concluded from its sizing alone. -/
theorem OnlySizing.evaluate_eq (onlySizing : OnlySizing settings utcNow input stopLoss fxRate) :
    evaluate settings utcNow id input = .ok (conclude settings id input none
      (sizeOrder input.candidate input.portfolio (input.config settings) fxRate stopLoss)) := by
  have trade : ¬input.RequestsNoTrade := by
    rcases onlySizing.trades with acts | acts <;> simp [EvaluateInput.RequestsNoTrade, acts]
  rw [evaluate_of_trade trade]
  refine ⟨none, _, onlySizing.fx, ?_, rfl⟩
  simp [size, onlySizing.stop, onlySizing.rate, bind, Except.bind, pure, Except.pure]

/-- What is approved is the largest quantity which fits the shrinking caps, and
only if the equity cap takes it. -/
theorem OnlySizing.approves_iff (onlySizing : OnlySizing settings utcNow input stopLoss fxRate) :
    Approves settings utcNow id input quantity ↔
      IsGreatest (Admitted (FitsSizing input.candidate input.portfolio (input.config settings)
        fxRate stopLoss)) quantity ∧
      FitsEquity input.candidate input.portfolio (input.config settings) fxRate quantity := by
  rw [isGreatest_admitted_iff fun _ one => le_sized_iff onlySizing.differs one]
  unfold Approves
  rw [onlySizing.evaluate_eq]
  constructor
  · rintro ⟨decision, returned, approved, rfl⟩
    obtain rfl := Except.ok.inj returned
    rcases conclude_cases settings id input none (sizeOrder input.candidate input.portfolio
        (input.config settings) fxRate stopLoss) with
      ⟨reasons, -, rejected⟩ | ⟨accepted, -, sizingReasons, quantityReasons⟩
    · rw [rejected] at approved
      cases approved
    · rw [accepted]
      simp only [Risk.quantityReasons, List.append_eq_nil_iff, rejectIf_eq_nil,
        onlySizing.stopReason, and_true] at quantityReasons
      have one := Nat.one_le_iff_ne_zero.mpr quantityReasons.2
      exact ⟨⟨one, rfl⟩, (sizeOrder_reasons_eq_nil onlySizing.differs one).mp sizingReasons⟩
  · rintro ⟨⟨one, rfl⟩, equity⟩
    refine ⟨_, rfl, ?_⟩
    obtain ⟨fits, -⟩ := (le_sized_iff onlySizing.differs one).mp le_rfl
    have noReasons : rejectionReasons settings input none (sizeOrder input.candidate
        input.portfolio (input.config settings) fxRate stopLoss) = [] := by
      have paid : input.candidate.action = .buy → 0 < input.portfolio.cashInr.val := fun buys =>
        lt_of_lt_of_le (mul_pos (Nat.cast_pos.mpr one)
          (entryPriceInr_pos input.candidate fxRate)) (fits.cash buys)
      simp only [rejectionReasons, onlySizing.guards, quantityReasons, List.append_eq_nil_iff,
        rejectIf_eq_nil, sizeOrder_reasons_eq_nil onlySizing.differs one]
      exact ⟨⟨trivial, equity⟩, fun broke => absurd (paid broke.1) (not_lt.mpr broke.2),
        fun empty => absurd empty.1 (Nat.one_le_iff_ne_zero.mp one)⟩
    simp only [conclude, noReasons, List.eraseDups_nil, ne_eq, not_true_eq_false, if_false,
      approvedDecision, and_self]

/-- Some quantity fits the shrinking caps: then one is the largest. -/
theorem OnlySizing.exists_largest (onlySizing : OnlySizing settings utcNow input stopLoss fxRate)
    (one : 1 ≤ quantity)
    (fits : FitsSizing input.candidate input.portfolio (input.config settings) fxRate stopLoss
      quantity) :
    ∃ largest, quantity ≤ largest ∧ IsGreatest (Admitted (FitsSizing input.candidate
      input.portfolio (input.config settings) fxRate stopLoss)) largest := by
  have below := (le_sized_iff onlySizing.differs one).mpr fits
  refine ⟨_, below, ?_⟩
  rw [isGreatest_admitted_iff fun _ one => le_sized_iff onlySizing.differs one]
  exact ⟨one.trans below, rfl⟩

/-- An approved quantity is paid for at the INR price. -/
theorem OnlySizing.approvedCapital (onlySizing : OnlySizing settings utcNow input stopLoss fxRate)
    {decision : RiskDecision} (returned : evaluate settings utcNow id input = .ok decision)
    (approved : decision.decision = .approved) : decision.approvedCapital.val =
      decision.approvedQuantity * (input.candidate.entryPrice.val * fxRate) := by
  obtain rfl := Except.ok.inj (onlySizing.evaluate_eq.symm.trans returned)
  rcases conclude_cases settings id input none (sizeOrder input.candidate input.portfolio
      (input.config settings) fxRate stopLoss) with ⟨reasons, -, rejected⟩ | ⟨accepted, -⟩
  · rw [rejected] at approved
    cases approved
  · rw [accepted]
    rfl

/-- Only such a trade is approved. -/
theorem Approves.onlySizing (approves : Approves settings utcNow id input quantity) :
    ∃ stopLoss fxRate, OnlySizing settings utcNow input stopLoss fxRate := by
  obtain ⟨decision, returned, approved, -⟩ := approves
  obtain ⟨stopLoss, fxRate, sizing, approval, -⟩ := exists_approval returned approved
  exact ⟨stopLoss, fxRate, approval.onlySizing⟩

end Evaluate

end AlphaAgent.Risk
