import AlphaAgent.Foundation.Quota
import AlphaAgent.Schemas.Risk
import Mathlib.Data.Rat.Floor

/-!
# Position sizing

`position_sizing.py`: the whole quantity whose loss at the stop stays in the
risk budget, and its caps by position size, cash and market exposure. Amounts are
exact: where a quotient of the source overflows its floats, `floor` raises instead.
-/

namespace AlphaAgent.Risk

open Foundation

def calculateQuantityByRisk (portfolioValueInr entryPrice stopLoss maxRiskPerTradePct : ℚ) : ℤ :=
  let perUnitRisk := |entryPrice - stopLoss|
  if perUnitRisk ≤ 0 then 0
  else max ⌊portfolioValueInr * maxRiskPerTradePct / perUnitRisk⌋ 0

/-- The position cap of the candidate's asset class. -/
def maxPositionPct (candidate : TradeCandidate) (riskConfig : RiskConfig) : ℚ :=
  if candidate.assetClass = .etf then riskConfig.maxSingleEtfPositionPct
  else riskConfig.maxSingleStockPositionPct

/-- The exposure cap of a market and the exposure already held in it. -/
def marketExposureCap (market : Market) (portfolio : PortfolioSnapshot)
    (riskConfig : RiskConfig) : ℚ :=
  match market with
  | .india => portfolio.totalValueInr * riskConfig.maxIndiaExposurePct
  | .us => portfolio.totalValueInr * riskConfig.maxUsExposurePct

def marketExposureInr (market : Market) (portfolio : PortfolioSnapshot) : ℚ :=
  match market with
  | .india => portfolio.indiaExposureInr
  | .us => portfolio.usExposureInr

/-- The four quantities whose least one is the capped quantity. -/
structure QuantityCaps where
  quantityByRisk : ℤ
  quantityByPositionCap : ℤ
  quantityByCash : ℤ
  quantityByMarketExposure : ℤ
  entryPriceInr : ℚ

def quantityCaps (candidate : TradeCandidate) (portfolio : PortfolioSnapshot)
    (riskConfig : RiskConfig) (quantityByRisk : ℤ) (priceInr : ℚ) : QuantityCaps where
  quantityByRisk := quantityByRisk
  quantityByPositionCap :=
    ⌊portfolio.totalValueInr * maxPositionPct candidate riskConfig / priceInr⌋
  quantityByCash :=
    if candidate.action = .buy then ⌊portfolio.cashInr / priceInr⌋ else quantityByRisk
  quantityByMarketExposure :=
    ⌊max (marketExposureCap candidate.market portfolio riskConfig -
        marketExposureInr candidate.market portfolio) 0 / priceInr⌋
  entryPriceInr := priceInr

/-- The metrics which sizing reports. -/
def QuantityCaps.metrics (caps : QuantityCaps) : RiskMetrics :=
  [("quantity_by_risk", .number caps.quantityByRisk),
    ("quantity_by_position_cap", .number caps.quantityByPositionCap),
    ("quantity_by_cash", .number caps.quantityByCash),
    ("quantity_by_market_exposure", .number caps.quantityByMarketExposure),
    ("entry_price_inr", .number caps.entryPriceInr)]

/-- The capped quantity, never negative. -/
def QuantityCaps.capped (caps : QuantityCaps) : ℕ :=
  (min (min (min caps.quantityByRisk caps.quantityByPositionCap) caps.quantityByCash)
    caps.quantityByMarketExposure).toNat

/-- `cap_quantity`; the entry price in INR falls back to the candidate's when it is missing or
zero. -/
def capQuantity (candidate : TradeCandidate) (portfolio : PortfolioSnapshot)
    (riskConfig : RiskConfig) (quantityByRisk : ℤ) (entryPriceInr : Option ℚ := none) :
    ℕ × RiskMetrics :=
  let priceInr := if (entryPriceInr.getD 0) = 0 then candidate.entryPrice.val
    else entryPriceInr.getD 0
  let caps := quantityCaps candidate portfolio riskConfig quantityByRisk priceInr
  (caps.capped, caps.metrics)

/-- A quantity of at least one is within the risk quantity exactly when the stop is
away from the entry and the loss at the stop is within the risk budget. -/
theorem le_quantityByRisk_iff {quantity : ℕ} {value entry stop pct : ℚ} (one : 1 ≤ quantity) :
    (quantity : ℤ) ≤ calculateQuantityByRisk value entry stop pct ↔
      entry ≠ stop ∧ quantity * |entry - stop| ≤ value * pct := by
  simp only [calculateQuantityByRisk, abs_nonpos_iff, sub_eq_zero]
  split
  · next same =>
    simp only [same, ne_eq, not_true_eq_false, false_and, iff_false]
    omega
  · next differs =>
    have risky : 0 < |entry - stop| := abs_pos.mpr (sub_ne_zero.mpr differs)
    rw [le_max_iff, ← le_floor_div_iff risky]
    have positive : ¬(quantity : ℤ) ≤ 0 := by omega
    simp only [positive, or_false, ne_eq, differs, not_false_eq_true, true_and]

/-- A quantity of at least one is within the capped quantity exactly when it is
within each cap. -/
theorem QuantityCaps.le_capped_iff {quantity : ℕ} {caps : QuantityCaps} (one : 1 ≤ quantity) :
    quantity ≤ caps.capped ↔
      (quantity : ℤ) ≤ caps.quantityByRisk ∧ (quantity : ℤ) ≤ caps.quantityByPositionCap ∧
        (quantity : ℤ) ≤ caps.quantityByCash ∧
        (quantity : ℤ) ≤ caps.quantityByMarketExposure := by
  unfold capped
  omega

section Caps

variable {candidate : TradeCandidate} {portfolio : PortfolioSnapshot} {config : RiskConfig}
  {priceInr stopLossInr : ℚ}

/-- At a positive price the fallback price is never used. -/
theorem capQuantity_of_pos (positive : 0 < priceInr) (quantityByRisk : ℤ) :
    (capQuantity candidate portfolio config quantityByRisk (some priceInr)).1 =
      (quantityCaps candidate portfolio config quantityByRisk priceInr).capped := by
  simp [capQuantity, positive.ne']

/-- The capped quantity bounds exactly the quantities which fit all four caps. -/
theorem le_capQuantity_iff (positive : 0 < priceInr) {quantity : ℕ} (one : 1 ≤ quantity) :
    quantity ≤ (capQuantity candidate portfolio config
        (calculateQuantityByRisk portfolio.totalValueInr priceInr stopLossInr
          config.maxRiskPerTradePct) (some priceInr)).1 ↔
      (priceInr ≠ stopLossInr ∧
        quantity * |priceInr - stopLossInr| ≤ portfolio.totalValueInr * config.maxRiskPerTradePct) ∧
      quantity * priceInr ≤ portfolio.totalValueInr * maxPositionPct candidate config ∧
      (candidate.action = .buy → quantity * priceInr ≤ portfolio.cashInr) ∧
      marketExposureInr candidate.market portfolio + quantity * priceInr ≤
        marketExposureCap candidate.market portfolio config := by
  rw [capQuantity_of_pos positive, QuantityCaps.le_capped_iff one]
  simp only [quantityCaps, le_quantityByRisk_iff one, le_floor_div_iff positive,
    mul_le_max_zero_iff positive one, le_sub_iff_add_le']
  by_cases buys : candidate.action = .buy
  · simp only [buys, if_true, le_floor_div_iff positive, true_implies]
  · -- The cash cap of a SELL repeats the risk cap.
    simp only [buys, if_false, le_quantityByRisk_iff one, false_implies, true_and]
    constructor
    · rintro ⟨risk, position, -, room⟩
      exact ⟨risk, position, room⟩
    · rintro ⟨risk, position, room⟩
      exact ⟨risk, position, risk, room⟩

end Caps

end AlphaAgent.Risk
