import AlphaAgent.Risk.LargestOrder

/-!
# How much of one symbol a book can hold

The market exposure cap of an order counts what the book already holds in the
market; the position cap counts the order alone. A BUY of a held symbol can
therefore be approved although the position then exceeds its cap.
`concentrated_iff` says when it cannot: the room which the cap leaves on top of
the holding has to pay for every quantity which the other caps allow.
-/

namespace AlphaAgent.Risk

open Foundation

/-- The INR value of what is held in a candidate's market and symbol. -/
def heldValueInr (candidate : TradeCandidate) (positions : List OpenPosition) : ℚ :=
  ((positions.filter fun position =>
      position.market = candidate.market ∧ position.symbol = candidate.symbol).map fun position =>
    position.marketValueInr.val).sum

/-- The cap of one position pays for a quantity on top of what is held. -/
def FitsHolding (candidate : TradeCandidate) (portfolio : PortfolioSnapshot) (config : RiskConfig)
    (fxRate : Positive) (quantity : ℕ) : Prop :=
  heldValueInr candidate portfolio.positions + quantity * (candidate.entryPrice.val * fxRate) ≤
    portfolio.totalValueInr * maxPositionPct candidate config

/-- An approved BUY keeps the position, with what is held, within its cap. -/
def Concentrated (settings : Settings) (utcNow : ℤ) (id : String) (input : EvaluateInput) : Prop :=
  input.candidate.action = .buy → ∀ decision, evaluate settings utcNow id input = .ok decision →
    decision.decision = .approved →
      heldValueInr input.candidate input.portfolio.positions + decision.approvedCapital.val ≤
        input.portfolio.totalValueInr * maxPositionPct input.candidate (input.config settings)

/-- The BUY is refused by another check, or the quantities which sizing allows
reach past the equity cap, or each of them has room on top of what is held. -/
def HoldingLeavesRoom (settings : Settings) (utcNow : ℤ) (input : EvaluateInput) : Prop :=
  input.candidate.action = .buy → ∀ stopLoss fxRate,
    OnlySizing settings utcNow input stopLoss fxRate →
      (∀ quantity ∈ Admitted (FitsSizing input.candidate input.portfolio (input.config settings)
        fxRate stopLoss),
          FitsEquity input.candidate input.portfolio (input.config settings) fxRate quantity) →
      ∀ quantity ∈ Admitted (FitsSizing input.candidate input.portfolio (input.config settings)
        fxRate stopLoss),
          FitsHolding input.candidate input.portfolio (input.config settings) fxRate quantity

section Holding

variable {candidate : TradeCandidate} {portfolio : PortfolioSnapshot} {config : RiskConfig}
  {fxRate stopLoss : Positive} {quantity : ℕ}

theorem FitsHolding.of_le {fewer : ℕ} (below : fewer ≤ quantity)
    (fits : FitsHolding candidate portfolio config fxRate quantity) :
    FitsHolding candidate portfolio config fxRate fewer := by
  have room := mul_le_of_le (entryPriceInr_pos candidate fxRate).le below
    (le_sub_iff_add_le'.mpr fits)
  exact le_sub_iff_add_le'.mp room

/-- With nothing held the position cap of the order is the cap of the position. -/
theorem FitsOrder.fitsHolding (nothing : heldValueInr candidate portfolio.positions = 0)
    (fits : FitsOrder candidate portfolio config fxRate stopLoss quantity) :
    FitsHolding candidate portfolio config fxRate quantity := by
  rw [FitsHolding, nothing, zero_add]
  exact fits.position

/-- A symbol of which nothing is held has room. -/
theorem HoldingLeavesRoom.of_nothing {settings : Settings} {utcNow : ℤ} {input : EvaluateInput}
    (nothing : heldValueInr input.candidate input.portfolio.positions = 0) :
    HoldingLeavesRoom settings utcNow input :=
  fun _ _ _ _ _ _ admitted => admitted.2.1.fitsHolding nothing

end Holding

/-- Every approved BUY stays within the cap of one position exactly when what is
held leaves room for the quantities which sizing allows. -/
theorem concentrated_iff (settings : Settings) (utcNow : ℤ) (id : String) (input : EvaluateInput) :
    Concentrated settings utcNow id input ↔ HoldingLeavesRoom settings utcNow input := by
  constructor
  · intro concentrated buys stopLoss fxRate onlySizing equity
    rintro quantity ⟨one, fits⟩
    -- The largest allowed quantity is approved, and the room passes to smaller ones.
    obtain ⟨largest, below, greatest⟩ := onlySizing.exists_largest one fits
    have approves : Approves settings utcNow id input largest :=
      onlySizing.approves_iff.mpr ⟨greatest, equity largest greatest.1⟩
    obtain ⟨decision, returned, approved, sized⟩ := approves
    have held := concentrated buys decision returned approved
    rw [onlySizing.approvedCapital returned approved, sized] at held
    exact FitsHolding.of_le below held
  · intro room buys decision returned approved
    have approves : Approves settings utcNow id input decision.approvedQuantity :=
      ⟨decision, returned, approved, rfl⟩
    obtain ⟨stopLoss, fxRate, onlySizing⟩ := approves.onlySizing
    obtain ⟨greatest, equity⟩ := onlySizing.approves_iff.mp approves
    rw [onlySizing.approvedCapital returned approved]
    have admitted :=
      (forall_admitted_iff greatest fun _ _ below fits => fits.of_le below).mpr equity
    exact room buys stopLoss fxRate onlySizing admitted _ greatest.1

/-- `relianceBuy` in a book which holds RELIANCE for 60,000 INR. -/
def repeatedBuy : EvaluateInput :=
  { relianceBuy with
    portfolio :=
      { relianceBuy.portfolio with
        equityExposureInr := ⟨60000, by norm_num⟩
        indiaExposureInr := ⟨60000, by norm_num⟩
        positions :=
          [{ market := .india
             symbol := "RELIANCE"
             assetClass := .equity
             quantity := 600
             marketValueInr := ⟨60000, by norm_num⟩ }] } }

/-- 500 more shares are approved: 110,000 INR of one symbol under a cap of 75,000. -/
theorem repeatedBuy_not_concentrated :
    ¬Concentrated liveSettings 0 "risk-1" repeatedBuy := by
  have onlySizing : OnlySizing liveSettings 0 repeatedBuy ⟨90, by norm_num⟩ ⟨1, by norm_num⟩ :=
    ⟨.inl rfl, rfl, rfl, rfl, by decide +kernel⟩
  intro concentrated
  have held := concentrated rfl _ onlySizing.evaluate_eq (by decide +kernel)
  exact absurd held (by decide +kernel)

end AlphaAgent.Risk
