import Mathlib.Algebra.Order.Positive.Ring
import AlphaAgent.Risk.LargestOrder

/-!
# How large an approved order is

Sizing shrinks a BUY to risk, position size, cash and market exposure, and the
equity exposure is a gate behind it. An approved order is therefore the largest
which fits all five caps. The gate does not shrink: where the order sized to the
first four is too large for it, the order is rejected although a smaller one
would pass, and a smaller share of risk then turns the rejection into an approval.
-/

namespace AlphaAgent.Risk

open Foundation

/-- The caps on an order, all at once. -/
def FitsAll (candidate : TradeCandidate) (portfolio : PortfolioSnapshot) (config : RiskConfig)
    (fxRate stopLoss : Positive) (quantity : ℕ) : Prop :=
  FitsSizing candidate portfolio config fxRate stopLoss quantity ∧
    FitsEquity candidate portfolio config fxRate quantity

/-- Where only sizing and exposure can reject a BUY and some quantity fits every
cap, the largest such quantity is approved. -/
def SizesMaximally (settings : Settings) (utcNow : ℤ) (id : String) (input : EvaluateInput) :
    Prop :=
  input.candidate.action = .buy → ∀ stopLoss fxRate,
    OnlySizing settings utcNow input stopLoss fxRate →
      (Admitted (FitsAll input.candidate input.portfolio (input.config settings) fxRate
        stopLoss)).Nonempty →
      ∃ largest, Approves settings utcNow id input largest ∧
        IsGreatest (Admitted (FitsAll input.candidate input.portfolio (input.config settings)
          fxRate stopLoss)) largest

/-- The same input with another share of risk for a trade. -/
def EvaluateInput.withRiskShare (input : EvaluateInput) (settings : Settings)
    (share : Share (5 / 100)) : EvaluateInput :=
  { input with riskConfig := some { input.config settings with maxRiskPerTradePct := share } }

section Lowering

variable {settings : Settings} {utcNow : ℤ} {id : String} {input : EvaluateInput}
  {stopLoss fxRate : Positive} {share : Share (5 / 100)} {quantity : ℕ}

/-- No check but sizing reads the share of risk. -/
theorem OnlySizing.withRiskShare (onlySizing : OnlySizing settings utcNow input stopLoss fxRate)
    (share : Share (5 / 100)) :
    OnlySizing settings utcNow (input.withRiskShare settings share) stopLoss fxRate :=
  ⟨onlySizing.trades, onlySizing.stop, onlySizing.rate, onlySizing.fx, onlySizing.guards⟩

/-- What fits under a smaller share of risk fits under the larger one. -/
theorem FitsSizing.of_lower (lower : share.val ≤ (input.config settings).maxRiskPerTradePct.val)
    (fits : FitsSizing input.candidate input.portfolio
      ((input.withRiskShare settings share).config settings) fxRate stopLoss quantity) :
    FitsSizing input.candidate input.portfolio
      (input.config settings) fxRate stopLoss quantity := by
  obtain ⟨order, room⟩ := fits
  have budget : input.portfolio.totalValueInr.val * share.val ≤
      input.portfolio.totalValueInr.val * (input.config settings).maxRiskPerTradePct.val :=
    mul_le_mul_of_nonneg_left lower input.portfolio.totalValueInr.2.le
  exact ⟨⟨order.risk.trans budget, order.position, order.cash, order.held⟩, room⟩

end Lowering

/-- Where only sizing and exposure can reject, the largest quantity which fits
the shrinking caps is approved when the equity cap takes it, and it is then the
largest which fits all caps; otherwise the trade is rejected. A smaller share of
risk approves what was rejected only where the equity cap refused that quantity. -/
theorem evaluate_largest {settings : Settings} {utcNow : ℤ} (id : String) {input : EvaluateInput}
    {stopLoss fxRate : Positive} (onlySizing : OnlySizing settings utcNow input stopLoss fxRate) :
    (∀ quantity, Approves settings utcNow id input quantity ↔
      IsGreatest (Admitted (FitsSizing input.candidate input.portfolio (input.config settings)
        fxRate stopLoss)) quantity ∧
      FitsEquity input.candidate input.portfolio (input.config settings) fxRate quantity) ∧
    (∀ quantity, Approves settings utcNow id input quantity →
      IsGreatest (Admitted (FitsAll input.candidate input.portfolio (input.config settings)
        fxRate stopLoss)) quantity) ∧
    ((∀ quantity, ¬Approves settings utcNow id input quantity) →
      ∃ decision, evaluate settings utcNow id input = .ok decision ∧
        decision.decision = .rejected) ∧
    ∀ share : Share (5 / 100), share.val ≤ (input.config settings).maxRiskPerTradePct.val →
      ∀ fewer, Approves settings utcNow id (input.withRiskShare settings share) fewer →
        (∃ quantity, Approves settings utcNow id input quantity) ∨
        ∃ quantity, fewer ≤ quantity ∧
          IsGreatest (Admitted (FitsSizing input.candidate input.portfolio (input.config settings)
            fxRate stopLoss)) quantity ∧
          ¬FitsEquity input.candidate input.portfolio (input.config settings) fxRate quantity := by
  refine ⟨fun quantity => onlySizing.approves_iff, fun quantity approves => ?_, fun none => ?_,
    fun share lower fewer approves => ?_⟩
  · obtain ⟨⟨⟨one, fits⟩, most⟩, equity⟩ := onlySizing.approves_iff.mp approves
    exact ⟨⟨one, fits, equity⟩, fun other member => most ⟨member.1, member.2.1⟩⟩
  · refine ⟨_, onlySizing.evaluate_eq, ?_⟩
    rcases conclude_cases settings id input Option.none (sizeOrder input.candidate input.portfolio
        (input.config settings) fxRate stopLoss) with
      ⟨reasons, -, rejected⟩ | ⟨accepted, -⟩
    · rw [rejected]
      rfl
    · exact absurd ⟨_, onlySizing.evaluate_eq, by rw [accepted]; rfl, rfl⟩ (none _)
  · obtain ⟨⟨⟨one, fits⟩, -⟩, -⟩ := (onlySizing.withRiskShare share).approves_iff.mp approves
    obtain ⟨largest, below, greatest⟩ := onlySizing.exists_largest one (fits.of_lower lower)
    by_cases equity : FitsEquity input.candidate input.portfolio (input.config settings) fxRate
        largest
    · exact .inl ⟨largest, onlySizing.approves_iff.mpr ⟨greatest, equity⟩⟩
    · exact .inr ⟨largest, below, greatest, equity⟩

/-- The stop of `relianceBuy`. -/
def relianceStop : Positive := relianceBuy.candidate.stopLoss.get rfl

/-- `relianceBuy` in a book whose equity exposure is near its cap. -/
def crowdedBuy : EvaluateInput :=
  { relianceBuy with
    portfolio := { relianceBuy.portfolio with equityExposureInr := ⟨760000, by norm_num⟩ } }

theorem onlySizing_crowdedBuy : OnlySizing liveSettings 0 crowdedBuy relianceStop 1 :=
  ⟨.inl rfl, rfl, rfl, rfl, by decide +kernel⟩

/-- 400 shares fit every cap. -/
theorem fitsAll_crowdedBuy : FitsAll crowdedBuy.candidate crowdedBuy.portfolio
    (crowdedBuy.config liveSettings) 1 relianceStop 400 :=
  ⟨by decide +kernel, by decide +kernel⟩

/-- The BUY of the crowded book is sized to 500 shares and rejected. -/
theorem evaluate_crowdedBuy : ∃ decision,
    evaluate liveSettings 0 "risk-1" crowdedBuy = .ok decision ∧ decision.decision = .rejected ∧
    decision.rejectionReasons = ["total_equity_exposure_limit_exceeded"] := by
  refine ⟨_, onlySizing_crowdedBuy.evaluate_eq, ?_, ?_⟩ <;> decide +kernel

/-- A quantity fits every cap and the BUY is rejected; with a smaller share of
risk it is approved. -/
theorem crowdedBuy_not_maximal : ¬SizesMaximally liveSettings 0 "risk-1" crowdedBuy ∧
    (∀ quantity, ¬Approves liveSettings 0 "risk-1" crowdedBuy quantity) ∧
    Approves liveSettings 0 "risk-1"
      (crowdedBuy.withRiskShare liveSettings ⟨4 / 1000, by norm_num⟩) 400 := by
  have refused : ∀ quantity, ¬Approves liveSettings 0 "risk-1" crowdedBuy quantity := by
    rintro quantity ⟨decision, returned, approved, -⟩
    obtain ⟨rejection, rejected, verdict, -⟩ := evaluate_crowdedBuy
    obtain rfl := Except.ok.inj (rejected.symm.trans returned)
    rw [verdict] at approved
    cases approved
  refine ⟨fun maximal => ?_, refused, ?_⟩
  · obtain ⟨largest, approves, -⟩ := maximal rfl _ _ onlySizing_crowdedBuy
      ⟨400, by norm_num, fitsAll_crowdedBuy⟩
    exact refused largest approves
  · refine ⟨_, (onlySizing_crowdedBuy.withRiskShare _).evaluate_eq, ?_, ?_⟩ <;> decide +kernel

/-- In an empty book the 500 shares which the risk budget allows are approved. -/
theorem evaluate_largest_relianceBuy :
    (∀ quantity, Approves liveSettings 0 "risk-1" relianceBuy quantity ↔
      IsGreatest (Admitted (FitsSizing relianceBuy.candidate relianceBuy.portfolio
        (relianceBuy.config liveSettings) 1 relianceStop)) quantity ∧
      FitsEquity relianceBuy.candidate relianceBuy.portfolio (relianceBuy.config liveSettings) 1
        quantity) ∧
    Approves liveSettings 0 "risk-1" relianceBuy 500 :=
  ⟨(evaluate_largest "risk-1" ⟨.inl rfl, rfl, rfl, rfl, by decide +kernel⟩).1,
    relianceDecision, evaluate_relianceBuy, rfl, relianceDecision_approvedQuantity⟩

end AlphaAgent.Risk
