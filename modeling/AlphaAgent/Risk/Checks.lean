import AlphaAgent.Schemas.Risk
import AlphaAgent.Schemas.Status
import Mathlib.Algebra.Order.Group.Unbundled.Abs
import Mathlib.Algebra.Order.Ring.Rat

/-!
# Single risk checks

`data_freshness.py`, `drawdown.py`, `exposure.py`, `long_only.py` and
`rules.py`. A check reports the reasons for which it rejects, in the order in
which the source appends them; `rejectIf` is one guarded append.
-/

namespace AlphaAgent.Risk

/-- Append one reason when its condition holds. -/
def rejectIf (condition : Prop) [Decidable condition] (reason : String) : List String :=
  if condition then [reason] else []

@[simp] theorem rejectIf_eq_nil (condition : Prop) [Decidable condition] (reason : String) :
    rejectIf condition reason = [] ↔ ¬condition := by
  unfold rejectIf
  split <;> simp_all

/-- Removing repetitions leaves a reason where there is one. -/
theorem eraseDups_eq_nil {reasons : List String} : reasons.eraseDups = [] ↔ reasons = [] := by
  cases reasons <;> simp [List.eraseDups_cons]

def providerFreshnessReasons (providers : List ProviderHealth)
    (expectedMarket : Option Market := none) : List String :=
  if providers.isEmpty then ["market_data_provider_missing"]
  else
    providers.flatMap fun provider =>
      rejectIf (∃ market ∈ expectedMarket, provider.market ≠ market)
          ("provider_market_mismatch:" ++ provider.providerName) ++
        rejectIf (!provider.isHealthyForLive) ("provider_unhealthy:" ++ provider.providerName)

/-- No reason against the providers: there is one, and each serves the market and is healthy. -/
theorem providerFreshnessReasons_eq_nil {providers : List ProviderHealth} {market : Market} :
    providerFreshnessReasons providers (some market) = [] ↔
      providers ≠ [] ∧ ∀ provider ∈ providers,
        provider.market = market ∧ provider.isHealthyForLive = true := by
  unfold providerFreshnessReasons
  cases providers with
  | nil => simp
  | cons first rest => simp [and_assoc]

def fxRejectionReason (market : Market) (fxStatus : Option FXRateStatus) (utcNow : ℤ) :
    Except RaisedError (Option String) :=
  if market ≠ .us then .ok none
  else
    match fxStatus with
    | none => .ok (some "usd_inr_fx_missing")
    | some status =>
      if status.freshnessStatus = .missing ∨ status.rate = none then
        .ok (some "usd_inr_fx_missing")
      else do
        if !(← status.isFresh utcNow) then return some "usd_inr_fx_stale"
        return none

/-- No reason against the rate in the US market: the rate is there and fresh. -/
theorem fxRejectionReason_us_eq_none {fxStatus : Option FXRateStatus} {utcNow : ℤ}
    (accepted : fxRejectionReason .us fxStatus utcNow = .ok none) :
    ∃ status rate, fxStatus = some status ∧ status.rate = some rate ∧
      status.isFresh utcNow = .ok true := by
  cases fxStatus with
  | none => simp [fxRejectionReason] at accepted
  | some status =>
    simp only [fxRejectionReason, ne_eq, not_true_eq_false, if_false] at accepted
    split at accepted
    · simp at accepted
    · next usable =>
      rw [not_or] at usable
      obtain ⟨rate, present⟩ := Option.ne_none_iff_exists'.mp usable.2
      refine ⟨status, rate, rfl, present, ?_⟩
      cases fresh : status.isFresh utcNow with
      | error raised => simp [fresh, bind, Except.bind] at accepted
      | ok verdict =>
        cases verdict with
        | true => rfl
        | false => simp [fresh, bind, Except.bind, pure, Except.pure] at accepted

def dailyLossPct (portfolio : PortfolioSnapshot) : ℚ :=
  |min portfolio.dailyPnlInr 0| / portfolio.totalValueInr

def weeklyLossPct (portfolio : PortfolioSnapshot) : ℚ :=
  |min portfolio.weeklyPnlInr 0| / portfolio.totalValueInr

def drawdownReasons (portfolio : PortfolioSnapshot) (riskConfig : RiskConfig) : List String :=
  rejectIf (dailyLossPct portfolio > riskConfig.maxDailyLossPct) "daily_loss_limit_exceeded" ++
  rejectIf (weeklyLossPct portfolio > riskConfig.maxWeeklyLossPct) "weekly_loss_limit_exceeded" ++
  rejectIf (portfolio.monthlyDrawdownPct.val > riskConfig.maxMonthlyDrawdownPct)
    "monthly_drawdown_limit_exceeded" ++
  rejectIf (portfolio.totalDrawdownPct.val > riskConfig.maxTotalDrawdownPct)
    "total_drawdown_limit_exceeded"

def exposureReasons (market : Market) (portfolio : PortfolioSnapshot) (riskConfig : RiskConfig)
    (orderValueInr : ℚ) (sector : Option String := none) : List String :=
  rejectIf (portfolio.equityExposureInr + orderValueInr >
      portfolio.totalValueInr * riskConfig.maxTotalEquityExposurePct)
    "total_equity_exposure_limit_exceeded" ++
  (match market with
    | .india =>
      rejectIf (portfolio.indiaExposureInr + orderValueInr >
          portfolio.totalValueInr * riskConfig.maxIndiaExposurePct)
        "india_exposure_limit_exceeded"
    | .us =>
      rejectIf (portfolio.usExposureInr + orderValueInr >
          portfolio.totalValueInr * riskConfig.maxUsExposurePct)
        "us_exposure_limit_exceeded") ++
  (match sector with
    | none => []
    | some sector =>
      rejectIf (sector ≠ "" ∧ (portfolio.exposuresBySector.get? sector).getD 0 + orderValueInr >
          portfolio.totalValueInr * riskConfig.maxSectorExposurePct)
        "sector_exposure_limit_exceeded")

/-- The quantity of the first position in the candidate's market and symbol. -/
def existingLongQuantity (candidate : TradeCandidate) (positions : List OpenPosition) : ℕ :=
  match positions.find? fun position =>
      position.market = candidate.market ∧ position.symbol = candidate.symbol with
  | some position => position.quantity
  | none => 0

/-- A positive long quantity is the quantity of a held position of that market and symbol. -/
theorem existingLongQuantity_held {candidate : TradeCandidate} {positions : List OpenPosition}
    (held : 0 < existingLongQuantity candidate positions) :
    ∃ position ∈ positions, position.market = candidate.market ∧
      position.symbol = candidate.symbol ∧
      position.quantity = existingLongQuantity candidate positions := by
  unfold existingLongQuantity at held ⊢
  split at held
  · next position found =>
    have matching := List.find?_some found
    simp only [Bool.decide_and, Bool.and_eq_true, decide_eq_true_eq] at matching
    exact ⟨position, List.mem_of_find?_eq_some found, matching.1, matching.2, rfl⟩
  · exact absurd held (Nat.lt_irrefl 0)

def longOnlyRejectionReason (candidate : TradeCandidate) (requestedQuantity : ℕ)
    (positions : List OpenPosition) : Option String :=
  if candidate.action ≠ .sell then none
  else if existingLongQuantity candidate positions = 0 then
    some "sell_without_existing_long_position"
  else if requestedQuantity > existingLongQuantity candidate positions then
    some "sell_quantity_exceeds_existing_long_position"
  else none

def stopLossRejectionReason (candidate : TradeCandidate) : Option String :=
  if (candidate.action = .buy ∨ candidate.action = .sell) ∧ candidate.stopLoss = none then
    some "stop_loss_required"
  else if candidate.stopLoss = some candidate.entryPrice then some "stop_loss_equals_entry_price"
  else none

def rewardRiskRejectionReason (candidate : TradeCandidate) (minimumRatio : ℚ) : Option String :=
  if candidate.rewardRiskRatio < minimumRatio then some "reward_risk_ratio_below_minimum"
  else none

end AlphaAgent.Risk
