import AlphaAgent.Intraday.Strategies

/-!
# Risk, kill switch and simulated fills

`app/intraday/risk_manager.py`, `kill_switch.py` and `shadow_execution.py`. The
metrics which the risk manager reports are read by nothing and are left out.
-/

namespace AlphaAgent.Intraday

open Paper Risk

structure ShadowRiskState where
  dailyRealizedPnl : ℚ := 0
  weeklyRealizedPnl : ℚ := 0
  tradesToday : ℕ := 0
  consecutiveLosses : ℕ := 0
  openPositions : List VirtualPosition := []
deriving DecidableEq

/-- How many of the positions are open. -/
def openCount (positions : List VirtualPosition) : ℕ := positions.countP VirtualPosition.isOpen

@[simp] theorem openCount_append (first second : List VirtualPosition) :
    openCount (first ++ second) = openCount first + openCount second := List.countP_append

/-- The whole lots of the allowed risk, none without a stop distance. -/
def quantityByRisk (config : IntradayShadowConfig) (stopDistance : ℚ) : ℤ :=
  if 0 < stopDistance then ⌊config.capital * config.riskPerTradePercent / stopDistance⌋ else 0

/-- The reasons for which `RiskManager.approve` rejects, in their order. -/
def rejectionReasons (config : IntradayShadowConfig) (scored : ScoredSignal)
    (dataQuality : DataQualityReport) (state : ShadowRiskState)
    (currentRegime : Option MarketRegime) : List String :=
  let signal := scored.signal
  let stopDistance := |signal.entryPrice - signal.stopLoss|
  rejectIf (scored.decision ≠ .valid) ("signal_not_valid:" ++ scored.decision.value) ++
    (if dataQuality.ok then [] else dataQuality.reasons.map ("data_quality:" ++ ·)) ++
    rejectIf (signal.stopLoss ≤ 0) "stop_loss_missing" ++
    rejectIf (stopDistance ≤ 0) "stop_distance_invalid" ++
    rejectIf (signal.riskRewardRatio < config.minRewardToRisk) "reward_risk_below_threshold" ++
    rejectIf (signal.marketSnapshot.spreadPct.any (config.maxSpreadPct < ·)) "spread_too_wide" ++
    rejectIf (state.dailyRealizedPnl ≤ -config.capital * config.maxDailyLossPercent)
      "daily_loss_limit_reached" ++
    rejectIf (state.weeklyRealizedPnl ≤ -config.capital * config.maxWeeklyLossPercent)
      "weekly_loss_limit_reached" ++
    rejectIf (config.maxTradesPerDay ≤ state.tradesToday) "max_trades_per_day_reached" ++
    rejectIf (config.maxConsecutiveLosses ≤ state.consecutiveLosses)
      "max_consecutive_losses_reached" ++
    rejectIf (config.maxOpenPositions ≤ openCount state.openPositions)
      "max_open_positions_reached" ++
    rejectIf (signal.direction = .short ∧ ¬config.allowShorts) "shorts_disabled" ++
    rejectIf (∃ regime ∈ currentRegime, regime ≠ signal.regimeAtSignal) "market_regime_changed" ++
    rejectIf (signal.regimeAtSignal = .sideways ∧ ¬config.allowSidewaysTrades)
      "sideways_regime_blocked" ++
    rejectIf (signal.regimeAtSignal = .highVolatility ∧ ¬config.allowHighVolatilityTrades)
      "high_volatility_blocked" ++
    rejectIf (quantityByRisk config stopDistance ≤ 0) "quantity_zero"

/-- `RiskManager.approve`. -/
def RiskManager.approve (config : IntradayShadowConfig) (scored : ScoredSignal)
    (dataQuality : DataQualityReport) (state : ShadowRiskState)
    (currentRegime : Option MarketRegime := none) : RiskApproval :=
  let signal := scored.signal
  let stopDistance := |signal.entryPrice - signal.stopLoss|
  let quantity := quantityByRisk config stopDistance
  let deduped := (rejectionReasons config scored dataQuality state currentRegime).eraseDups
  if deduped ≠ [] then { approved := false, rejectionReasons := deduped }
  else
    { approved := true
      quantity
      riskAmount := quantity * stopDistance
      capitalRequired := quantity * signal.entryPrice }

/-- An approved quantity is positive. -/
theorem RiskManager.approve_quantity {config : IntradayShadowConfig} {scored : ScoredSignal}
    {dataQuality : DataQualityReport} {state : ShadowRiskState}
    {currentRegime : Option MarketRegime}
    (approved : (approve config scored dataQuality state currentRegime).approved = true) :
    0 < (approve config scored dataQuality state currentRegime).quantity := by
  unfold approve at approved ⊢
  by_cases accepted :
      (rejectionReasons config scored dataQuality state currentRegime).eraseDups = []
  · rw [if_neg (not_not.mpr accepted)]
    rw [eraseDups_eq_nil, rejectionReasons, List.append_eq_nil_iff, rejectIf_eq_nil] at accepted
    exact not_le.mp accepted.2
  · rw [if_pos accepted] at approved
    cases approved

structure ShadowKillSwitchState where
  triggered : Bool := false
  reasons : List String := []
deriving DecidableEq

/-- `KillSwitchManager.evaluate`: the reasons of earlier evaluations stay. -/
def KillSwitchManager.evaluate (config : IntradayShadowConfig) (state : ShadowKillSwitchState)
    (riskState : ShadowRiskState) (dataQuality : Option DataQualityReport := none)
    (rejectedSignalCount : ℕ := 0) (apiLatencyMs : Option ℚ := none) : ShadowKillSwitchState :=
  let quality := match dataQuality with
    | none => []
    | some report => if report.ok then [] else report.reasons.map ("data_quality:" ++ ·)
  let reasons := state.reasons ++
    rejectIf (riskState.dailyRealizedPnl ≤ -config.capital * config.maxDailyLossPercent)
      "daily_loss_limit_hit" ++
    rejectIf (riskState.weeklyRealizedPnl ≤ -config.capital * config.maxWeeklyLossPercent)
      "weekly_loss_limit_hit" ++
    rejectIf (config.maxConsecutiveLosses ≤ riskState.consecutiveLosses)
      "max_consecutive_losses_hit" ++
    quality ++
    rejectIf (50 < rejectedSignalCount) "too_many_rejected_signals" ++
    rejectIf (apiLatencyMs.any (2000 < ·)) "api_latency_too_high"
  let deduped := reasons.eraseDups
  { triggered := !deduped.isEmpty, reasons := deduped }

section Latch

variable (config : IntradayShadowConfig) (state : ShadowKillSwitchState)
  (riskState : ShadowRiskState) (dataQuality : Option DataQualityReport)
  (rejectedSignalCount : ℕ) (apiLatencyMs : Option ℚ)

/-- An evaluation keeps every reason of the earlier ones. -/
theorem KillSwitchManager.evaluate_reasons : state.reasons ⊆
    (evaluate config state riskState dataQuality rejectedSignalCount apiLatencyMs).reasons := by
  intro reason listed
  simp only [evaluate, List.mem_eraseDups, List.mem_append]
  exact .inl (.inl (.inl (.inl (.inl (.inl listed)))))

/-- An evaluation triggers exactly when it has a reason. -/
theorem KillSwitchManager.evaluate_triggered :
    (evaluate config state riskState dataQuality rejectedSignalCount apiLatencyMs).triggered =
        true ↔
      (evaluate config state riskState dataQuality rejectedSignalCount apiLatencyMs).reasons ≠
        [] := by
  simp only [evaluate, Bool.not_eq_true', ne_eq, ← List.isEmpty_iff, Bool.not_eq_true]

end Latch

/-- `KillSwitchManager.reset`. -/
def KillSwitchManager.reset : ShadowKillSwitchState := {}

/-- `ShadowExecutionSimulator.simulate` at a reading of the UTC clock. -/
def ShadowExecutionSimulator.simulate (config : IntradayShadowConfig) (signal : Signal)
    (approval : RiskApproval) (snapshot : MarketDataSnapshot) (now : DateTime) :
    Except RaisedError ShadowOrder :=
  let unfilled (quantity : ℤ) (fillStatus : FillStatus) (reason : String) : ShadowOrder :=
    { symbol := signal.symbol
      direction := signal.direction
      expectedEntry := signal.entryPrice
      simulatedFill := none
      quantity
      slippage := 0
      spread := 0
      latencyMs := config.latencyMs
      fillStatus
      rejectionReason := some reason
      timestamp := now }
  if ¬approval.approved ∨ approval.quantity ≤ 0 then
    .ok (unfilled 0 .rejected "risk_not_approved")
  else if signal.entryPrice = 0 then .error (.zeroDivisionError "float division by zero")
  else
    let movePct := |snapshot.lastPrice - signal.entryPrice| / signal.entryPrice
    if config.maxEntryMovePct < movePct then
      .ok (unfilled approval.quantity .missed "price_moved_too_far")
    else
      let spread := max ((given snapshot.ask).getD signal.entryPrice -
        (given snapshot.bid).getD signal.entryPrice) 0
      let halfSpread := spread / 2
      let slippage := signal.entryPrice * config.slippageBps / 10000
      let fill := match signal.direction with
        | .long => signal.entryPrice + slippage + halfSpread
        | .short => signal.entryPrice - slippage - halfSpread
      .ok { symbol := signal.symbol
            direction := signal.direction
            expectedEntry := signal.entryPrice
            simulatedFill := some (roundTo 4 fill)
            quantity := approval.quantity
            slippage := roundTo 4 slippage
            spread := roundTo 4 spread
            latencyMs := config.latencyMs
            fillStatus := .filled
            timestamp := now }

/-- An order is stamped with the reading at which it is simulated. -/
theorem ShadowExecutionSimulator.simulate_timestamp {config : IntradayShadowConfig}
    {signal : Signal} {approval : RiskApproval} {snapshot : MarketDataSnapshot} {now : DateTime}
    {order : ShadowOrder} (simulated : simulate config signal approval snapshot now = .ok order) :
    order.timestamp = now := by
  unfold simulate at simulated
  dsimp only at simulated
  split_ifs at simulated <;> cases simulated <;> rfl

end AlphaAgent.Intraday
