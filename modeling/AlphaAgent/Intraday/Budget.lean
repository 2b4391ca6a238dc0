import AlphaAgent.Intraday.AgentsRestrict
import AlphaAgent.Intraday.Rounding

/-!
# What an approved quantity costs

The risk manager divides the risk budget by the stop distance of the signal and
caps the quantity by nothing else. What the quantity costs is within the capital
only where the stop is wide enough for it, and the risk of a filled position
exceeds the budget by what the fill gives way.
-/

namespace AlphaAgent.Intraday

section Approved

variable {config : IntradayShadowConfig} {scored : ScoredSignal} {dataQuality : DataQualityReport}
  {state : ShadowRiskState} {currentRegime : Option MarketRegime}

/-- The risk which one trade may take. -/
def IntradayShadowConfig.allowedRisk (config : IntradayShadowConfig) : ℚ :=
  config.capital * config.riskPerTradePercent

/-- What the risk manager approves, it sizes by the risk. -/
theorem RiskManager.approve_sized
    (approved : (approve config scored dataQuality state currentRegime).approved = true) :
    approve config scored dataQuality state currentRegime =
      { approved := true
        quantity := quantityByRisk config |scored.signal.entryPrice - scored.signal.stopLoss|
        riskAmount := quantityByRisk config |scored.signal.entryPrice - scored.signal.stopLoss| *
          |scored.signal.entryPrice - scored.signal.stopLoss|
        capitalRequired := quantityByRisk config
          |scored.signal.entryPrice - scored.signal.stopLoss| * scored.signal.entryPrice } := by
  unfold approve at approved ⊢
  dsimp only at approved ⊢
  split_ifs at approved ⊢
  rfl

/-- Only a stop distance is divided by. -/
theorem stopDistance_pos {stopDistance : ℚ} (sized : 0 < quantityByRisk config stopDistance) :
    0 < stopDistance := by
  unfold quantityByRisk at sized
  split at sized
  · assumption
  · exact absurd sized (lt_irrefl 0)

/-- The quantity is the largest one whose risk is allowed. -/
theorem le_quantityByRisk_iff {stopDistance : ℚ} (distant : 0 < stopDistance) (units : ℤ) :
    units ≤ quantityByRisk config stopDistance ↔ units * stopDistance ≤ config.allowedRisk := by
  rw [quantityByRisk, if_pos distant, Int.le_floor, le_div_iff₀ distant]
  rfl

theorem quantityByRisk_mul_le {stopDistance : ℚ} (distant : 0 < stopDistance) :
    quantityByRisk config stopDistance * stopDistance ≤ config.allowedRisk :=
  (le_quantityByRisk_iff distant _).mp le_rfl

/-- An approved quantity has a stop distance, and keeps to the allowed risk at the
price of its signal. -/
theorem RiskManager.approve_budgeted
    (approved : (approve config scored dataQuality state currentRegime).approved = true) :
    0 < |scored.signal.entryPrice - scored.signal.stopLoss| ∧
      (approve config scored dataQuality state currentRegime).quantity *
        |scored.signal.entryPrice - scored.signal.stopLoss| ≤ config.allowedRisk := by
  have positive := approve_quantity approved
  rw [approve_sized approved] at positive ⊢
  exact ⟨stopDistance_pos positive, quantityByRisk_mul_le (stopDistance_pos positive)⟩

end Approved

section Leverage

/-- An approval which takes no more than the capital, and risks no more than allowed. -/
structure Unleveraged (config : IntradayShadowConfig) (signal : Signal) (approval : RiskApproval) :
    Prop where
  required : approval.capitalRequired = approval.quantity * signal.entryPrice
  affordable : approval.capitalRequired ≤ config.capital
  budgeted : approval.quantity * |signal.entryPrice - signal.stopLoss| ≤ config.allowedRisk

/-- The stop is wide enough: one unit more than the capital buys would risk more than
is allowed. A price which is not positive costs nothing, so that it is not affordable
only with a negative capital, which fewer units do not reach. -/
def WideEnough (config : IntradayShadowConfig) (entryPrice stopDistance : ℚ) : Prop :=
  if 0 < entryPrice then
    config.allowedRisk < (⌊config.capital / entryPrice⌋ + 1) * stopDistance
  else if entryPrice = 0 then 0 ≤ config.capital
  else ⌈config.capital / entryPrice⌉ * stopDistance ≤ config.allowedRisk

/-- The whole quantity is affordable exactly at a stop which is wide enough. -/
theorem quantityByRisk_affordable_iff {config : IntradayShadowConfig} {stopDistance : ℚ}
    (distant : 0 < stopDistance) (entryPrice : ℚ) :
    quantityByRisk config stopDistance * entryPrice ≤ config.capital ↔
      WideEnough config entryPrice stopDistance := by
  unfold WideEnough
  split_ifs with priced free
  · calc (quantityByRisk config stopDistance : ℚ) * entryPrice ≤ config.capital
        ↔ quantityByRisk config stopDistance < ⌊config.capital / entryPrice⌋ + 1 := by
          rw [← le_div_iff₀ priced, ← Int.le_floor, Int.lt_add_one_iff]
      _ ↔ config.allowedRisk < (⌊config.capital / entryPrice⌋ + 1) * stopDistance := by
          rw [← not_le, le_quantityByRisk_iff distant, not_le]
          push_cast
          rfl
  · rw [free, mul_zero]
  · have negative : entryPrice < 0 := lt_of_le_of_ne (not_lt.mp priced) free
    rw [← div_le_iff_of_neg negative, ← Int.ceil_le, le_quantityByRisk_iff distant]

/-- An approval is unleveraged if and only if the stop is wide enough for the capital. -/
theorem RiskManager.approve_unleveraged_iff {config : IntradayShadowConfig}
    {scored : ScoredSignal} {dataQuality : DataQualityReport} {state : ShadowRiskState}
    {currentRegime : Option MarketRegime}
    (approved : (approve config scored dataQuality state currentRegime).approved = true) :
    Unleveraged config scored.signal (approve config scored dataQuality state currentRegime) ↔
      WideEnough config scored.signal.entryPrice
        |scored.signal.entryPrice - scored.signal.stopLoss| := by
  obtain ⟨distant, budgeted⟩ := approve_budgeted approved
  rw [← quantityByRisk_affordable_iff distant]
  rw [approve_sized approved] at budgeted ⊢
  exact ⟨fun unleveraged => unleveraged.affordable, fun affordable => ⟨rfl, affordable, budgeted⟩⟩

/-- A breakout at 104 which is scored valid. -/
def validBreakout (stopLoss : ℚ) : ScoredSignal where
  signal := breakoutSignal 104 stopLoss 107
  score := 80
  decision := .valid
  reasons := []

theorem RiskManager.approve_unleveraged_iff_wide :
    Unleveraged {} (validBreakout 103).signal
        (approve {} (validBreakout 103) ⟨true, []⟩ {} (some .strongBullish)) ↔
      WideEnough {} 104 |104 - 103| :=
  approve_unleveraged_iff (by decide +kernel)

/-- A stop ten paise below the entry is approved for 12500 units, which cost 1300000
of a capital of 500000. -/
theorem RiskManager.approve_leveraged : ¬ ∀ (config : IntradayShadowConfig) (scored : ScoredSignal)
    (dataQuality : DataQualityReport) (state : ShadowRiskState)
    (currentRegime : Option MarketRegime),
    (approve config scored dataQuality state currentRegime).approved = true →
      Unleveraged config scored.signal
        (approve config scored dataQuality state currentRegime) := by
  intro unleveraged
  have affordable := (unleveraged {} (validBreakout (1039 / 10)) ⟨true, []⟩ {} (some .strongBullish)
    (by decide +kernel)).affordable
  revert affordable
  decide +kernel

end Leverage

section Fill

variable {config : IntradayShadowConfig} {signal : Signal} {approval : RiskApproval}
  {snapshot : MarketDataSnapshot} {now : DateTime} {order : ShadowOrder}
  {position : VirtualPosition}

/-- The spread which a simulated fill pays half of. -/
def quotedSpread (signal : Signal) (snapshot : MarketDataSnapshot) : ℚ :=
  max ((given snapshot.ask).getD signal.entryPrice -
    (given snapshot.bid).getD signal.entryPrice) 0

/-- How far from the price of its signal an order may be filled: the slippage, half
the spread and half a unit of the last digit which is kept. -/
def fillAllowance (config : IntradayShadowConfig) (signal : Signal)
    (snapshot : MarketDataSnapshot) : ℚ :=
  |signal.entryPrice * config.slippageBps / 10000| + quotedSpread signal snapshot / 2 + 1 / 20000

theorem quotedSpread_nonneg (signal : Signal) (snapshot : MarketDataSnapshot) :
    0 ≤ quotedSpread signal snapshot := le_max_right _ _

/-- A price which is moved by the slippage and half the spread, in either direction,
and then rounded is within the allowance. -/
theorem abs_roundTo_fill_le {fill : ℚ}
    (moved : |fill - signal.entryPrice| ≤
      |signal.entryPrice * config.slippageBps / 10000| + quotedSpread signal snapshot / 2) :
    |roundTo 4 fill - signal.entryPrice| ≤ fillAllowance config signal snapshot :=
  calc |roundTo 4 fill - signal.entryPrice|
      ≤ |roundTo 4 fill - fill| + |fill - signal.entryPrice| := abs_sub_le _ _ _
    _ ≤ 1 / 2 / 10 ^ 4 + (|signal.entryPrice * config.slippageBps / 10000| +
          quotedSpread signal snapshot / 2) := add_le_add (abs_roundTo_sub_le 4 fill) moved
    _ = fillAllowance config signal snapshot := by
      rw [fillAllowance]
      ring

/-- What is filled was approved, in the approved quantity and within the allowance. -/
theorem ShadowExecutionSimulator.simulate_filled {fill : ℚ}
    (simulated : simulate config signal approval snapshot now = .ok order)
    (filled : order.simulatedFill = some fill) :
    approval.approved = true ∧ order.quantity = approval.quantity ∧
      |fill - signal.entryPrice| ≤ fillAllowance config signal snapshot := by
  have half : |quotedSpread signal snapshot / 2| = quotedSpread signal snapshot / 2 :=
    abs_of_nonneg (by linarith [quotedSpread_nonneg signal snapshot])
  unfold simulate at simulated
  dsimp only at simulated
  split_ifs at simulated with rejected free far <;> cases simulated
  · cases filled
  · cases filled
  · rw [not_or, not_not] at rejected
    refine ⟨rejected.1, rfl, ?_⟩
    rw [← Option.some.inj filled]
    apply abs_roundTo_fill_le
    rw [← half]
    cases signal.direction with
    | long =>
      refine le_of_eq_of_le (congrArg abs ?_) (abs_add_le _ _)
      rw [add_assoc, add_sub_cancel_left]
      rfl
    | short =>
      refine le_of_eq_of_le ?_ (abs_add_le _ _)
      rw [abs_sub_comm, sub_sub, sub_sub_cancel]
      rfl

/-- A position is opened from a filled order, at the risk of its fill. -/
theorem VirtualPositionManager.openPosition_filled
    (opened : openPosition signal order = some position) :
    ∃ fill, order.simulatedFill = some fill ∧ 0 < order.quantity ∧
      position.quantity = order.quantity ∧
      position.riskAmount = |fill - signal.stopLoss| * order.quantity := by
  unfold openPosition at opened
  split at opened
  · cases opened
  · split at opened
    · cases opened
    · next fill found filled =>
      rw [not_or, not_le] at filled
      rw [← Option.some.inj opened]
      exact ⟨fill, found, filled.2, rfl, rfl⟩

/-- The units of a position which is approved, filled and opened keep to the allowed
risk at the price of the signal. At the price of the fill their risk is beyond it by no
more than the allowance for each unit. -/
theorem openPosition_riskAmount_le {scored : ScoredSignal} {dataQuality : DataQualityReport}
    {state : ShadowRiskState} {currentRegime : Option MarketRegime}
    (simulated : ShadowExecutionSimulator.simulate config scored.signal
      (RiskManager.approve config scored dataQuality state currentRegime) snapshot now = .ok order)
    (opened : VirtualPositionManager.openPosition scored.signal order = some position) :
    position.quantity * |scored.signal.entryPrice - scored.signal.stopLoss| ≤ config.allowedRisk ∧
      position.riskAmount ≤ config.allowedRisk +
        position.quantity * fillAllowance config scored.signal snapshot := by
  obtain ⟨fill, found, positive, quantity, risk⟩ :=
    VirtualPositionManager.openPosition_filled opened
  obtain ⟨approved, approvedQuantity, near⟩ :=
    ShadowExecutionSimulator.simulate_filled simulated found
  have budgeted := (RiskManager.approve_budgeted approved).2
  rw [← approvedQuantity, ← quantity] at budgeted
  have units : (0 : ℚ) < position.quantity := by exact_mod_cast quantity.symm ▸ positive
  refine ⟨budgeted, ?_⟩
  calc position.riskAmount
      = position.quantity * |fill - scored.signal.stopLoss| := by rw [risk, quantity, mul_comm]
    _ ≤ position.quantity * (fillAllowance config scored.signal snapshot +
          |scored.signal.entryPrice - scored.signal.stopLoss|) :=
      mul_le_mul_of_nonneg_left ((abs_sub_le _ _ _).trans (add_le_add near le_rfl)) units.le
    _ ≤ config.allowedRisk + position.quantity * fillAllowance config scored.signal snapshot := by
      rw [mul_add, add_comm]
      exact add_le_add budgeted le_rfl

/-- The order of the breakout with its stop at 103, filled above its price. -/
def breakoutOrder : ShadowOrder where
  symbol := "RELIANCE"
  direction := .long
  expectedEntry := 104
  simulatedFill := some (104072 / 1000)
  quantity := 1250
  slippage := 52 / 1000
  spread := 4 / 100
  latencyMs := 250
  fillStatus := .filled
  timestamp := .utc 1778664600000000

/-- The position which it opens. -/
def breakoutPosition : VirtualPosition where
  symbol := "RELIANCE"
  market := .india
  direction := .long
  strategy := "BREAKOUT"
  regimeAtEntry := .strongBullish
  entryPrice := 104072 / 1000
  stopLoss := 103
  targetPrice := 107
  quantity := 1250
  riskAmount := 1340
  status := .open
  entryReason := ["opening_range_breakout", "price_above_vwap", "volume_confirmation"]
  openedAt := .utc 1778664600000000
  currentPrice := 104072 / 1000

theorem openPosition_riskAmount_le_breakout :
    breakoutPosition.quantity *
        |(validBreakout 103).signal.entryPrice - (validBreakout 103).signal.stopLoss| ≤
      ({} : IntradayShadowConfig).allowedRisk ∧
    breakoutPosition.riskAmount ≤ ({} : IntradayShadowConfig).allowedRisk +
      breakoutPosition.quantity * fillAllowance {} (validBreakout 103).signal relianceSnapshot := by
  have simulated : ShadowExecutionSimulator.simulate {} (validBreakout 103).signal
      (RiskManager.approve {} (validBreakout 103) ⟨true, []⟩ {} (some .strongBullish))
      relianceSnapshot (.utc 1778664600000000) = .ok breakoutOrder := by decide +kernel
  have opened : VirtualPositionManager.openPosition (validBreakout 103).signal breakoutOrder =
      some breakoutPosition := by decide +kernel
  exact openPosition_riskAmount_le simulated opened

/-- The fill of the breakout is 7.2 paise above its price, and risks 1340 where 1250
are allowed. -/
theorem filled_beyond_risk : ¬ ∀ (config : IntradayShadowConfig) (scored : ScoredSignal)
    (dataQuality : DataQualityReport) (state : ShadowRiskState)
    (currentRegime : Option MarketRegime) (snapshot : MarketDataSnapshot) (now : DateTime)
    (order : ShadowOrder) (position : VirtualPosition),
    ShadowExecutionSimulator.simulate config scored.signal
        (RiskManager.approve config scored dataQuality state currentRegime) snapshot now =
      .ok order →
    VirtualPositionManager.openPosition scored.signal order = some position →
      position.riskAmount ≤ config.capital * config.riskPerTradePercent := by
  intro within
  have risk := within {} (validBreakout 103) ⟨true, []⟩ {} (some .strongBullish) relianceSnapshot
    (.utc 1778664600000000) breakoutOrder breakoutPosition (by decide +kernel) (by decide +kernel)
  revert risk
  decide +kernel

end Fill

end AlphaAgent.Intraday
