import AlphaAgent.Intraday.Risk

/-!
# Virtual positions

`app/intraday/costs.py` and `app/intraday/positions.py`. The manager is the list
of all positions ever opened; a position keeps its place in it.
-/

namespace AlphaAgent.Intraday

structure CostBreakdown where
  brokerage : ℚ
  stt : ℚ
  exchangeCharges : ℚ
  gst : ℚ
  stampDuty : ℚ
  sebiCharges : ℚ
  slippageCost : ℚ
deriving DecidableEq

def CostBreakdown.total (costs : CostBreakdown) : ℚ :=
  costs.brokerage + costs.stt + costs.exchangeCharges + costs.gst + costs.stampDuty +
    costs.sebiCharges + costs.slippageCost

/-- `CostModel.calculate`. -/
def CostModel.calculate (buyValue sellValue : ℚ) (slippageCost : ℚ := 0) : CostBreakdown :=
  let turnover := buyValue + sellValue
  let brokerage := min 20 (3 / 10000 * buyValue) + min 20 (3 / 10000 * sellValue)
  let exchangeCharges := 325 / 10000000 * turnover
  let sebiCharges := 1 / 1000000 * turnover
  { brokerage := roundTo 4 brokerage
    stt := roundTo 4 (25 / 100000 * sellValue)
    exchangeCharges := roundTo 4 exchangeCharges
    gst := roundTo 4 (18 / 100 * (brokerage + exchangeCharges + sebiCharges))
    stampDuty := roundTo 4 (3 / 100000 * buyValue)
    sebiCharges := roundTo 4 sebiCharges
    slippageCost := roundTo 4 slippageCost }

namespace VirtualPosition

variable (position : VirtualPosition)

/-- `_gross_pnl`. -/
def grossPnlAt (price : ℚ) : ℚ :=
  match position.direction with
  | .long => (price - position.entryPrice) * position.quantity
  | .short => (position.entryPrice - price) * position.quantity

/-- The charges of a position which is closed at a price. -/
def chargesAt (price : ℚ) : ℚ :=
  match position.direction with
  | .long =>
    (CostModel.calculate (position.entryPrice * position.quantity)
      (price * position.quantity)).total
  | .short =>
    (CostModel.calculate (price * position.quantity)
      (position.entryPrice * position.quantity)).total

/-- The position valued at a price. -/
def valuedAt (price : ℚ) : VirtualPosition :=
  let gross := position.grossPnlAt price
  let charges := position.chargesAt price
  { position with
    currentPrice := price
    grossPnl := gross
    charges
    netPnl := gross - charges
    currentPnl := gross - charges }

/-- The position after `update_mark`. -/
def marked (price : ℚ) : VirtualPosition :=
  let valued := position.valuedAt price
  { valued with
    maxFavorableExcursion := max position.maxFavorableExcursion valued.grossPnl
    maxAdverseExcursion := min position.maxAdverseExcursion valued.grossPnl }

/-- The status under which an exit reason closes. -/
def closedStatus (exitReason : String) : VirtualPositionStatus :=
  if exitReason = "STOP_LOSS" then .stoppedOut
  else if exitReason = "TARGET_HIT" then .targetHit
  else if exitReason = "END_OF_DAY" then .forceClosed
  else if exitReason = "INVALIDATED" then .invalidated
  else .exited

/-- The position after `close_position`. -/
def closedAs (exitPrice : ℚ) (exitReason : String) (timestamp : DateTime) : VirtualPosition :=
  { position.valuedAt exitPrice with
    exitReason := some exitReason
    closedAt := some timestamp
    status := closedStatus exitReason }

@[simp] theorem closedAs_isOpen (exitPrice : ℚ) (exitReason : String) (timestamp : DateTime) :
    (position.closedAs exitPrice exitReason timestamp).isOpen = false := by
  have left : closedStatus exitReason ≠ .open := by
    unfold closedStatus
    split_ifs <;> decide
  exact decide_eq_false left

end VirtualPosition

namespace VirtualPositionManager

/-- `open_position`: a filled order opens one position. -/
def openPosition (signal : Signal) (order : ShadowOrder) : Option VirtualPosition :=
  match order.simulatedFill with
  | none => none
  | some fill =>
    if order.fillStatus ≠ .filled ∨ order.quantity ≤ 0 then none
    else
      some
        { symbol := signal.symbol
          market := signal.market
          direction := signal.direction
          strategy := signal.strategyName
          regimeAtEntry := signal.regimeAtSignal
          entryPrice := fill
          stopLoss := signal.stopLoss
          targetPrice := signal.targetPrice
          quantity := order.quantity
          riskAmount := |fill - signal.stopLoss| * order.quantity
          status := .open
          entryReason := signal.reasonCodes
          openedAt := order.timestamp
          currentPrice := fill }

/-- What `open_position` returns, it returns open. -/
theorem openPosition_isOpen {signal : Signal} {order : ShadowOrder} {position : VirtualPosition}
    (opened : openPosition signal order = some position) : position.isOpen = true := by
  unfold openPosition at opened
  split at opened
  · cases opened
  · split at opened
    · cases opened
    · rw [← Option.some.inj opened]
      rfl

/-- Replace the position in a place, which raises where there is none. -/
def update (positions : List VirtualPosition) (place : ℕ)
    (change : VirtualPosition → VirtualPosition) : Except RaisedError (List VirtualPosition) :=
  if place < positions.length then .ok (positions.modify place change)
  else .error (.keyError "position_id")

def updateMark (positions : List VirtualPosition) (place : ℕ) (snapshot : MarketDataSnapshot) :
    Except RaisedError (List VirtualPosition) :=
  update positions place (·.marked snapshot.lastPrice)

def closePosition (positions : List VirtualPosition) (place : ℕ) (exitPrice : ℚ)
    (exitReason : String) (timestamp : DateTime) : Except RaisedError (List VirtualPosition) :=
  update positions place (·.closedAs exitPrice exitReason timestamp)

end VirtualPositionManager
end AlphaAgent.Intraday
