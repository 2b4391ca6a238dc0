import AlphaAgent.Shadow.Models
import Mathlib.Data.Rat.Floor

/-!
# Exit decisions for a shadow observation

`app/services/shadow_exit_service.py` and the pure parts of the training
service: the size of a hypothesis, the exit rules and the profit path.
-/

namespace AlphaAgent.Shadow

/-- `ShadowExitDecision`, with the two numbers which a profit path adds. -/
structure ShadowExitDecision where
  action : ExitAction
  progressToTarget : Option ℚ := none
  progressToStop : Option ℚ := none
  peakPnlInr : Option ℚ := none
  givebackInr : Option ℚ := none
deriving DecidableEq

/-- `_safe_ratio`. -/
def safeRatio (numerator denominator : ℚ) : Option ℚ :=
  if denominator ≤ 0 then none else some (numerator / denominator)

/-- `_profit_booking_triggered`. -/
def profitBookingTriggered (settings : ShadowSettings) (currentPnl currentPnlPct : ℚ)
    (progressToTarget : Option ℚ) : Bool :=
  settings.intradayProfitBookingEnabled && decide (0 < currentPnl) &&
    progressToTarget.any fun progress =>
      (decide (settings.intradayProfitBookingMinPnlInr ≤ currentPnl) ||
        decide (settings.intradayProfitBookingMinPnlPct ≤ currentPnlPct)) &&
      decide (settings.intradayProfitBookingTargetProgressPct ≤ progress)

/-- `ShadowExitService.evaluate_observation`. -/
def evaluateObservation (settings : ShadowSettings) (observation : ShadowObservation) :
    ShadowExitDecision :=
  let assessment := observation.metadataJson.entryAssessment
  let entry := observation.entryPrice
  let current := observation.currentPrice
  if entry ≤ 0 ∨ current ≤ 0 then { action := .noExitLevels }
  else if observation.hypotheticalQuantity ≤ 0 then { action := .noPositionSize }
  else
    match assessment.stopLoss, assessment.takeProfit with
    | some stopLoss, some takeProfit =>
      if stopLoss ≤ 0 ∨ takeProfit ≤ 0 then { action := .noExitLevels }
      else
        let progressToTarget := safeRatio (current - entry) (max (takeProfit - entry) 0)
        let progressToStop := safeRatio (entry - current) (max (entry - stopLoss) 0)
        let decision (action : ExitAction) : ShadowExitDecision :=
          { action, progressToTarget, progressToStop }
        let currentPnl := observation.hypotheticalPnlInr
        let currentNotional := observation.hypotheticalNotionalInr
        let currentPnlPct := if 0 < currentNotional then currentPnl / currentNotional else 0
        if current ≤ stopLoss then decision .exitStopLoss
        else if takeProfit ≤ current then decision .exitTakeProfit
        else if profitBookingTriggered settings currentPnl currentPnlPct progressToTarget then
          decision .exitProfitBooking
        else if progressToTarget.any (settings.intradayExitProfitLockPct ≤ ·) then
          decision .lockProfitOrTrail
        else if progressToStop.any (settings.intradayExitLossWatchPct ≤ ·) then
          decision .watchStopClosely
        else if entry < current then decision .holdWinner
        else if current < entry then decision .holdWithStop
        else decision .waitForMove
    | _, _ => { action := .noExitLevels }

/-- The actions which close an observation on a mark. -/
def closeActions : List ExitAction :=
  [.exitStopLoss, .exitTakeProfit, .exitProfitBooking, .exitProfitGiveback]

/-- `_closed_status`. -/
def closedStatus : ExitAction → ClosedStatus
  | .exitStopLoss => .stopLoss
  | .exitTakeProfit => .takeProfit
  | .exitProfitBooking => .profitBooked
  | .exitProfitGiveback => .profitGiveback
  | .exitSessionClose => .sessionClose
  | _ => .exit

/-- `max(samples, key=...)`: the first of the samples with the largest PnL. -/
def peakSample (first : ShadowTrainingSample) : List ShadowTrainingSample → ShadowTrainingSample
  | [] => first
  | sample :: rest =>
    peakSample (if first.hypotheticalPnlInr < sample.hypotheticalPnlInr then sample else first) rest

/-- `_profit_path_exit_decision`, on the samples of the observation by time. -/
def profitPathExitDecision (settings : ShadowSettings) (observation : ShadowObservation)
    (samples : List ShadowTrainingSample) : Option ShadowExitDecision :=
  match samples with
  | first :: second :: rest =>
    let peak := peakSample first (second :: rest)
    let peakPnl := peak.hypotheticalPnlInr
    let giveback := max (peakPnl - observation.hypotheticalPnlInr) 0
    let givebackPct := if 0 < peakPnl then giveback / peakPnl else 0
    if (settings.intradayMinProfitLockInr ≤ peakPnl ∨
          settings.intradayMinProfitLockPct ≤ peak.hypotheticalPnlPct) ∧
        0 < peakPnl ∧ settings.intradayProfitGivebackExitPct ≤ givebackPct then
      some { action := .exitProfitGiveback
             peakPnlInr := some peakPnl
             givebackInr := some giveback }
    else none
  | _ => none

/-- `_shadow_size`: whole shares for the budget, and what they cost. -/
def shadowSize (settings : ShadowSettings) (entryPrice fxRate : ℚ) : ℤ × ℚ :=
  let priceInr := entryPrice * fxRate
  let quantity := if 0 < priceInr then ⌊settings.shadowHypothesisNotionalInr / priceInr⌋ else 0
  (quantity, quantity * entryPrice * fxRate)

end AlphaAgent.Shadow
