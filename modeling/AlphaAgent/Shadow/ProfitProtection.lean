import AlphaAgent.Shadow.Tables

/-!
# The profit protection report

`app/services/profit_protection_service.py` on the samples of one market, symbol
and local day: where the path stands, how much of its peak was given back, and
which shadow exit the report recommends. Texts, votes and the order of the
decisions in a summary are left out.
-/

namespace AlphaAgent.Shadow

/-- What `_recommended_exit` can return. -/
inductive RecommendedExit where
  | exitStopLoss
  | exitTakeProfit
  | exitProfitBooking
  | exitProfitGiveback
  | protectProfit
  | missedProfitReview
  | holdWinner
  | watchLoser
  | wait
deriving DecidableEq, Repr

def RecommendedExit.value : RecommendedExit → String
  | exitStopLoss => "EXIT_STOP_LOSS"
  | exitTakeProfit => "EXIT_TAKE_PROFIT"
  | exitProfitBooking => "EXIT_PROFIT_BOOKING"
  | exitProfitGiveback => "EXIT_PROFIT_GIVEBACK"
  | protectProfit => "PROTECT_PROFIT"
  | missedProfitReview => "MISSED_PROFIT_REVIEW"
  | holdWinner => "HOLD_WINNER"
  | watchLoser => "WATCH_LOSER"
  | wait => "WAIT"

/-- `ProfitProtectionDecision`. -/
structure ProfitProtectionDecision where
  market : Market
  symbol : String
  reviewDate : Day
  openedAt : ℤ
  latestAt : ℤ
  peakAt : ℤ
  entryPrice : ℚ
  latestPrice : ℚ
  peakPrice : ℚ
  quantity : ℤ
  notionalInr : ℚ
  currentPnlInr : ℚ
  currentPnlPct : ℚ
  peakPnlInr : ℚ
  peakPnlPct : ℚ
  givebackInr : ℚ
  givebackPctOfPeak : ℚ
  targetProgress : Option ℚ
  stopLoss : Option ℚ
  takeProfit : Option ℚ
  stopTouched : Bool
  targetTouched : Bool
  recommendedShadowExit : RecommendedExit
deriving DecidableEq

namespace ProfitProtection

/-- `_recommended_exit`. -/
def recommendedExit (stopTouched targetTouched givebackExit proactiveProfitBooking
    canLockProfit : Bool) (currentPnl peakPnl : ℚ) : RecommendedExit :=
  if stopTouched then .exitStopLoss
  else if targetTouched then .exitTakeProfit
  else if proactiveProfitBooking then .exitProfitBooking
  else if givebackExit then .exitProfitGiveback
  else if canLockProfit ∧ 0 < currentPnl then .protectProfit
  else if 0 < peakPnl ∧ currentPnl ≤ 0 then .missedProfitReview
  else if 0 < currentPnl then .holdWinner
  else if currentPnl < 0 then .watchLoser
  else .wait

/-- `_profit_booking_triggered`, which repeats the one of the exit service. -/
def profitBookingTriggered (settings : ShadowSettings) (currentPnl currentPnlPct : ℚ)
    (targetProgress : Option ℚ) : Bool :=
  Shadow.profitBookingTriggered settings currentPnl currentPnlPct targetProgress

/-- `_target_progress`. -/
def targetProgress (entryPrice latestPrice : ℚ) (takeProfit : Option ℚ) : Option ℚ :=
  takeProfit.bind fun takeProfit =>
    if entryPrice ≤ 0 ∨ takeProfit ≤ entryPrice then none
    else some ((latestPrice - entryPrice) / (takeProfit - entryPrice))

section Decision

variable (settings : ShadowSettings)

/-- The profit is one which a lock could protect. -/
def canLockProfit (peak : ShadowTrainingSample) : Bool :=
  decide (settings.intradayMinProfitLockInr ≤ peak.hypotheticalPnlInr) ||
    decide (settings.intradayMinProfitLockPct ≤ peak.hypotheticalPnlPct)

/-- `_decision_from_group` on its samples by time. Every sample is stored with
the assessment of its entry, so the one of the latest sample is never missing. -/
def decisionOf (reviewDate : Day) (market : Market) (symbol : String)
    (first : ShadowTrainingSample) (rest : List ShadowTrainingSample) : ProfitProtectionDecision :=
  let ordered := first :: rest
  let latest := rest.getLastD first
  let peak := peakSample first rest
  let stopLoss := latest.metadataJson.assessment.stopLoss
  let takeProfit := latest.metadataJson.assessment.takeProfit
  let stopTouched := ordered.any fun sample =>
    stopLoss.any fun stopLoss => decide (0 < stopLoss) && decide (sample.currentPrice ≤ stopLoss)
  let targetTouched := ordered.any fun sample =>
    takeProfit.any fun takeProfit =>
      decide (0 < takeProfit) && decide (takeProfit ≤ sample.currentPrice)
  let currentPnl := latest.hypotheticalPnlInr
  let peakPnl := peak.hypotheticalPnlInr
  let giveback := max (peakPnl - currentPnl) 0
  let givebackPct := if 0 < peakPnl then giveback / peakPnl else 0
  let progress := targetProgress first.entryPrice latest.currentPrice takeProfit
  let canLock := canLockProfit settings peak
  let givebackExit := canLock && decide (0 < peakPnl) &&
    decide (settings.intradayProfitGivebackExitPct ≤ givebackPct)
  let proactiveProfitBooking :=
    profitBookingTriggered settings currentPnl latest.hypotheticalPnlPct progress
  { market
    symbol
    reviewDate
    openedAt := first.sampleAt
    latestAt := latest.sampleAt
    peakAt := peak.sampleAt
    entryPrice := first.entryPrice
    latestPrice := latest.currentPrice
    peakPrice := peak.currentPrice
    quantity := latest.hypotheticalQuantity
    notionalInr := latest.hypotheticalNotionalInr
    currentPnlInr := currentPnl
    currentPnlPct := latest.hypotheticalPnlPct
    peakPnlInr := peakPnl
    peakPnlPct := peak.hypotheticalPnlPct
    givebackInr := giveback
    givebackPctOfPeak := givebackPct
    targetProgress := progress
    stopLoss
    takeProfit
    stopTouched
    targetTouched
    recommendedShadowExit := recommendedExit stopTouched targetTouched givebackExit
      proactiveProfitBooking canLock currentPnl peakPnl }

/-- `sorted(..., key=sample_at)`. -/
def byTime (samples : List ShadowTrainingSample) : List ShadowTrainingSample :=
  samples.insertionSort fun first second => first.sampleAt ≤ second.sampleAt

/-- `_decision_from_group`. -/
def decisionFromGroup (reviewDate : Day) (market : Market) (symbol : String)
    (group : List ShadowTrainingSample) : Option ProfitProtectionDecision :=
  match byTime group with
  | [] => none
  | first :: rest => some (decisionOf settings reviewDate market symbol first rest)

/-- The key under which `analyze_samples` groups a sample. -/
def groupKey (days : MarketDays) (sample : ShadowTrainingSample) : Day × Market × String :=
  (days.zones.localDay sample.market sample.sampleAt, sample.market, sample.symbol)

/-- The samples of one key. -/
def groupOf (days : MarketDays) (samples : List ShadowTrainingSample)
    (key : Day × Market × String) : List ShadowTrainingSample :=
  samples.filter fun sample => groupKey days sample = key

/-- `recommended_shadow_exit` of a day, market and symbol, where it has samples. -/
def recommendedFor (days : MarketDays) (samples : List ShadowTrainingSample) (day : Day)
    (market : Market) (symbol : String) : Option RecommendedExit :=
  (decisionFromGroup settings day market symbol (groupOf days samples (day, market, symbol))).map
    ProfitProtectionDecision.recommendedShadowExit

end Decision
end ProfitProtection
end AlphaAgent.Shadow
