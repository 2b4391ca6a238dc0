import AlphaAgent.Foundation.SortedGroups
import AlphaAgent.Shadow.PathExits
import Mathlib.Data.Prod.Lex
import Mathlib.Data.String.Basic

/-!
# The summary of profit protection

`ProfitProtectionService.summary`: the samples of a query are grouped by local day,
market and symbol, each group has a decision, the decisions of the latest days are kept,
and those of the latest day are counted and added up. The constant texts, the votes and
the copies of the settings in the summary are left out.
-/

namespace AlphaAgent.Shadow

open Foundation

/-- The third text of `_recommended_exit`. -/
inductive Urgency where
  | high
  | medium
  | low
deriving DecidableEq, Repr

namespace Urgency

def value : Urgency → String
  | high => "HIGH"
  | medium => "MEDIUM"
  | low => "LOW"

/-- `_urgency_rank`. -/
def rank : Urgency → ℕ
  | high => 3
  | medium => 2
  | low => 1

end Urgency

namespace RecommendedExit

def label : RecommendedExit → String
  | exitStopLoss => "Cut loss"
  | exitTakeProfit => "Take profit"
  | exitProfitBooking => "Book profit"
  | exitProfitGiveback => "Exit on giveback"
  | protectProfit => "Protect profit"
  | missedProfitReview => "Study missed profit"
  | holdWinner => "Hold winner"
  | watchLoser => "Watch loser"
  | wait => "Wait"

def urgency : RecommendedExit → Urgency
  | exitStopLoss | exitTakeProfit | exitProfitBooking | exitProfitGiveback => .high
  | protectProfit | missedProfitReview => .medium
  | holdWinner | watchLoser | wait => .low

/-- The exits of which the summary alerts. -/
def isAlert : RecommendedExit → Bool
  | exitProfitGiveback | exitProfitBooking | exitTakeProfit | exitStopLoss | protectProfit => true
  | _ => false

/-- The exits which book a profit, where there is one. -/
def booksProfit : RecommendedExit → Bool
  | exitTakeProfit | exitProfitGiveback | exitProfitBooking => true
  | _ => false

end RecommendedExit

namespace ProfitProtection

section Analysis

variable (settings : ShadowSettings) (days : MarketDays) (limitDays : ℕ)

/-- The groups of `analyze_samples`, in the order of their first samples. -/
def grouped (samples : List ShadowTrainingSample) :
    Dict (Day × Market × String) (List ShadowTrainingSample) :=
  Dict.collect (groupKey days) (fun group sample => group.getD [] ++ [sample]) samples

/-- What the decisions are sorted by; the urgencies are compared as texts. -/
def decisionOrder (decision : ProfitProtectionDecision) : Day ×ₗ String ×ₗ ℚ :=
  toLex (decision.reviewDate, toLex (decision.recommendedShadowExit.urgency.value,
    decision.givebackInr))

/-- The dates of decisions, from the latest to the earliest. -/
def reviewDates (decisions : List ProfitProtectionDecision) : List Day :=
  descending id (decisions.map (·.reviewDate)).dedup

/-- `analyze_samples`. -/
def analyzeSamples (samples : List ShadowTrainingSample) : List ProfitProtectionDecision :=
  let decisions := (grouped days samples).entries.filterMap fun entry =>
    decisionFromGroup settings entry.1.1 entry.1.2.1 entry.1.2.2 entry.2
  let ordered := descending decisionOrder decisions
  let allowedDates := (reviewDates ordered).take limitDays
  ordered.filter fun decision => decision.reviewDate ∈ allowedDates

/-- The earliest time of a sample which the query of `summary` reads. -/
def sampleCutoff (now : ℤ) : ℤ := now - (limitDays + 2) * microsecondsPerDay

/-- The rows of the query of `summary`, by their time. -/
def sampleRows (now : ℤ) (table : List ShadowTrainingSample) : List ShadowTrainingSample :=
  byTime (table.filter (sampleCutoff limitDays now ≤ ·.sampleAt))

end Analysis

section Summary

/-- `shadow_profit_booking` of the summary. -/
structure ShadowProfitBooking where
  bookedProfitCount : ℕ
  bookedProfitPnlInr : ℚ
  bookedLossCount : ℕ
  bookedLossPnlInr : ℚ
  bookedProfitRows : List ProfitProtectionDecision
  bookedLossRows : List ProfitProtectionDecision

/-- What `_summary_from_decisions` returns. -/
structure ProtectionSummary where
  lookbackDays : ℕ
  latestDay : Option Day
  currentTotalPnlInr : ℚ
  bestObservedTotalPnlInr : ℚ
  givebackFromBestObservedInr : ℚ
  givebackPctOfBestObserved : ℚ
  alertsCount : ℕ
  highUrgencyCount : ℕ
  shadowProfitBooking : ShadowProfitBooking
  decisionsToday : List ProfitProtectionDecision
  alerts : List ProfitProtectionDecision

/-- What the alerts are sorted by. -/
def alertOrder (decision : ProfitProtectionDecision) : ℕ ×ₗ ℚ :=
  toLex (decision.recommendedShadowExit.urgency.rank, decision.givebackInr)

/-- `_latest_date`. -/
def latestDate (decisions : List ProfitProtectionDecision) : Option Day :=
  (reviewDates decisions).head?

/-- `shadow_profit_booking`; losses are sorted from the greatest. -/
def profitBooking (todayDecisions : List ProfitProtectionDecision) : ShadowProfitBooking :=
  let bookedProfit := descending (·.currentPnlInr) (todayDecisions.filter fun decision =>
    decision.recommendedShadowExit.booksProfit && decide (0 < decision.currentPnlInr))
  let bookedLoss := descending (fun decision => -decision.currentPnlInr)
    (todayDecisions.filter fun decision => decision.recommendedShadowExit = .exitStopLoss)
  { bookedProfitCount := bookedProfit.length
    bookedProfitPnlInr := (bookedProfit.map (·.currentPnlInr)).sum
    bookedLossCount := bookedLoss.length
    bookedLossPnlInr := (bookedLoss.map (·.currentPnlInr)).sum
    bookedProfitRows := bookedProfit.take 20
    bookedLossRows := bookedLoss.take 20 }

/-- `_summary_from_decisions`. -/
def summaryFromDecisions (limitDays : ℕ) (decisions : List ProfitProtectionDecision) :
    ProtectionSummary :=
  let today := latestDate decisions
  let todayDecisions := decisions.filter fun decision => some decision.reviewDate = today
  let currentTotal := (todayDecisions.map (·.currentPnlInr)).sum
  let bestObservedTotal :=
    (todayDecisions.map fun decision => max decision.peakPnlInr decision.currentPnlInr).sum
  let givebackTotal := max (bestObservedTotal - currentTotal) 0
  let alerts := descending alertOrder (todayDecisions.filter (·.recommendedShadowExit.isAlert))
  { lookbackDays := limitDays
    latestDay := today
    currentTotalPnlInr := currentTotal
    bestObservedTotalPnlInr := bestObservedTotal
    givebackFromBestObservedInr := givebackTotal
    givebackPctOfBestObserved :=
      if 0 < bestObservedTotal then givebackTotal / bestObservedTotal else 0
    alertsCount := alerts.length
    highUrgencyCount := (alerts.filter (·.recommendedShadowExit.urgency = .high)).length
    shadowProfitBooking := profitBooking todayDecisions
    decisionsToday := todayDecisions
    alerts := alerts.take 20 }

/-- `summary`, at a reading of the clock. -/
def summary (settings : ShadowSettings) (days : MarketDays) (limitDays : ℕ) (now : ℤ)
    (table : List ShadowTrainingSample) : ProtectionSummary :=
  summaryFromDecisions limitDays
    (analyzeSamples settings days limitDays (sampleRows limitDays now table))

end Summary
end ProfitProtection
end AlphaAgent.Shadow
