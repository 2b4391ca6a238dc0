import AlphaAgent.Core.Json
import AlphaAgent.Intraday.Models
import AlphaAgent.Shadow.Models

/-!
# The conservative shadow strategy

`app/strategies/conservative_shadow.py` and `_extract_last_price`. What a quote
says is parsed leniently by the strategy, which so raises nothing, and strictly
where the last price is extracted. The metrics are read by nothing here.
-/

namespace AlphaAgent.Shadow

open Intraday (roundTo)

/-- The first entry of `data` in a quote, where it is a mapping. -/
def firstQuotePayload (quote : Mapping) : Option Mapping :=
  match quote.get "data" with
  | .object ((_, .object payload) :: _) => some payload
  | _ => none

/-- `_extract_last_price`. -/
def extractLastPrice (quote : Mapping) : Except RaisedError (Option ℚ) :=
  match firstQuotePayload quote with
  | none => .ok none
  | some payload =>
    match payload.get "last_price" with
    | .null => .ok none
    | price => price.toFloat.map some

namespace ConservativeShadowStrategy

def minConfidence : ℚ := 65 / 100
def minRewardRiskRatio : ℚ := 18 / 10
def minRangePct : ℚ := 25 / 10000
def maxRangePct : ℚ := 45 / 1000
def maxAdverseGapPct : ℚ := -3 / 100
def minStopPct : ℚ := 8 / 1000
def maxStopPct : ℚ := 3 / 100
def stopRangeMultiplier : ℚ := 15 / 10
def rewardMultiple : ℚ := 2

/-- `_positive_float`. -/
def positiveFloat (value : Json) : Option ℚ :=
  match value.toFloat with
  | .ok parsed => if 0 < parsed then some parsed else none
  | .error _ => none

/-- `ConservativeSignalAssessment`. -/
structure SignalAssessment extends Assessment where
  confidence : ℚ
  expectedRisk : ℚ
  expectedReward : ℚ
  rewardRiskRatio : ℚ
  reasons : List String
  riskFlags : List String
deriving DecidableEq

/-- `_no_trade`. -/
def noTrade (riskFlags : List String) : SignalAssessment where
  action := .noTrade
  confidence := 0
  stopLoss := none
  takeProfit := none
  expectedRisk := 0
  expectedReward := 0
  rewardRiskRatio := 0
  reasons := ["insufficient_quality_for_trade_candidate"]
  riskFlags

/-- The flags of `_has_hard_blocker`. -/
def hardBlockers : List String :=
  ["insufficient_ohlc_for_strategy", "price_not_above_session_open", "price_not_above_prior_close",
    "price_below_average_traded_price", "session_range_outside_risk_band", "adverse_gap_too_large",
    "reward_risk_below_threshold"]

/-- One part of the score: it passes for a reason, or leaves a flag. -/
structure Criterion where
  passes : Bool
  weight : ℚ
  reason : String
  flag : String

/-- The flag of the average price, which can be missing. -/
def averageFlag (averagePrice : Option ℚ) : String :=
  if averagePrice.isSome then "price_below_average_traded_price" else "average_price_missing"

/-- The assessment of positive prices. -/
def assessPrices (lastPrice openPrice highPrice lowPrice closePrice : ℚ)
    (averagePrice volume : Option ℚ) : SignalAssessment :=
  let sessionRange := max (highPrice - lowPrice) 0
  let trueRangeProxy := max
    (max (max sessionRange |highPrice - closePrice|) |lowPrice - closePrice|)
    (lastPrice * minStopPct)
  let rangePct := sessionRange / lastPrice
  let gapPct := (openPrice - closePrice) / closePrice
  let stopPct := min (max (trueRangeProxy * stopRangeMultiplier / lastPrice) minStopPct) maxStopPct
  let stopLoss := roundTo 2 (lastPrice * (1 - stopPct))
  let expectedRisk := roundTo 4 (lastPrice - stopLoss)
  let takeProfit := roundTo 2 (lastPrice + expectedRisk * rewardMultiple)
  let expectedReward := roundTo 4 (takeProfit - lastPrice)
  let rewardRiskRatio := if 0 < expectedRisk then roundTo 4 (expectedReward / expectedRisk) else 0
  let criteria : List Criterion :=
    [⟨openPrice < lastPrice, 14 / 100, "price_above_session_open", "price_not_above_session_open"⟩,
      ⟨closePrice < lastPrice, 14 / 100, "price_above_prior_close", "price_not_above_prior_close"⟩,
      ⟨averagePrice.any (· ≤ lastPrice), 12 / 100, "price_above_average_traded_price",
        averageFlag averagePrice⟩,
      ⟨minRangePct ≤ rangePct && rangePct ≤ maxRangePct, 10 / 100,
        "session_range_inside_risk_band", "session_range_outside_risk_band"⟩,
      ⟨maxAdverseGapPct ≤ gapPct, 7 / 100, "gap_risk_inside_limit", "adverse_gap_too_large"⟩,
      ⟨volume.isSome, 5 / 100, "volume_present", "volume_missing"⟩,
      ⟨minRewardRiskRatio ≤ rewardRiskRatio, 3 / 100, "reward_risk_meets_threshold",
        "reward_risk_below_threshold"⟩]
  let score := 35 / 100 + ((criteria.filter (·.passes)).map (·.weight)).sum
  let reasons := (criteria.filter (·.passes)).map (·.reason)
  let riskFlags := "observation_only_no_order_intent" ::
    (criteria.filter (!·.passes)).map (·.flag)
  let confidence := roundTo 4 (min score (82 / 100))
  let buys : Bool := minConfidence ≤ confidence && minRewardRiskRatio ≤ rewardRiskRatio &&
    !riskFlags.any (· ∈ hardBlockers)
  { action := if buys then .buy else .noTrade
    confidence
    stopLoss := some stopLoss
    takeProfit := some takeProfit
    expectedRisk
    expectedReward
    rewardRiskRatio
    reasons := if buys then reasons
      else reasons ++ ["quality_filter_did_not_clear_buy_threshold"]
    riskFlags }

/-- `assess`. -/
def assess (quote : Mapping) (lastPrice : Option ℚ) : SignalAssessment :=
  match lastPrice with
  | none => noTrade ["last_price_missing"]
  | some lastPrice =>
    if lastPrice ≤ 0 then noTrade ["last_price_missing"]
    else
      let payload := (firstQuotePayload quote).getD []
      let ohlc : Mapping := match payload.get "ohlc" with
        | .object fields => fields
        | _ => []
      match positiveFloat (ohlc.get "open"), positiveFloat (ohlc.get "high"),
          positiveFloat (ohlc.get "low"), positiveFloat (ohlc.get "close") with
      | some openPrice, some highPrice, some lowPrice, some closePrice =>
        assessPrices lastPrice openPrice highPrice lowPrice closePrice
          (positiveFloat (payload.get "average_price")) (positiveFloat (payload.get "volume"))
      | _, _, _, _ => noTrade ["observation_only_no_order_intent", "insufficient_ohlc_for_strategy"]

end ConservativeShadowStrategy

/-- What a round knows of its quote: the last price, and how the strategy assesses it. -/
def assessedQuote (latest : Except RaisedError Mapping) :
    Except RaisedError (Option ℚ × Assessment) := do
  let quote ← latest
  let lastPrice ← extractLastPrice quote
  return (lastPrice, (ConservativeShadowStrategy.assess quote lastPrice).toAssessment)

end AlphaAgent.Shadow
