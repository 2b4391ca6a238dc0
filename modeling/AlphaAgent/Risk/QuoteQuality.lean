import AlphaAgent.Schemas.Risk

/-!
# Quote quality checks

`liquidity.py` and `slippage.py`: the checks on the quote metrics which come
with a candidate. A metric is looked up under several names; the first name
with a value decides, and a negative value reads as missing.
-/

namespace AlphaAgent.Risk

open Foundation

/-- Quote metrics; a key can be bound to no value. -/
abbrev QuoteMetrics := Dict String (Option ℚ)

def metric (quoteMetrics : QuoteMetrics) (keys : List String) : Option ℚ :=
  match keys.findSome? fun key => (quoteMetrics.get? key).join with
  | none => none
  | some numeric => if numeric < 0 then none else some numeric

/-- `value or fallback` on a number: a missing value and zero give the fallback. -/
def orElse (value : Option ℚ) (fallback : ℚ) : ℚ :=
  match value with
  | none => fallback
  | some numeric => if numeric = 0 then fallback else numeric

/-- Whether a risk flag is set, whatever its case. -/
def hasFlag (candidate : TradeCandidate) (flag : String) : Bool :=
  (candidate.riskFlags.map String.toLower).contains flag

def notionalInr (candidate : TradeCandidate) (quoteMetrics : QuoteMetrics)
    (averageDailyVolume : Option ℚ) : Option ℚ :=
  match metric quoteMetrics
      ["average_daily_notional_inr", "avg_daily_notional_inr", "notional_inr"] with
  | some configured => some configured
  | none =>
    match averageDailyVolume with
    | none => none
    | some averageDailyVolume =>
      let price := orElse (metric quoteMetrics ["last_price", "close", "mid_price"])
        candidate.entryPrice
      let fxRate :=
        if candidate.market = .us then orElse (metric quoteMetrics ["fx_rate", "usd_inr"]) 0 else 1
      if price ≤ 0 ∨ fxRate ≤ 0 then none else some (price * averageDailyVolume * fxRate)

def liquidityRejectionReason (candidate : TradeCandidate) (settings : Settings)
    (quoteMetrics : Option QuoteMetrics) (requireQuoteMetrics : Bool) : Option String :=
  if hasFlag candidate "illiquid" then some "liquidity_check_failed"
  else
    match quoteMetrics with
    | none => if requireQuoteMetrics then some "liquidity_metrics_missing" else none
    | some quoteMetrics =>
      let intradayVolume := metric quoteMetrics ["volume", "intraday_volume"]
      let averageDailyVolume := metric quoteMetrics ["average_daily_volume", "avg_daily_volume"]
      if intradayVolume = none ∧ averageDailyVolume = none then
        if requireQuoteMetrics then some "liquidity_volume_missing" else none
      else if intradayVolume.any (· < (settings.minLiveIntradayVolume : ℚ)) then
        some "intraday_volume_too_low"
      else if averageDailyVolume.any (· < (settings.minLiveAverageDailyVolume : ℚ)) then
        some "average_daily_volume_too_low"
      else
        match notionalInr candidate quoteMetrics averageDailyVolume with
        | none => if requireQuoteMetrics then some "liquidity_notional_missing" else none
        | some notional =>
          if notional < settings.minLiveAverageDailyNotionalInr then
            some "average_daily_notional_too_low"
          else none

def spreadPct (quoteMetrics : QuoteMetrics) : Option ℚ :=
  match metric quoteMetrics ["spread_pct", "bid_ask_spread_pct"] with
  | some configured => some configured
  | none =>
    match metric quoteMetrics ["spread_bps", "bid_ask_spread_bps"] with
    | some spreadBps => some (spreadBps / 10000)
    | none =>
      match metric quoteMetrics ["bid", "best_bid"], metric quoteMetrics ["ask", "best_ask"] with
      | some bid, some ask =>
        if bid ≤ 0 ∨ ask ≤ 0 ∨ ask < bid then none
        else
          let mid := (bid + ask) / 2
          if mid ≤ 0 then none else some ((ask - bid) / mid)
      | _, _ => none

def slippageRejectionReason (candidate : TradeCandidate) (settings : Settings)
    (quoteMetrics : Option QuoteMetrics) (requireQuoteMetrics : Bool) : Option String :=
  if hasFlag candidate "high_slippage" then some "slippage_check_failed"
  else
    match quoteMetrics with
    | none => if requireQuoteMetrics then some "slippage_metrics_missing" else none
    | some quoteMetrics =>
      match spreadPct quoteMetrics with
      | none => if requireQuoteMetrics then some "bid_ask_spread_missing" else none
      | some spread =>
        if spread > settings.maxLiveBidAskSpreadPct then some "bid_ask_spread_too_wide"
        else if (metric quoteMetrics
            ["estimated_slippage_pct", "expected_slippage_pct", "slippage_pct"]).any
              (· > settings.maxLiveEstimatedSlippagePct.val) then
          some "estimated_slippage_too_high"
        else none

end AlphaAgent.Risk
