import AlphaAgent.Intraday.Models
import AlphaAgent.Paper.Models
import AlphaAgent.Risk.Checks
import Mathlib.Data.List.Sort

/-!
# Judging a snapshot

`DataQualityMonitor.check`, `MarketRegimeClassifier.classify` and
`UniverseFilter.check`. Their metrics are reported but read by nothing, so they
are left out.
-/

namespace AlphaAgent.Intraday

open Paper Risk

/-- The order which `sorted(..., key=timestamp)` sorts by. -/
def earlier (first second : Candle) : Prop := first.timestamp.instant ≤ second.timestamp.instant

instance : DecidableRel earlier := fun first second =>
  inferInstanceAs (Decidable (first.timestamp.instant ≤ second.timestamp.instant))

/-- Whether two neighbours are further apart than one and a half candles. -/
def hasGap (expectedSeconds : ℤ) : List Candle → Bool
  | previous :: current :: rest =>
    expectedSeconds * 1500000 < current.timestamp.instant - previous.timestamp.instant ||
      hasGap expectedSeconds (current :: rest)
  | _ => false

/-- `_has_missing_candles`. Sorting compares a naive with an aware timestamp
whenever both occur, which raises. -/
def hasMissingCandles (candles : List Candle) (expectedSeconds : ℤ) : Except RaisedError Bool :=
  if ¬candles.all (·.timestamp.isAware) ∧ ¬candles.all (!·.timestamp.isAware) then
    .error (.typeError "can't compare offset-naive and offset-aware datetimes")
  else .ok (hasGap expectedSeconds (candles.insertionSort earlier))

/-- `DataQualityMonitor.check` at a reading of the UTC clock. -/
def DataQualityMonitor.check (config : IntradayShadowConfig) (snapshot : MarketDataSnapshot)
    (checkedAt : DateTime) : Except RaisedError DataQualityReport := do
  if !snapshot.timestamp.isAware then
    throw (.typeError "can't subtract offset-naive and offset-aware datetimes")
  let ageMicroseconds := checkedAt.instant - snapshot.timestamp.instant
  let missing ← hasMissingCandles snapshot.candles1m 60
  let spreadTooWide := snapshot.spreadPct.any (config.maxSpreadPct < ·)
  let crossed : Bool := match snapshot.bid, snapshot.ask with
    | some bid, some ask => decide (ask < bid)
    | _, _ => false
  let reasons := rejectIf (config.maxDataAgeSeconds * 1000000 < ageMicroseconds) "stale_data" ++
    rejectIf (snapshot.lastPrice ≤ 0) "abnormal_price" ++
    rejectIf (snapshot.volume ≤ 0) "abnormal_volume" ++
    rejectIf (!snapshot.feedConnected) "feed_disconnected" ++
    rejectIf missing "missing_1m_candle" ++
    rejectIf (snapshot.candles1m = []) "missing_1m_candles" ++
    rejectIf (snapshot.candles3m = []) "missing_3m_candles" ++
    rejectIf (snapshot.candles5m = []) "missing_5m_candles" ++
    rejectIf spreadTooWide "spread_too_wide" ++
    rejectIf crossed "invalid_bid_ask"
  return { ok := reasons.isEmpty, reasons := reasons.eraseDups }

structure RegimeResult where
  regime : MarketRegime
  reasons : List String
deriving DecidableEq

/-- The vote of a number: bullish above the threshold, bearish below its negative. -/
def vote (number : Option ℚ) (threshold : ℚ) (up down : String) : List (Direction × String) :=
  match number with
  | none => []
  | some number =>
    if threshold < number then [(.long, up)]
    else if number < -threshold then [(.short, down)]
    else []

/-- All votes with their reasons, in the order in which they are asked. -/
def regimeVotes (snapshot : MarketDataSnapshot) : List (Direction × String) :=
  vote snapshot.indexTrend (2 / 1000) "index_up" "index_down" ++
    vote snapshot.sectorTrend (1 / 1000) "sector_up" "sector_down" ++
    vote (snapshot.vwap.map (snapshot.lastPrice - ·)) 0 "price_above_vwap" "price_below_vwap" ++
    (if (given snapshot.openingRangeHigh15m).any (· < snapshot.lastPrice) then
      [(.long, "above_opening_range")] else []) ++
    (if (given snapshot.openingRangeLow15m).any (snapshot.lastPrice < ·) then
      [(.short, "below_opening_range")] else []) ++
    vote snapshot.gapPct (4 / 1000) "gap_up" "gap_down"

def MarketRegimeClassifier.classify (config : IntradayShadowConfig)
    (snapshot : MarketDataSnapshot) : RegimeResult :=
  let atrPct := if snapshot.lastPrice = 0 then none
    else (given snapshot.atr).map (· / snapshot.lastPrice)
  if snapshot.volume ≤ 0 then ⟨.lowLiquidity, ["volume_missing"]⟩
  else if snapshot.spreadPct.any (config.maxSpreadPct < ·) then
    ⟨.lowLiquidity, ["spread_too_wide"]⟩
  else if atrPct.any (25 / 1000 < ·) ∧ ¬config.allowHighVolatilityTrades then
    ⟨.highVolatility, ["atr_panic_zone"]⟩
  else
    let votes := regimeVotes snapshot
    let bullishVotes := votes.countP (·.1 = .long)
    let bearishVotes := votes.countP (·.1 = .short)
    let reasons := votes.map Prod.snd
    if 3 ≤ bullishVotes ∧ bearishVotes = 0 then ⟨.strongBullish, reasons⟩
    else if 3 ≤ bearishVotes ∧ bullishVotes = 0 then ⟨.strongBearish, reasons⟩
    else if bearishVotes < bullishVotes then ⟨.weakBullish, reasons⟩
    else if bullishVotes < bearishVotes then ⟨.weakBearish, reasons⟩
    else ⟨.sideways, if reasons = [] then ["mixed_market"] else reasons⟩

/-- `NIFTY_50_SYMBOLS`. -/
def nifty50Symbols : List String :=
  ["ADANIENT", "ADANIPORTS", "APOLLOHOSP", "ASIANPAINT", "AXISBANK", "BAJAJ-AUTO",
    "BAJFINANCE", "BAJAJFINSV", "BEL", "BHARTIARTL", "CIPLA", "COALINDIA",
    "DRREDDY", "EICHERMOT", "ETERNAL", "GRASIM", "HCLTECH", "HDFCBANK",
    "HDFCLIFE", "HEROMOTOCO", "HINDALCO", "HINDUNILVR", "ICICIBANK", "INDUSINDBK",
    "INFY", "ITC", "JIOFIN", "JSWSTEEL", "KOTAKBANK", "LT", "M&M", "MARUTI",
    "NESTLEIND", "NTPC", "ONGC", "POWERGRID", "RELIANCE", "SBILIFE", "SBIN",
    "SHRIRAMFIN", "SUNPHARMA", "TATACONSUM", "TATAMOTORS", "TATASTEEL", "TCS",
    "TECHM", "TITAN", "TRENT", "ULTRACEMCO", "WIPRO"]

structure UniverseDecision where
  allowed : Bool
  reasons : List String
deriving DecidableEq

/-- `UniverseFilter.check` over the default universe. -/
def UniverseFilter.check (text : SymbolText) (config : IntradayShadowConfig)
    (snapshot : MarketDataSnapshot) (quality : DataQualityReport) : UniverseDecision :=
  let reasons :=
    rejectIf (text.upper snapshot.symbol ∉ nifty50Symbols) "symbol_not_in_nifty_liquid_universe" ++
    (if quality.ok then [] else quality.reasons.map ("data_quality:" ++ ·)) ++
    rejectIf (snapshot.volume ≤ 0) "low_volume" ++
    rejectIf (snapshot.spreadPct.any (config.maxSpreadPct < ·)) "wide_spread" ++
    rejectIf (snapshot.gapPct.any (5 / 100 < |·|)) "abnormal_gap" ++
    rejectIf (snapshot.lastPrice ≤ 0) "invalid_price"
  { allowed := reasons.isEmpty, reasons := reasons.eraseDups }

end AlphaAgent.Intraday
