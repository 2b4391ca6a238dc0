import AlphaAgent.Intraday.MarketData
import Mathlib.Data.List.Infix

/-!
# Strategies and their scores

`app/intraday/strategies.py` and `app/intraday/scoring.py`. A strategy is any
function of the snapshot and its regime which returns a signal, returns nothing
or raises; the three strategies of the source are such functions.
-/

namespace AlphaAgent.Intraday

open Paper Risk

abbrev IntradayStrategy := MarketDataSnapshot → RegimeResult → Except RaisedError (Option Signal)

/-- `Signal.create`, for a signal at the time of its snapshot. -/
def Signal.create (text : SymbolText) (snapshot : MarketDataSnapshot) (regime : RegimeResult)
    (direction : Direction) (strategyName : String) (stopLoss targetPrice confidenceScore : ℚ)
    (reasonCodes : List String) : Signal :=
  let risk := |snapshot.lastPrice - stopLoss|
  let reward := |targetPrice - snapshot.lastPrice|
  { symbol := text.upper snapshot.symbol
    market := snapshot.market
    direction
    strategyName
    regimeAtSignal := regime.regime
    entryPrice := snapshot.lastPrice
    stopLoss
    targetPrice
    riskRewardRatio := if 0 < risk then reward / risk else 0
    confidenceScore
    reasonCodes
    timestamp := snapshot.timestamp
    candleSnapshot := snapshot.candles1m.getLast?
    marketSnapshot := ⟨snapshot.spreadPct, regime.reasons⟩ }

def higherHighHigherLow (candles : List Candle) : Bool :=
  match candles.reverse with
  | c :: b :: a :: _ => a.high ≤ b.high && b.high ≤ c.high && a.low ≤ b.low && b.low ≤ c.low
  | _ => false

def lowerHighLowerLow (candles : List Candle) : Bool :=
  match candles.reverse with
  | c :: b :: a :: _ => b.high ≤ a.high && c.high ≤ b.high && b.low ≤ a.low && c.low ≤ b.low
  | _ => false

/-- The last volume is a tenth above the mean of the three before it. -/
def volumeConfirmation (candles : List Candle) : Bool :=
  match candles.reverse with
  | last :: c :: b :: a :: _ =>
    let baseline := (a.volume + b.volume + c.volume) / 3
    0 < baseline && baseline * (11 / 10) ≤ last.volume
  | _ => false

def nearLevel (price level maxPct : ℚ) : Bool :=
  0 < price && 0 < level && |price - level| / price ≤ maxPct

/-- The candle before the last one. -/
def candleBeforeLast (candles : List Candle) : Option Candle := candles.reverse[1]?

/-- `VWAPTrendLongStrategy.generate`; `round` goes to two digits. -/
def vwapTrendLongBy (round : ℚ → ℚ) (text : SymbolText) : IntradayStrategy :=
  fun snapshot regime => .ok <|
  match snapshot.vwap with
  | none => none
  | some vwap =>
    if !regime.regime.isBullish then none
    else if snapshot.lastPrice ≤ vwap then none
    else if snapshot.sectorTrend.any (· < -(1 / 1000)) then none
    else if !higherHighHigherLow snapshot.candles1m then none
    else if !volumeConfirmation snapshot.candles1m then none
    else if !nearLevel snapshot.lastPrice vwap (8 / 1000) then none
    else
      let stop := min vwap (((candleBeforeLast snapshot.candles1m).map Candle.low).getD vwap)
      let risk := snapshot.lastPrice - stop
      if risk ≤ 0 then none
      else
        let target := snapshot.lastPrice + risk * 2
        some (.create text snapshot regime .long "VWAP_TREND_LONG" (round stop)
          (round target) (72 / 100)
          ["bullish_regime", "price_above_vwap", "higher_high_higher_low", "volume_confirmation",
            "pullback_near_vwap"])

/-- `VWAPTrendShortStrategy.generate`. -/
def vwapTrendShortBy (round : ℚ → ℚ) (text : SymbolText) : IntradayStrategy :=
  fun snapshot regime => .ok <|
  match snapshot.vwap with
  | none => none
  | some vwap =>
    if !regime.regime.isBearish then none
    else if vwap ≤ snapshot.lastPrice then none
    else if snapshot.sectorTrend.any (1 / 1000 < ·) then none
    else if !lowerHighLowerLow snapshot.candles1m then none
    else if !volumeConfirmation snapshot.candles1m then none
    else if !nearLevel snapshot.lastPrice vwap (8 / 1000) then none
    else
      let stop := max vwap (((candleBeforeLast snapshot.candles1m).map Candle.high).getD vwap)
      let risk := stop - snapshot.lastPrice
      if risk ≤ 0 then none
      else
        let target := snapshot.lastPrice - risk * 2
        some (.create text snapshot regime .short "VWAP_TREND_SHORT" (round stop)
          (round target) (70 / 100)
          ["bearish_regime", "price_below_vwap", "lower_high_lower_low", "volume_confirmation",
            "pullback_failure_near_vwap"])

/-- A time of day in microseconds. -/
def timeOfDay (hour minute : ℤ) : ℤ := (hour * 60 + minute) * 60000000

/-- `OpeningRangeBreakoutStrategy.generate`. -/
def openingRangeBreakoutBy (round : ℚ → ℚ) (text : SymbolText) (allowFirstFiveMinutes : Bool) :
    IntradayStrategy := fun snapshot regime => .ok <|
  if ¬allowFirstFiveMinutes ∧ snapshot.timestamp.time < timeOfDay 9 20 then none
  else if regime.regime = .sideways then none
  else if (given snapshot.openingRangeHigh15m).any (· < snapshot.lastPrice) ∧
      regime.regime.isBullish ∧ volumeConfirmation snapshot.candles1m then
    let stop := (given snapshot.openingRangeLow15m).getD
      ((given snapshot.vwap).getD snapshot.lastPrice)
    let risk := snapshot.lastPrice - stop
    if risk ≤ 0 then none
    else
      some (.create text snapshot regime .long "OPENING_RANGE_BREAKOUT_BREAKDOWN" (round stop)
        (round (snapshot.lastPrice + risk * 2)) (73 / 100)
        ["opening_range_breakout", "bullish_regime", "volume_confirmation"])
  else if (given snapshot.openingRangeLow15m).any (snapshot.lastPrice < ·) ∧
      regime.regime.isBearish ∧ volumeConfirmation snapshot.candles1m then
    let stop := (given snapshot.openingRangeHigh15m).getD
      ((given snapshot.vwap).getD snapshot.lastPrice)
    let risk := stop - snapshot.lastPrice
    if risk ≤ 0 then none
    else
      some (.create text snapshot regime .short "OPENING_RANGE_BREAKOUT_BREAKDOWN"
        (round stop) (round (snapshot.lastPrice - risk * 2)) (73 / 100)
        ["opening_range_breakdown", "bearish_regime", "volume_confirmation"])
  else none

section Exact

variable (text : SymbolText)

/-- The strategies where `round` is that of exact numbers. The one of the source rounds what its
floats hold, which can be on the other side of a half cent. -/
def vwapTrendLong : IntradayStrategy := vwapTrendLongBy (roundTo 2) text

def vwapTrendShort : IntradayStrategy := vwapTrendShortBy (roundTo 2) text

def openingRangeBreakout (allowFirstFiveMinutes : Bool := false) : IntradayStrategy :=
  openingRangeBreakoutBy (roundTo 2) text allowFirstFiveMinutes

end Exact

/-- The strategies of a pipeline which is given none. -/
def defaultStrategies (text : SymbolText) : List IntradayStrategy :=
  [vwapTrendLong text, vwapTrendShort text, openingRangeBreakout text]

/-- Whether a text occurs in another one. -/
def occursIn (needle text : String) : Bool := decide (needle.toList <:+: text.toList)

/-- `_regime_score`. -/
def regimeScore (signal : Signal) : ℤ :=
  match signal.direction with
  | .long => if signal.regimeAtSignal.isBullish then 25 else 0
  | .short => if signal.regimeAtSignal.isBearish then 25 else 0

/-- `_structure_confirmed`. -/
def structureConfirmed (signal : Signal) : Bool :=
  ["higher_high_higher_low", "lower_high_lower_low", "opening_range_breakout",
    "opening_range_breakdown"].any signal.reasonCodes.contains

/-- The sum of the component scores. -/
def componentScore (config : IntradayShadowConfig) (signal : Signal) : ℤ :=
  regimeScore signal +
    (if signal.reasonCodes.any (occursIn "vwap") then 15 else 0) +
    (if signal.marketSnapshot.regimeReasons.any (occursIn "sector") then 15 else 8) +
    (if signal.reasonCodes.contains "volume_confirmation" then 15 else 0) +
    (if structureConfirmed signal then 15 else 0) +
    (if config.minRewardToRisk ≤ signal.riskRewardRatio then 10 else 0) +
    (if signal.marketSnapshot.spreadPct.all (· ≤ 3 / 1000) then 5 else 0)

/-- A regime in which no signal is taken whatever its components. -/
def rejectedRegime (regime : MarketRegime) : Bool :=
  regime = .highVolatility || regime = .lowLiquidity || regime = .noTrade

/-- The decision of a score under the two thresholds. -/
def decisionOf (config : IntradayShadowConfig) (score : ℤ) : SignalDecision :=
  if config.minSignalScore ≤ score then .valid
  else if config.watchScore ≤ score then .watchOnly
  else .rejected

def scoreReason : SignalDecision → String
  | .valid => "score_valid"
  | .watchOnly => "score_watch_only"
  | .rejected => "score_rejected"

/-- `SignalScoringEngine.score`. -/
def SignalScoringEngine.score (config : IntradayShadowConfig) (signal : Signal) : ScoredSignal :=
  let sideways := signal.regimeAtSignal = .sideways ∧ ¬config.allowSidewaysTrades
  let total := componentScore config signal
  let afterSideways := if sideways then min total (config.watchScore - 1) else total
  let score :=
    if rejectedRegime signal.regimeAtSignal then min afterSideways (config.watchScore - 1)
    else afterSideways
  let reasons := rejectIf sideways "sideways_regime_reject" ++
    rejectIf (rejectedRegime signal.regimeAtSignal)
      (signal.regimeAtSignal.value.toLower ++ "_reject") ++
    rejectIf (signal.riskRewardRatio < config.minRewardToRisk) "risk_reward_below_threshold" ++
    [scoreReason (decisionOf config score)]
  { signal, score, decision := decisionOf config score
    reasons := (reasons ++ signal.reasonCodes).eraseDups }

/-- With a positive watch score no signal scores below zero. -/
theorem SignalScoringEngine.score_nonneg {config : IntradayShadowConfig}
    (watched : 1 ≤ config.watchScore) (signal : Signal) : 0 ≤ (score config signal).score := by
  have regime : 0 ≤ regimeScore signal := by
    unfold regimeScore
    split <;> split <;> decide
  have total : 0 ≤ componentScore config signal := by
    unfold componentScore
    split_ifs <;> omega
  unfold score
  dsimp only
  split_ifs <;> omega

end AlphaAgent.Intraday
