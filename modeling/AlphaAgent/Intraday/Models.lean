import AlphaAgent.Core.Enums
import AlphaAgent.Core.Values
import Mathlib.Data.Rat.Floor

/-!
# Values of the intraday shadow pipeline

`app/intraday/models.py` and `app/intraday/config.py`. Generated ids are random
and are left out; a virtual position is known by its place in the list of all
positions. A configuration has the bounds and the defaults of the settings it
is made from where the code relies on them.
-/

namespace AlphaAgent.Intraday

inductive Direction where
  | long
  | short
deriving DecidableEq, Repr

def Direction.value : Direction → String
  | long => "LONG"
  | short => "SHORT"

inductive MarketRegime where
  | strongBullish
  | weakBullish
  | strongBearish
  | weakBearish
  | sideways
  | highVolatility
  | lowLiquidity
  | noTrade
deriving DecidableEq, Repr

namespace MarketRegime

def value : MarketRegime → String
  | strongBullish => "STRONG_BULLISH"
  | weakBullish => "WEAK_BULLISH"
  | strongBearish => "STRONG_BEARISH"
  | weakBearish => "WEAK_BEARISH"
  | sideways => "SIDEWAYS"
  | highVolatility => "HIGH_VOLATILITY"
  | lowLiquidity => "LOW_LIQUIDITY"
  | noTrade => "NO_TRADE"

/-- One of the two bullish regimes. -/
def isBullish (regime : MarketRegime) : Bool := regime = strongBullish || regime = weakBullish

/-- One of the two bearish regimes. -/
def isBearish (regime : MarketRegime) : Bool := regime = strongBearish || regime = weakBearish

end MarketRegime

inductive SignalDecision where
  | valid
  | watchOnly
  | rejected
deriving DecidableEq, Repr

def SignalDecision.value : SignalDecision → String
  | valid => "VALID"
  | watchOnly => "WATCH_ONLY"
  | rejected => "REJECTED"

inductive FillStatus where
  | filled
  | partialFill
  | missed
  | rejected
deriving DecidableEq, Repr

def FillStatus.value : FillStatus → String
  | filled => "FILLED"
  | partialFill => "PARTIAL_FILL"
  | missed => "MISSED"
  | rejected => "REJECTED"

inductive VirtualPositionStatus where
  | pendingEntry
  | open
  | partialExit
  | exited
  | stoppedOut
  | targetHit
  | forceClosed
  | invalidated
deriving DecidableEq, Repr

/-- `IntradayShadowConfig`, with the defaults of `Settings`. -/
structure IntradayShadowConfig where
  capital : ℚ := 500000
  riskPerTradePercent : ℚ := 25 / 10000
  maxDailyLossPercent : ℚ := 1 / 100
  maxWeeklyLossPercent : ℚ := 3 / 100
  maxOpenPositions : ℕ := 2
  maxTradesPerDay : ℕ := 3
  maxConsecutiveLosses : ℕ := 3
  minRewardToRisk : ℚ := 3 / 2
  allowAveragingDown : Bool := false
  allowShorts : Bool := false
  allowSidewaysTrades : Bool := false
  allowHighVolatilityTrades : Bool := false
  minSignalScore : ℤ := 70
  watchScore : ℤ := 60
  maxSpreadPct : ℚ := 3 / 1000
  maxDataAgeSeconds : ℤ := 90
  maxEntryMovePct : ℚ := 25 / 10000
  slippageBps : ℚ := 5
  latencyMs : ℤ := 250
  noNewTradeAfter : String := "15:00"
  forceCloseTime : String := "15:20"
deriving DecidableEq

structure Candle where
  timestamp : DateTime
  high : ℚ
  low : ℚ
  close : ℚ
  volume : ℚ
deriving DecidableEq

/-- A snapshot; of the raw payload, the numeric fields. -/
structure MarketDataSnapshot where
  market : Market
  symbol : String
  timestamp : DateTime
  lastPrice : ℚ
  vwap : Option ℚ
  volume : ℚ
  openingRangeHigh15m : Option ℚ := none
  openingRangeLow15m : Option ℚ := none
  atr : Option ℚ := none
  bid : Option ℚ := none
  ask : Option ℚ := none
  candles1m : List Candle := []
  candles3m : List Candle := []
  candles5m : List Candle := []
  indexTrend : Option ℚ := none
  sectorTrend : Option ℚ := none
  marketBreadth : Option ℚ := none
  gapPct : Option ℚ := none
  feedConnected : Bool := true
  raw : List (String × Option ℚ) := []
deriving DecidableEq

def MarketDataSnapshot.spreadPct (snapshot : MarketDataSnapshot) : Option ℚ :=
  match snapshot.bid, snapshot.ask with
  | some bid, some ask =>
    if snapshot.lastPrice ≤ 0 then none else some (max (ask - bid) 0 / snapshot.lastPrice)
  | _, _ => none

/-- Python truth of an optional number. -/
def given (value : Option ℚ) : Option ℚ := value.filter (· ≠ 0)

structure DataQualityReport where
  ok : Bool
  reasons : List String
deriving DecidableEq

/-- What `_market_snapshot` records of the snapshot and its regime. -/
structure SignalContext where
  spreadPct : Option ℚ := none
  regimeReasons : List String := []
deriving DecidableEq

structure Signal where
  symbol : String
  market : Market
  direction : Direction
  strategyName : String
  regimeAtSignal : MarketRegime
  entryPrice : ℚ
  stopLoss : ℚ
  targetPrice : ℚ
  riskRewardRatio : ℚ
  confidenceScore : ℚ
  reasonCodes : List String
  timestamp : DateTime
  candleSnapshot : Option Candle
  marketSnapshot : SignalContext
deriving DecidableEq

structure ScoredSignal where
  signal : Signal
  score : ℤ
  decision : SignalDecision
  reasons : List String
deriving DecidableEq

structure RiskApproval where
  approved : Bool
  quantity : ℤ := 0
  riskAmount : ℚ := 0
  capitalRequired : ℚ := 0
  rejectionReasons : List String := []
deriving DecidableEq

structure ShadowOrder where
  symbol : String
  direction : Direction
  expectedEntry : ℚ
  simulatedFill : Option ℚ
  quantity : ℤ
  slippage : ℚ
  spread : ℚ
  latencyMs : ℤ
  fillStatus : FillStatus
  rejectionReason : Option String := none
  timestamp : DateTime
deriving DecidableEq

structure VirtualPosition where
  symbol : String
  market : Market
  direction : Direction
  strategy : String
  regimeAtEntry : MarketRegime
  entryPrice : ℚ
  stopLoss : ℚ
  targetPrice : ℚ
  quantity : ℤ
  riskAmount : ℚ
  status : VirtualPositionStatus
  entryReason : List String
  openedAt : DateTime
  currentPrice : ℚ
  currentPnl : ℚ := 0
  grossPnl : ℚ := 0
  netPnl : ℚ := 0
  charges : ℚ := 0
  maxFavorableExcursion : ℚ := 0
  maxAdverseExcursion : ℚ := 0
  exitReason : Option String := none
  closedAt : Option DateTime := none
deriving DecidableEq

def VirtualPosition.isOpen (position : VirtualPosition) : Bool := position.status = .open

/-- `round(value)`: to the nearest integer, a half to the even one. -/
def roundHalfEven (value : ℚ) : ℤ :=
  let fraction := value - ⌊value⌋
  if fraction < 1 / 2 then ⌊value⌋
  else if 1 / 2 < fraction then ⌊value⌋ + 1
  else if ⌊value⌋ % 2 = 0 then ⌊value⌋ else ⌊value⌋ + 1

/-- `round(value, digits)`. -/
def roundTo (digits : ℕ) (value : ℚ) : ℚ := roundHalfEven (value * 10 ^ digits) / 10 ^ digits

end AlphaAgent.Intraday
