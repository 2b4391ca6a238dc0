import AlphaAgent.Foundation.Scan
import AlphaAgent.Paper.Engine
import Mathlib.Data.List.Sort

/-!
# The historical backtest

`app/backtesting/engine.py`: a strategy is asked once per candle, with the
candles before it, and its signal is submitted at the candle's open; then the
candle's range is checked for an exit, and the equity is marked at its close.
A strategy is a function of the candles it is given, and can raise.
-/

namespace AlphaAgent.Backtesting

open Foundation Paper

structure Candle where
  timestamp : DateTime
  «open» : ℚ
  high : ℚ
  low : ℚ
  close : ℚ
  volume : ℚ := 0
deriving DecidableEq

structure BacktestSignal where
  symbol : String
  market : Market
  quantity : ℤ
  stopLoss : ℚ
  takeProfit : Option ℚ := none
  metadata : Metadata := []
deriving DecidableEq

structure BacktestConfig where
  startingCash : ℚ := 100000
  costModel : CostModel := .default
  riskLimits : PaperRiskLimits := .default
  closeOpenPositionsOnEnd : Bool := true

structure EquityCurvePoint where
  timestamp : DateTime
  equity : ℚ
  cash : ℚ
  realizedPnl : ℚ
  unrealizedPnl : ℚ
deriving DecidableEq

structure BacktestMetrics where
  entries : ℕ
  closedTrades : ℕ
  blockedEntries : ℕ
  winningTrades : ℕ
  losingTrades : ℕ
  winRate : ℚ
  netPnl : ℚ
  totalCosts : ℚ
  finalEquity : ℚ
  totalReturnPct : ℚ
  maxDrawdownPct : ℚ
deriving DecidableEq

structure BacktestResult where
  tradeJournal : List PaperTradeJournalEntry
  equityCurve : List EquityCurvePoint
  metrics : BacktestMetrics
deriving DecidableEq

abbrev StrategyCallback := List Candle → Except RaisedError (Option BacktestSignal)

/-- `min(...) <= 0`, and a range which does not contain the open and the close. -/
def checkCandle (candle : Candle) : Except RaisedError Unit :=
  if min (min candle.open candle.high) (min candle.low candle.close) ≤ 0 then
    .error (.valueError "candle_prices_must_be_positive")
  else if candle.high < max candle.open candle.close ∨
      candle.low > min candle.open candle.close then
    .error (.valueError "candle_high_low_inconsistent")
  else .ok ()

/-- The order which `sorted(..., key=timestamp)` sorts by. -/
def earlier (first second : Candle) : Prop := first.timestamp.instant ≤ second.timestamp.instant

instance : DecidableRel earlier := fun first second =>
  inferInstanceAs (Decidable (first.timestamp.instant ≤ second.timestamp.instant))

/-- `_validated_candles`. Sorting compares a naive with an aware timestamp
whenever both occur, which raises. -/
def validatedCandles (candles : List Candle) : Except RaisedError (List Candle) := do
  candles.forM checkCandle
  if ¬candles.all (·.timestamp.isAware) ∧ ¬candles.all (!·.timestamp.isAware) then
    throw (.typeError "can't compare offset-naive and offset-aware datetimes")
  if candles ≠ candles.insertionSort earlier then
    throw (.valueError "candles_must_be_sorted_ascending")
  if ¬(candles.map (·.timestamp.instant)).Nodup then
    throw (.valueError "duplicate_candle_timestamps_not_allowed")
  return candles

/-- The arguments of a run which stay the same along its candles, with the
symbol as the engine keeps it. -/
structure Session where
  text : SymbolText
  symbol : String
  market : Market
  strategy : StrategyCallback
  normalized : text.normalize symbol = symbol

/-- The session of the arguments of `run_single_symbol`. -/
def Session.of (text : SymbolText) (symbol : String) (market : Market)
    (strategy : StrategyCallback) : Session :=
  ⟨text, text.normalize symbol, market, strategy, text.normalize_normalize symbol⟩

section Loop

variable (session : Session)

/-- The order which a signal submits at the open of a candle. -/
def entryRequest (signal : BacktestSignal) (candle : Candle) : PaperOrderRequest where
  symbol := session.symbol
  market := session.market
  side := .buy
  quantity := signal.quantity
  referencePrice := candle.open
  submittedAt := candle.timestamp
  stopLoss := some signal.stopLoss
  takeProfit := signal.takeProfit
  metadata := signal.metadata

/-- `_submit_signal`: a signal for another symbol or market is dropped. -/
def submitSignal (signal : BacktestSignal) (candle : Candle) : PaperM Unit :=
  if session.text.normalize signal.symbol ≠ session.symbol ∨ signal.market ≠ session.market then
    pure ()
  else
    (fun _ => ()) <$> submitOrder session.text (entryRequest session signal candle)

/-- Ask the strategy unless this is the first candle or a position is open. -/
def askStrategy (history : List Candle) (candle : Candle) : PaperM Unit := do
  let engine ← get
  if history ≠ [] ∧ ¬engine.positions.contains session.symbol then
    match ← Fallible.ofExcept (session.strategy history) with
    | some signal => submitSignal session signal candle
    | none => pure ()
  else pure ()

/-- `_equity_point`. -/
def equityPoint (candle : Candle) : PaperM EquityCurvePoint := do
  let engine ← get
  let snapshot ← Fallible.ofExcept (engine.snapshot session.text candle.timestamp
    (some (Dict.empty.set session.symbol candle.close)))
  return {
    timestamp := candle.timestamp
    equity := snapshot.equity
    cash := snapshot.cash
    realizedPnl := snapshot.realizedPnl
    unrealizedPnl := snapshot.unrealizedPnl }

/-- The exit check of one candle. -/
def checkExit (candle : Candle) : PaperM (Option PaperExecutionResult) :=
  evaluateExit session.text session.symbol session.market candle.timestamp candle.low candle.high

/-- One pass of the loop, after the candles of the history. -/
def processCandle (history : List Candle) (candle : Candle) : PaperM EquityCurvePoint := do
  askStrategy session history candle
  let _ ← checkExit session candle
  equityPoint session candle

/-- Close what is still open at the close of the last candle. -/
def closeOnEnd (config : BacktestConfig) (candles : List Candle) :
    PaperM (List EquityCurvePoint) := do
  let engine ← get
  match candles.getLast? with
  | none => return []
  | some finalCandle =>
    if config.closeOpenPositionsOnEnd ∧ engine.positions.contains session.symbol then
      let _ ← closeOpenPosition session.text session.symbol session.market finalCandle.close
        finalCandle.timestamp .endOfBacktest
      let point ← equityPoint session finalCandle
      return [point]
    else return []

/-- The loop over the candles, and what follows it. -/
def backtest (config : BacktestConfig) (candles : List Candle) :
    PaperM (List EquityCurvePoint) := do
  let points ← Fallible.scan (processCandle session) [] candles
  let closing ← closeOnEnd session config candles
  return points ++ closing

end Loop

/-- One step of the drawdown scan: the peak so far and the deepest drawdown. -/
def scanDrawdown (scan : Option ℚ × ℚ) (point : EquityCurvePoint) : Option ℚ × ℚ :=
  let peak := match scan.1 with
    | none => point.equity
    | some peak => max peak point.equity
  (some peak, if peak > 0 then min scan.2 ((point.equity - peak) / peak) else scan.2)

/-- `_max_drawdown_pct`. -/
def maxDrawdownPct (equityCurve : List EquityCurvePoint) : ℚ :=
  |(equityCurve.foldl scanDrawdown (none, 0)).2|

/-- `_metrics`. -/
def backtestMetrics (journal : List PaperTradeJournalEntry) (equityCurve : List EquityCurvePoint)
    (startingCash : ℚ) : BacktestMetrics :=
  let closingTrades := journal.filter fun entry => entry.side = .sell ∧ entry.status = .closed
  let winning := closingTrades.countP fun entry => entry.realizedPnl > 0
  let finalEquity := (equityCurve.getLast?.map EquityCurvePoint.equity).getD startingCash
  { entries := journal.countP fun entry => entry.side = .buy ∧ entry.status = .opened
    closedTrades := closingTrades.length
    blockedEntries := journal.countP fun entry => entry.status = .blocked
    winningTrades := winning
    losingTrades := closingTrades.countP fun entry => entry.realizedPnl < 0
    winRate := if closingTrades ≠ [] then winning / closingTrades.length else 0
    netPnl := (closingTrades.map (·.realizedPnl)).sum
    totalCosts := (journal.map (·.costs)).sum
    finalEquity
    totalReturnPct := (finalEquity - startingCash) / startingCash
    maxDrawdownPct := maxDrawdownPct equityCurve }

/-- `run_single_symbol` of an engine with a configuration. -/
def runSingleSymbol (config : BacktestConfig) (text : SymbolText) (symbol : String)
    (market : Market) (candles : List Candle) (strategy : StrategyCallback) :
    Except RaisedError BacktestResult := do
  let orderedCandles ← validatedCandles candles
  let engine ← PaperTradingEngine.create config.startingCash (some config.costModel)
    (some config.riskLimits)
  match (backtest (.of text symbol market strategy) config orderedCandles).run engine with
  | (.error raised, _) => throw raised
  | (.ok equityCurve, final) =>
    return {
      tradeJournal := final.journal
      equityCurve
      metrics := backtestMetrics final.journal equityCurve config.startingCash }

end AlphaAgent.Backtesting
