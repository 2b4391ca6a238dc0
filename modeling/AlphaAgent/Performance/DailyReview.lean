import AlphaAgent.Foundation.Upsert
import AlphaAgent.Performance.DayWise
import AlphaAgent.Performance.MarketDay
import Mathlib.Data.List.MinMax

/-!
# The daily review of a market

`_daily_market_review` of the performance service: what was marked, signalled, ordered
and refused on one local day of a market. Texts are those of the source; how an amount is
written is left open.
-/

namespace AlphaAgent.Performance

open Foundation Shadow

/-- `AgentSignal`, as far as a review reads it. -/
structure AgentSignal where
  market : Market
  symbol : String
  action : TradeAction
  createdAt : ℤ
deriving DecidableEq

/-- An `Order` or a `RiskEvent`, which a review counts. A risk event can be without a market. -/
structure CountedRow where
  market : Option Market
  createdAt : ℤ
deriving DecidableEq

/-- The tables which a review reads. -/
structure ReviewTables where
  observations : List ShadowObservation
  signals : List AgentSignal
  orders : List CountedRow
  riskEvents : List CountedRow

instance (window : MarketDayWindow) (instant : ℤ) : Decidable (window.Contains instant) :=
  inferInstanceAs (Decidable (_ ∧ _))

/-- A query by market and window, the latest row first. -/
def dayQuery {α : Type} (marketOf : α → Option Market) (time : α → ℤ) (market : Market)
    (window : MarketDayWindow) (table : List α) : List α :=
  descending time (table.filter fun row => marketOf row = some market ∧ window.Contains (time row))

/-- The rows of one market and day. -/
def ReviewTables.ofDay (tables : ReviewTables) (market : Market) (window : MarketDayWindow) :
    ReviewTables where
  observations := dayQuery (some ·.market) (·.lastMarkedAt) market window tables.observations
  signals := dayQuery (some ·.market) (·.createdAt) market window tables.signals
  orders := dayQuery (·.market) (·.createdAt) market window tables.orders
  riskEvents := dayQuery (·.market) (·.createdAt) market window tables.riskEvents

inductive DailyReviewStatus where
  | noData
  | netPositiveShadow
  | netNegativeShadow
  | flatShadow
deriving DecidableEq, Repr

def DailyReviewStatus.value : DailyReviewStatus → String
  | noData => "NO_DATA"
  | netPositiveShadow => "NET_POSITIVE_SHADOW"
  | netNegativeShadow => "NET_NEGATIVE_SHADOW"
  | flatShadow => "FLAT_SHADOW"

structure SymbolPnl where
  symbol : String
  pnlInr : ℚ
  pnlPct : ℚ
deriving DecidableEq

/-- `_symbol_pnl`. -/
def symbolPnl (observation : Option ShadowObservation) : Option SymbolPnl :=
  observation.map fun row => ⟨row.symbol, row.hypotheticalPnlInr, row.hypotheticalPnlPct⟩

/-- The columns of a review which are counted and displayed. -/
structure ReviewFigures where
  status : DailyReviewStatus
  signals : ℕ
  shadowHypotheses : ℕ
  realOrders : ℕ
  buyHypotheses : ℕ
  noTradeSignals : ℕ
  winners : ℕ
  losers : ℕ
  flat : ℕ
  hypotheticalNotionalInr : ℚ
  hypotheticalPnlInr : ℚ
  hypotheticalPnlPct : ℚ
deriving DecidableEq

/-- The `payload` column. -/
structure ReviewPayload where
  brief : String
  symbolsStudied : List String
  bestSymbol : Option SymbolPnl
  worstSymbol : Option SymbolPnl
  lessons : List String
  nextFocus : List String
  riskEvents : ℕ
deriving DecidableEq

structure DailyMarketReview extends ReviewFigures, ReviewPayload where
  market : Market
  displayName : String
  reviewDate : Day
deriving DecidableEq

section Review

variable (amountText : ℚ → String) (market : Market) (rows : ReviewTables) (pnl : ℚ)

/-- `_daily_brief`. -/
def dailyBrief : String :=
  if rows.observations = [] ∧ rows.signals = [] then
    s!"{market.value}: no shadow samples were recorded for the review day."
  else
    let orderText :=
      if rows.orders = [] then "no real orders" else s!"{rows.orders.length} real order records"
    s!"{market.value}: reviewed {rows.signals.length} signals and {rows.observations.length} " ++
      s!"shadow marks; hypothetical P&L {amountText pnl} INR; {orderText}."

/-- `_daily_lessons`. -/
def dailyLessons : List String :=
  if rows.observations = [] ∧ rows.signals = [] then
    ["No market-hours shadow sample was available for this day."]
  else
    ((if rows.orders = [] then
        ["Real-order count stayed at zero, matching shadow-mode safety."]
      else []) ++
    (if 0 < pnl then
        ["Shadow marks ended net positive; verify stop/target behavior before promotion."]
      else if pnl < 0 then
        ["Shadow marks ended net negative; keep sizing conservative and inspect losers."]
      else ["Shadow marks were flat or not yet conclusive."]) ++
    (if rows.riskEvents = [] then []
      else ["Risk events occurred; review blockers before changing strategy speed."]) ++
    (if rows.signals.any (·.action = .buy) then []
      else ["The quality filter stayed selective and did not create buy hypotheses."])).take 3

/-- `_daily_next_focus`. -/
def dailyNextFocus : List String :=
  if rows.observations = [] ∧ rows.signals = [] then
    ["Collect a full market-session sample before drawing conclusions."]
  else
    ["Compare shadow marks against stop, target, and time-exit rules.",
      if pnl < 0 then "Inspect the worst symbols and tighten rejection reasons."
      else "Increase sample count before changing risk or entry rules.",
      "Keep live trading disabled until the review gate is passed."]

/-- The status of a review. -/
def dailyReviewStatus : DailyReviewStatus :=
  if rows.observations = [] then .noData
  else if 0 < pnl then .netPositiveShadow
  else if pnl < 0 then .netNegativeShadow
  else .flatShadow

/-- `_daily_market_review`. -/
def dailyMarketReview (reviewDate : Day) : DailyMarketReview :=
  let pnl := (rows.observations.map (·.hypotheticalPnlInr)).sum
  let notional := (rows.observations.map (·.hypotheticalNotionalInr)).sum
  let winners := (rows.observations.filter (0 < ·.hypotheticalPnlInr)).length
  let losers := (rows.observations.filter (·.hypotheticalPnlInr < 0)).length
  { market
    displayName := if market = .india then "India" else "United States"
    reviewDate
    status := dailyReviewStatus rows pnl
    brief := dailyBrief amountText market rows pnl
    shadowHypotheses := rows.observations.length
    signals := rows.signals.length
    buyHypotheses := (rows.signals.filter (·.action = .buy)).length
    noTradeSignals := (rows.signals.filter (·.action = .noTrade)).length
    realOrders := rows.orders.length
    symbolsStudied :=
      (rows.observations.map (·.symbol) ++ rows.signals.map (·.symbol)).dedup.insertionSort (· ≤ ·)
    hypotheticalNotionalInr := notional
    hypotheticalPnlInr := pnl
    hypotheticalPnlPct := pnlShare pnl notional
    winners
    losers
    -- The subtraction of natural numbers stops at zero, as `max(..., 0)` does.
    flat := rows.observations.length - winners - losers
    bestSymbol := symbolPnl (rows.observations.argmax (·.hypotheticalPnlInr))
    worstSymbol := symbolPnl (rows.observations.argmin (·.hypotheticalPnlInr))
    lessons := dailyLessons rows pnl
    nextFocus := dailyNextFocus rows pnl
    riskEvents := rows.riskEvents.length }

end Review

theorem flat_dailyMarketReview (amountText : ℚ → String) (market : Market) (rows : ReviewTables)
    (reviewDate : Day) : (dailyMarketReview amountText market rows reviewDate).flat =
      (rows.observations.filter (·.hypotheticalPnlInr = 0)).length := by
  have signs := length_signs (fun row : ShadowObservation => row.hypotheticalPnlInr)
    rows.observations
  change rows.observations.length - _ - _ = _
  omega

end AlphaAgent.Performance
