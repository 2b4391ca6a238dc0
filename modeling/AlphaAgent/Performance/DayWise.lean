import AlphaAgent.Core.MarketTime
import AlphaAgent.Foundation.Grouping
import AlphaAgent.Foundation.Newest
import AlphaAgent.Shadow.Models
import Mathlib.Algebra.Order.Ring.Rat
import Mathlib.Data.List.Dedup
import Mathlib.Data.String.Basic
import Mathlib.Data.Prod.Lex

/-!
# Day-wise profit and loss

`PerformanceService._day_wise_profit_loss_summary`. The latest sample of a symbol on
a local day of its market stands for that day. Rows of a market and a day add up to
rows of days, and the displayed days to the summary. A review date is a day here;
the texts of the page are left out.
-/

namespace AlphaAgent.Performance

open Foundation Shadow

/-- `_pnl_status`. -/
inductive PnlStatus where
  | netProfitShadow
  | netLossShadow
  | flatShadow
deriving DecidableEq, Repr

def pnlStatus (value : ℚ) : PnlStatus :=
  if 0 < value then .netProfitShadow else if value < 0 then .netLossShadow else .flatShadow

/-- `_pnl_direction`. -/
inductive PnlDirection where
  | up
  | down
  | flat
deriving DecidableEq, Repr

def pnlDirection (value : ℚ) : PnlDirection :=
  if 0 < value then .up else if value < 0 then .down else .flat

/-- Every value is positive, negative or zero. -/
theorem length_signs {α : Type} (value : α → ℚ) (rows : List α) :
    (rows.filter (0 < value ·)).length + (rows.filter (value · < 0)).length +
      (rows.filter (value · = 0)).length = rows.length := by
  induction rows with
  | nil => rfl
  | cons row rest ih =>
    rcases lt_trichotomy (value row) 0 with lost | flat | won
    · simp [lost, lost.not_gt, lost.ne]
      omega
    · simp [flat]
      omega
    · simp [won, won.not_gt, won.ne']
      omega

structure StockRow where
  market : Market
  symbol : String
  sampleAt : ℤ
  entryPrice : ℚ
  currentPrice : ℚ
  hypotheticalQuantity : ℤ
  hypotheticalNotionalInr : ℚ
  hypotheticalPnlInr : ℚ
  hypotheticalPnlPct : ℚ
  direction : PnlDirection
deriving DecidableEq

/-- The row of a sample in the table of its market and day. -/
def stockRow (market : Market) (sample : ShadowTrainingSample) : StockRow where
  market
  symbol := sample.symbol
  sampleAt := sample.sampleAt
  entryPrice := sample.entryPrice
  currentPrice := sample.currentPrice
  hypotheticalQuantity := sample.hypotheticalQuantity
  hypotheticalNotionalInr := sample.hypotheticalNotionalInr
  hypotheticalPnlInr := sample.hypotheticalPnlInr
  hypotheticalPnlPct := sample.hypotheticalPnlPct
  direction := pnlDirection sample.hypotheticalPnlInr

def StockRow.isInvested (row : StockRow) : Bool :=
  0 < row.hypotheticalQuantity && decide (0 < row.hypotheticalNotionalInr)

/-- `sorted(rows, key=pnl)`. -/
def ascendingPnl (rows : List StockRow) : List StockRow :=
  rows.insertionSort fun first second => first.hypotheticalPnlInr ≤ second.hypotheticalPnlInr

/-- `sorted(rows, key=pnl, reverse=True)`. -/
def descendingPnl (rows : List StockRow) : List StockRow := descending (·.hypotheticalPnlInr) rows

/-- `pnl / notional if notional else 0.0`. -/
def pnlShare (pnl notional : ℚ) : ℚ := if notional = 0 then 0 else pnl / notional

structure MarketDayRow where
  reviewDate : Day
  market : Market
  displayName : String
  shadowInvestedCount : ℕ
  symbolsStudiedCount : ℕ
  hypotheticalNotionalInr : ℚ
  hypotheticalPnlInr : ℚ
  hypotheticalPnlPct : ℚ
  winners : ℕ
  losers : ℕ
  flat : ℕ
  status : PnlStatus
  goodStocks : List StockRow
  lossStocks : List StockRow
  stockRows : List StockRow
deriving DecidableEq

/-- `_market_day_profit_loss_row`. -/
def marketDayProfitLossRow (reviewDate : Day) (market : Market)
    (samples : List ShadowTrainingSample) : MarketDayRow :=
  let stockRows := descendingPnl (samples.map (stockRow market))
  let invested := stockRows.filter (·.isInvested)
  let pnl := (invested.map (·.hypotheticalPnlInr)).sum
  let notional := (invested.map (·.hypotheticalNotionalInr)).sum
  { reviewDate
    market
    displayName := if market = .india then "India" else "United States"
    shadowInvestedCount := invested.length
    symbolsStudiedCount := stockRows.length
    hypotheticalNotionalInr := notional
    hypotheticalPnlInr := pnl
    hypotheticalPnlPct := pnlShare pnl notional
    winners := (invested.filter (0 < ·.hypotheticalPnlInr)).length
    losers := (invested.filter (·.hypotheticalPnlInr < 0)).length
    flat := (invested.filter (·.hypotheticalPnlInr = 0)).length
    status := pnlStatus pnl
    goodStocks := stockRows.take 5
    lossStocks := (ascendingPnl stockRows).take 5
    stockRows }

/-- The row of a day while rows of its markets are added. -/
structure DayTotals where
  reviewDate : Day
  markets : Dict Market MarketDayRow := .empty
  shadowInvestedCount : ℕ := 0
  symbolsStudiedCount : ℕ := 0
  hypotheticalNotionalInr : ℚ := 0
  hypotheticalPnlInr : ℚ := 0
  winners : ℕ := 0
  losers : ℕ := 0
  flat : ℕ := 0
  realOrders : ℕ := 0
  goodStocks : List StockRow := []
  lossStocks : List StockRow := []

/-- The row of a day with one more row of a market. -/
def DayTotals.add (day : DayTotals) (row : MarketDayRow) : DayTotals :=
  { day with
    markets := day.markets.set row.market row
    shadowInvestedCount := day.shadowInvestedCount + row.shadowInvestedCount
    symbolsStudiedCount := day.symbolsStudiedCount + row.symbolsStudiedCount
    hypotheticalNotionalInr := day.hypotheticalNotionalInr + row.hypotheticalNotionalInr
    hypotheticalPnlInr := day.hypotheticalPnlInr + row.hypotheticalPnlInr
    winners := day.winners + row.winners
    losers := day.losers + row.losers
    flat := day.flat + row.flat
    goodStocks := day.goodStocks ++ row.goodStocks
    lossStocks := day.lossStocks ++ row.lossStocks }

/-- The displayed row of a day. -/
structure DayRow extends DayTotals where
  hypotheticalPnlPct : ℚ
  status : PnlStatus

def DayTotals.displayed (day : DayTotals) : DayRow :=
  { day with
    hypotheticalPnlPct := pnlShare day.hypotheticalPnlInr day.hypotheticalNotionalInr
    goodStocks := (descendingPnl day.goodStocks).take 8
    lossStocks := (ascendingPnl day.lossStocks).take 8
    status := pnlStatus day.hypotheticalPnlInr }

structure SummaryTotals where
  daysWithSamples : ℕ
  totalShadowInvestedCount : ℕ
  totalSymbolsStudiedCount : ℕ
  totalHypotheticalNotionalInr : ℚ
  totalHypotheticalPnlInr : ℚ
  totalWinners : ℕ
  totalLosers : ℕ
  totalFlat : ℕ
  realOrders : ℕ
deriving DecidableEq

structure DayWiseSummary where
  lookbackDays : ℕ
  days : List DayRow
  latestDay : Option DayRow
  summary : SummaryTotals

section Summary

variable (zones : MarketZones) (limitDays : ℕ) (rows : List ShadowTrainingSample)

/-- The key of a sample in `latest_by_symbol_day`. -/
def symbolDay (sample : ShadowTrainingSample) : Day × Market × String :=
  (zones.localDay sample.market sample.sampleAt, sample.market, sample.symbol)

/-- The later of the sample which is known and the next one. -/
def laterSample (existing : Option ShadowTrainingSample) (sample : ShadowTrainingSample) :
    ShadowTrainingSample :=
  match existing with
  | none => sample
  | some known => if known.sampleAt < sample.sampleAt then sample else known

/-- `latest_by_symbol_day`. -/
def latestBySymbolDay : Dict (Day × Market × String) ShadowTrainingSample :=
  Dict.collect (symbolDay zones) laterSample rows

/-- `market_days`. -/
def marketDays : Dict (Day × Market) (List ShadowTrainingSample) :=
  Dict.collect (fun entry => (entry.1.1, entry.1.2.1))
    (fun samples entry => samples.getD [] ++ [entry.2]) (latestBySymbolDay zones rows).entries

/-- `market_rows`, sorted. -/
def marketRows : List MarketDayRow :=
  descending (fun row => toLex (row.reviewDate, row.market.value))
    ((marketDays zones rows).entries.map fun entry =>
      marketDayProfitLossRow entry.1.1 entry.1.2 entry.2)

/-- `by_day`. -/
def byDay : Dict Day DayTotals :=
  Dict.collect (·.reviewDate)
    (fun day row => (day.getD { reviewDate := row.reviewDate }).add row) (marketRows zones rows)

/-- What `_day_wise_profit_loss_summary` makes of the rows of its query. -/
def dayWiseOfRows : DayWiseSummary :=
  let days := ((descending (·.reviewDate) (byDay zones rows).values).take limitDays).map
    (·.displayed)
  { lookbackDays := limitDays
    days
    latestDay := days.head?
    summary :=
      { daysWithSamples := days.length
        totalShadowInvestedCount := (days.map (·.shadowInvestedCount)).sum
        totalSymbolsStudiedCount := (days.map (·.symbolsStudiedCount)).sum
        totalHypotheticalNotionalInr := (days.map (·.hypotheticalNotionalInr)).sum
        totalHypotheticalPnlInr := (days.map (·.hypotheticalPnlInr)).sum
        totalWinners := (days.map (·.winners)).sum
        totalLosers := (days.map (·.losers)).sum
        totalFlat := (days.map (·.flat)).sum
        realOrders := 0 } }

/-- The instant before which samples are not read. -/
def queryCutoff (now : ℤ) : ℤ := now - (limitDays + 3) * microsecondsPerDay

/-- The rows of the query over a table. -/
def queryRows (now : ℤ) (table : List ShadowTrainingSample) : List ShadowTrainingSample :=
  descending (·.sampleAt) (table.filter (queryCutoff limitDays now ≤ ·.sampleAt))

/-- `_day_wise_profit_loss_summary`. -/
def dayWiseProfitLossSummary (now : ℤ) (table : List ShadowTrainingSample) : DayWiseSummary :=
  dayWiseOfRows zones limitDays (queryRows limitDays now table)

end Summary

section Days

variable (zones : MarketZones) (limitDays : ℕ) (rows : List ShadowTrainingSample)

/-- The local days on which there are samples. -/
def sampledDays : List Day :=
  (rows.map fun sample => zones.localDay sample.market sample.sampleAt).dedup

/-- A day of samples with fewer later ones than the limit. -/
def IsDisplayed (day : Day) : Prop :=
  day ∈ sampledDays zones rows ∧ ((sampledDays zones rows).filter (day < ·)).length < limitDays

instance (day : Day) : Decidable (IsDisplayed zones limitDays rows day) :=
  inferInstanceAs (Decidable (_ ∧ _))

theorem mem_keys_latestBySymbolDay (key : Day × Market × String) :
    key ∈ (latestBySymbolDay zones rows).keys ↔ ∃ sample ∈ rows, symbolDay zones sample = key :=
  Dict.mem_keys_collect _ _ rows key

theorem mem_keys_marketDays (day : Day) (market : Market) :
    (day, market) ∈ (marketDays zones rows).keys ↔ ∃ sample ∈ rows,
      zones.localDay sample.market sample.sampleAt = day ∧ sample.market = market := by
  rw [marketDays, Dict.mem_keys_collect]
  constructor
  · rintro ⟨entry, member, same⟩
    have bound : entry.1 ∈ (latestBySymbolDay zones rows).keys := List.mem_map_of_mem member
    obtain ⟨sample, isRow, key⟩ := (mem_keys_latestBySymbolDay zones rows _).mp bound
    rw [← key] at same
    exact ⟨sample, isRow, Prod.ext_iff.mp same⟩
  · rintro ⟨sample, isRow, onDay, ofMarket⟩
    have bound : symbolDay zones sample ∈ (latestBySymbolDay zones rows).keys :=
      (mem_keys_latestBySymbolDay zones rows _).mpr ⟨sample, isRow, rfl⟩
    obtain ⟨entry, member, key⟩ := List.mem_map.mp bound
    refine ⟨entry, member, ?_⟩
    rw [key]
    exact Prod.ext onDay ofMarket

theorem mem_marketRows {row : MarketDayRow} : row ∈ marketRows zones rows ↔
    ∃ day market samples, (marketDays zones rows).get? (day, market) = some samples ∧
      marketDayProfitLossRow day market samples = row := by
  rw [marketRows, mem_descending, List.mem_map]
  constructor
  · rintro ⟨entry, member, rfl⟩
    exact ⟨entry.1.1, entry.1.2, entry.2, Dict.get?_of_mem_entries member, rfl⟩
  · rintro ⟨day, market, samples, bound, rfl⟩
    exact ⟨_, Dict.mem_entries_of_get? bound, rfl⟩

/-- A market has one row of a day. -/
theorem nodup_marketRows :
    ((marketRows zones rows).map fun row => (row.reviewDate, row.market)).Nodup := by
  rw [marketRows, ((descending_perm _ _).map _).nodup_iff, List.map_map]
  exact (marketDays zones rows).distinct

theorem mem_keys_byDay (day : Day) :
    day ∈ (byDay zones rows).keys ↔ day ∈ sampledDays zones rows := by
  rw [byDay, Dict.mem_keys_collect, sampledDays, List.mem_dedup, List.mem_map]
  constructor
  · rintro ⟨row, member, rfl⟩
    obtain ⟨day, market, samples, bound, rfl⟩ := (mem_marketRows zones rows).mp member
    obtain ⟨sample, isRow, onDay, -⟩ :=
      (mem_keys_marketDays zones rows day market).mp (Dict.mem_keys_of_get? bound)
    exact ⟨sample, isRow, onDay⟩
  · rintro ⟨sample, isRow, onDay⟩
    have bound := (mem_keys_marketDays zones rows day sample.market).mpr ⟨sample, isRow, onDay, rfl⟩
    obtain ⟨entry, member, key⟩ := List.mem_map.mp bound
    have row := (mem_marketRows zones rows).mpr
      ⟨entry.1.1, entry.1.2, entry.2, Dict.get?_of_mem_entries member, rfl⟩
    exact ⟨_, row, congrArg Prod.fst key⟩

theorem foldl_add_reviewDate (own : List MarketDayRow) (totals : DayTotals) :
    (own.foldl .add totals).reviewDate = totals.reviewDate := by
  induction own generalizing totals with
  | nil => rfl
  | cons row rest ih => exact ih (totals.add row)

/-- The rows of the markets of a day. -/
def dayRows (day : Day) : List MarketDayRow :=
  (marketRows zones rows).filter (·.reviewDate = day)

/-- The row of a day is made of them. -/
theorem get?_byDay (day : Day) : (byDay zones rows).get? day =
    if dayRows zones rows day = [] then none
    else some ((dayRows zones rows day).foldl .add { reviewDate := day }) := by
  rw [byDay, Dict.get?_collect, ← dayRows]
  apply Dict.foldl_getD
  intro row member
  have onDay : row.reviewDate = day := by simpa using (List.mem_filter.mp member).2
  rw [onDay]

theorem reviewDate_of_get? {day : Day} {totals : DayTotals}
    (bound : (byDay zones rows).get? day = some totals) : totals.reviewDate = day := by
  rw [get?_byDay] at bound
  split_ifs at bound
  cases bound
  exact foldl_add_reviewDate _ _

theorem map_reviewDate_values :
    (byDay zones rows).values.map (·.reviewDate) = (byDay zones rows).keys := by
  rw [Dict.values, Dict.keys, List.map_map]
  exact List.map_congr_left fun entry member =>
    reviewDate_of_get? zones rows (Dict.get?_of_mem_entries member)

/-- The displayed rows are those of the newest days of samples. -/
theorem mem_days {row : DayRow} : row ∈ (dayWiseOfRows zones limitDays rows).days ↔
    ∃ day, IsDisplayed zones limitDays rows day ∧
      ((byDay zones rows).get? day).map (·.displayed) = some row := by
  have distinct : ((byDay zones rows).values.map (·.reviewDate)).Nodup := by
    rw [map_reviewDate_values]
    exact (byDay zones rows).distinct
  have laterDays : ∀ day, ((byDay zones rows).values.filter (day < ·.reviewDate)).length =
      ((sampledDays zones rows).filter (day < ·)).length := by
    intro day
    have same : (byDay zones rows).keys.Perm (sampledDays zones rows) :=
      (List.perm_ext_iff_of_nodup (byDay zones rows).distinct (List.nodup_dedup _)).mpr
        (mem_keys_byDay zones rows)
    rw [← (same.filter _).length_eq, ← map_reviewDate_values, List.filter_map, List.length_map]
    rfl
  have isDisplayed : ∀ {day totals}, (byDay zones rows).get? day = some totals →
      (totals ∈ newest (·.reviewDate) limitDays (byDay zones rows).values ↔
        IsDisplayed zones limitDays rows day) := by
    intro day totals bound
    have member : totals ∈ (byDay zones rows).values :=
      List.mem_map.mpr ⟨_, Dict.mem_entries_of_get? bound, rfl⟩
    have sampled := (mem_keys_byDay zones rows day).mp (Dict.mem_keys_of_get? bound)
    rw [mem_newest_iff _ distinct member, laterDays, reviewDate_of_get? zones rows bound,
      IsDisplayed, and_iff_right sampled]
  simp only [dayWiseOfRows, List.mem_map, Option.map_eq_some_iff]
  constructor
  · rintro ⟨totals, member, rfl⟩
    obtain ⟨entry, located, rfl⟩ := List.mem_map.mp
      ((mem_descending _).mp (List.mem_of_mem_take member))
    have bound := Dict.get?_of_mem_entries located
    exact ⟨entry.1, (isDisplayed bound).mp member, entry.2, bound, rfl⟩
  · rintro ⟨day, displayed, totals, bound, rfl⟩
    exact ⟨totals, (isDisplayed bound).mpr displayed, rfl⟩

end Days

/-- A mark of ten shares which were bought at a price of 100. -/
def markOf (market : Market) (symbol : String) (sampleAt : ℤ) (price : ℚ) :
    ShadowTrainingSample where
  observationId := "obs-1"
  market
  symbol
  signalId := "sig-1"
  sampleAt
  entryPrice := 100
  currentPrice := price
  hypotheticalQuantity := 10
  hypotheticalNotionalInr := 1000
  hypotheticalPnlInr := (price - 100) * 10
  hypotheticalPnlPct := (price - 100) / 100
  sampleKind := .intradayMark
  metadataJson := ⟨1, ⟨.buy, some 95, some 110⟩, ⟨.buy, some 95, some 110⟩, none⟩

end AlphaAgent.Performance
