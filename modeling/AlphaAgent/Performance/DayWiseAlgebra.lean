import AlphaAgent.Performance.DayWise
import Mathlib.Tactic.Linarith

/-!
# The algebra of the day-wise summary

A sample contributes to the summary when it is the latest of its symbol on its local
day, in whatever order the rows come. What is displayed of a market is about its
contributing samples; the totals of a day are sums over its markets, and those of the
summary over the displayed days; and every invested position has won, lost or stayed
flat at each level.
-/

namespace AlphaAgent.Performance

open Foundation Shadow

section Latest

variable (zones : MarketZones) (rows : List ShadowTrainingSample)

/-- No two samples of a symbol and a local day are of one time. -/
def DistinctTimes : Prop :=
  (rows.map fun sample => (symbolDay zones sample, sample.sampleAt)).Nodup

instance : Decidable (DistinctTimes zones rows) := inferInstanceAs (Decidable (List.Nodup _))

/-- The sample is the latest of its symbol on its local day. -/
def isLatest (sample : ShadowTrainingSample) : Bool :=
  rows.all fun other => symbolDay zones other ≠ symbolDay zones sample ||
    other.sampleAt ≤ sample.sampleAt

/-- The samples which stand for a market on a day. -/
def contributing (day : Day) (market : Market) : List ShadowTrainingSample :=
  rows.filter fun sample => isLatest zones rows sample &&
    zones.localDay sample.market sample.sampleAt = day && sample.market = market

variable {zones rows}

theorem isLatest_iff {sample : ShadowTrainingSample} : isLatest zones rows sample = true ↔
    ∀ other ∈ rows, symbolDay zones other = symbolDay zones sample →
      other.sampleAt ≤ sample.sampleAt := by
  simp [isLatest, imp_iff_not_or]

/-- The fold of `laterSample` finds a sample than which none is later. -/
theorem foldl_laterSample {samples : List ShadowTrainingSample} {sample : ShadowTrainingSample}
    (found : samples.foldl (fun value row => some (laterSample value row)) none = some sample) :
    sample ∈ samples ∧ ∀ other ∈ samples, other.sampleAt ≤ sample.sampleAt := by
  induction samples using List.reverseRecOn generalizing sample with
  | nil => cases found
  | append_singleton samples last ih =>
    rw [List.foldl_append, List.foldl_cons, List.foldl_nil, Option.some.injEq] at found
    cases before : samples.foldl (fun value row => some (laterSample value row)) none with
    | none =>
      obtain rfl := (Dict.foldl_some_eq_none laterSample).mp before
      obtain rfl : last = sample := found
      exact ⟨List.mem_cons_self, fun other member => (List.mem_singleton.mp member ▸ le_rfl)⟩
    | some known =>
      obtain ⟨member, latest⟩ := ih before
      rw [before, laterSample] at found
      simp only [List.forall_mem_append, List.forall_mem_singleton]
      split_ifs at found with later
      · obtain rfl : last = sample := found
        exact ⟨List.mem_append_right _ List.mem_cons_self,
          fun other among => (latest other among).trans later.le, le_rfl⟩
      · obtain rfl : known = sample := found
        exact ⟨List.mem_append_left _ member, latest, not_lt.mp later⟩

/-- The dictionary has the latest sample of each symbol and local day. -/
theorem get?_latestBySymbolDay (distinct : DistinctTimes zones rows) (key : Day × Market × String)
    (sample : ShadowTrainingSample) :
    (latestBySymbolDay zones rows).get? key = some sample ↔
      symbolDay zones sample = key ∧ sample ∈ rows ∧ isLatest zones rows sample = true := by
  rw [latestBySymbolDay, Dict.get?_collect, isLatest_iff]
  constructor
  · intro found
    obtain ⟨member, latest⟩ := foldl_laterSample found
    obtain ⟨isRow, same⟩ := List.mem_filter.mp member
    have same : symbolDay zones sample = key := by simpa using same
    refine ⟨same, isRow,
      fun other isOther alike => latest other (List.mem_filter.mpr ⟨isOther, ?_⟩)⟩
    simpa using alike.trans same
  · rintro ⟨same, isRow, latest⟩
    have among : sample ∈ rows.filter (symbolDay zones · = key) :=
      List.mem_filter.mpr ⟨isRow, by simpa using same⟩
    cases found : (rows.filter (symbolDay zones · = key)).foldl
        (fun value row => some (laterSample value row)) none with
    | none =>
      have empty := (Dict.foldl_some_eq_none laterSample).mp found
      rw [empty] at among
      exact absurd among List.not_mem_nil
    | some best =>
      obtain ⟨member, greatest⟩ := foldl_laterSample found
      obtain ⟨isBest, alike⟩ := List.mem_filter.mp member
      have alike : symbolDay zones best = key := by simpa using alike
      have sameTime : best.sampleAt = sample.sampleAt :=
        le_antisymm (latest best isBest (alike.trans same.symm)) (greatest sample among)
      have equal : best = sample := List.inj_on_of_nodup_map distinct isBest isRow
        (Prod.ext (alike.trans same.symm) sameTime)
      rw [equal]

/-- The samples which are kept for a market and a day are its latest ones. -/
theorem get?_marketDays_perm (distinct : DistinctTimes zones rows) {day : Day} {market : Market}
    {samples : List ShadowTrainingSample}
    (bound : (marketDays zones rows).get? (day, market) = some samples) :
    samples.Perm (contributing zones rows day market) := by
  rw [marketDays, Dict.get?_collect, Dict.foldl_group] at bound
  split_ifs at bound
  obtain rfl := Option.some.inj bound
  have values : ((latestBySymbolDay zones rows).entries.map Prod.snd).Nodup := by
    refine List.Nodup.of_map (symbolDay zones) ?_
    rw [List.map_map]
    have key : (latestBySymbolDay zones rows).entries.map (symbolDay zones ∘ Prod.snd) =
        (latestBySymbolDay zones rows).keys := List.map_congr_left fun entry member =>
      ((get?_latestBySymbolDay distinct _ _).mp (Dict.get?_of_mem_entries member)).1
    rw [key]
    exact (latestBySymbolDay zones rows).distinct
  have rowsNodup : rows.Nodup := distinct.of_map
  refine (List.perm_ext_iff_of_nodup (values.sublist (List.filter_sublist.map _))
    (rowsNodup.filter _)).mpr fun sample => ?_
  simp only [List.mem_map, List.mem_filter, decide_eq_true_eq, Bool.and_eq_true, Prod.mk.injEq]
  constructor
  · rintro ⟨entry, ⟨member, onDay, ofMarket⟩, rfl⟩
    obtain ⟨key, isRow, latest⟩ :=
      (get?_latestBySymbolDay distinct _ _).mp (Dict.get?_of_mem_entries member)
    rw [← key] at onDay ofMarket
    exact ⟨isRow, ⟨latest, onDay⟩, ofMarket⟩
  · rintro ⟨isRow, ⟨latest, onDay⟩, ofMarket⟩
    have found := (get?_latestBySymbolDay distinct _ _).mpr ⟨rfl, isRow, latest⟩
    exact ⟨_, ⟨Dict.mem_entries_of_get? found, onDay, ofMarket⟩, rfl⟩

/-- Each symbol of a market and a day has one sample which stands for it. -/
theorem existsUnique_contributing (distinct : DistinctTimes zones rows)
    {sample : ShadowTrainingSample} (isRow : sample ∈ rows) :
    ∃! latest, latest ∈ contributing zones rows (zones.localDay sample.market sample.sampleAt)
      sample.market ∧ latest.symbol = sample.symbol := by
  have spells : ∀ other, (latestBySymbolDay zones rows).get? (symbolDay zones sample) = some other ↔
      other ∈ contributing zones rows (zones.localDay sample.market sample.sampleAt) sample.market ∧
        other.symbol = sample.symbol := by
    intro other
    simp only [get?_latestBySymbolDay distinct, contributing, List.mem_filter, Bool.and_eq_true,
      decide_eq_true_eq, symbolDay, Prod.mk.injEq]
    tauto
  have bound := (mem_keys_latestBySymbolDay zones rows _).mpr ⟨sample, isRow, rfl⟩
  cases found : (latestBySymbolDay zones rows).get? (symbolDay zones sample) with
  | none => exact absurd bound ((Dict.get?_eq_none_iff _ _).mp found)
  | some latest =>
    refine ⟨latest, (spells latest).mp found, fun other stands => ?_⟩
    have also := (spells other).mpr stands
    rw [found, Option.some.injEq] at also
    exact also.symm

section Order

variable {table : List ShadowTrainingSample} (perm : rows.Perm table)
include perm

theorem isLatest_perm (sample : ShadowTrainingSample) :
    isLatest zones rows sample = isLatest zones table sample := by
  rw [Bool.eq_iff_iff, isLatest_iff, isLatest_iff]
  simp only [perm.mem_iff]

theorem contributing_perm (day : Day) (market : Market) :
    (contributing zones rows day market).Perm (contributing zones table day market) := by
  simp only [contributing, isLatest_perm perm]
  exact perm.filter _

theorem isDisplayed_perm {limitDays : ℕ} (day : Day) :
    IsDisplayed zones limitDays rows day ↔ IsDisplayed zones limitDays table day := by
  have same : (sampledDays zones rows).Perm (sampledDays zones table) := (perm.map _).dedup
  rw [IsDisplayed, IsDisplayed, same.mem_iff, (same.filter _).length_eq]

end Order
end Latest

section Levels

variable (zones : MarketZones) (table : List ShadowTrainingSample)

/-- The positions among the samples which stand for a market on a day. -/
def positions (day : Day) (market : Market) : List StockRow :=
  ((contributing zones table day market).map (stockRow market)).filter (·.isInvested)

/-- A row shows the samples which stand for its market and day, and counts the
positions among them. -/
structure MarketAlgebra (day : Day) (market : Market) (row : MarketDayRow) : Prop where
  stockRows : row.stockRows.Perm ((contributing zones table day market).map (stockRow market))
  symbolsStudiedCount : row.symbolsStudiedCount = (contributing zones table day market).length
  shadowInvestedCount : row.shadowInvestedCount = (positions zones table day market).length
  hypotheticalNotionalInr : row.hypotheticalNotionalInr =
    ((positions zones table day market).map (·.hypotheticalNotionalInr)).sum
  hypotheticalPnlInr : row.hypotheticalPnlInr =
    ((positions zones table day market).map (·.hypotheticalPnlInr)).sum
  winners : row.winners =
    ((positions zones table day market).filter (0 < ·.hypotheticalPnlInr)).length
  losers : row.losers =
    ((positions zones table day market).filter (·.hypotheticalPnlInr < 0)).length
  partition : row.winners + row.losers + row.flat = row.shadowInvestedCount

variable {zones table}

theorem marketAlgebra_of_perm {day : Day} {market : Market} {samples : List ShadowTrainingSample}
    (perm : samples.Perm (contributing zones table day market)) :
    MarketAlgebra zones table day market (marketDayProfitLossRow day market samples) := by
  have stockRows : (descendingPnl (samples.map (stockRow market))).Perm
      ((contributing zones table day market).map (stockRow market)) :=
    (descending_perm _ _).trans (perm.map _)
  have invested := stockRows.filter (·.isInvested)
  exact {
    stockRows
    symbolsStudiedCount := stockRows.length_eq.trans (List.length_map _)
    shadowInvestedCount := invested.length_eq
    hypotheticalNotionalInr := (invested.map _).sum_eq
    hypotheticalPnlInr := (invested.map _).sum_eq
    winners := (invested.filter _).length_eq
    losers := (invested.filter _).length_eq
    partition := length_signs (fun row : StockRow => row.hypotheticalPnlInr) _ }

/-- The totals of a day are those of its markets. -/
structure DayTotals.Balanced (day : DayTotals) : Prop where
  shadowInvestedCount : day.shadowInvestedCount = day.markets.total (·.shadowInvestedCount)
  symbolsStudiedCount : day.symbolsStudiedCount = day.markets.total (·.symbolsStudiedCount)
  hypotheticalNotionalInr :
    day.hypotheticalNotionalInr = day.markets.total (·.hypotheticalNotionalInr)
  hypotheticalPnlInr : day.hypotheticalPnlInr = day.markets.total (·.hypotheticalPnlInr)
  winners : day.winners = day.markets.total (·.winners)
  losers : day.losers = day.markets.total (·.losers)
  flat : day.flat = day.markets.total (·.flat)
  partition : day.winners + day.losers + day.flat = day.shadowInvestedCount

/-- They stay so with the row of a market which has none yet. -/
theorem DayTotals.Balanced.add {day : DayTotals} (balanced : day.Balanced) {row : MarketDayRow}
    (unbound : day.markets.get? row.market = none)
    (partition : row.winners + row.losers + row.flat = row.shadowInvestedCount) :
    (day.add row).Balanced where
  shadowInvestedCount := by
    rw [DayTotals.add, Dict.total_set_of_unbound _ _ unbound, balanced.shadowInvestedCount]
  symbolsStudiedCount := by
    rw [DayTotals.add, Dict.total_set_of_unbound _ _ unbound, balanced.symbolsStudiedCount]
  hypotheticalNotionalInr := by
    rw [DayTotals.add, Dict.total_set_of_unbound _ _ unbound, balanced.hypotheticalNotionalInr]
  hypotheticalPnlInr := by
    rw [DayTotals.add, Dict.total_set_of_unbound _ _ unbound, balanced.hypotheticalPnlInr]
  winners := by rw [DayTotals.add, Dict.total_set_of_unbound _ _ unbound, balanced.winners]
  losers := by rw [DayTotals.add, Dict.total_set_of_unbound _ _ unbound, balanced.losers]
  flat := by rw [DayTotals.add, Dict.total_set_of_unbound _ _ unbound, balanced.flat]
  partition := by
    have before := balanced.partition
    simp only [DayTotals.add]
    omega

/-- The markets of a day are bound to its rows. -/
theorem foldl_add_get? (day : Day) {own : List MarketDayRow} (nodup : (own.map (·.market)).Nodup)
    (market : Market) (row : MarketDayRow) :
    (own.foldl .add { reviewDate := day } : DayTotals).markets.get? market = some row ↔
      row ∈ own ∧ row.market = market := by
  induction own using List.reverseRecOn with
  | nil => simp
  | append_singleton own last ih =>
    rw [List.map_append, List.nodup_append] at nodup
    obtain ⟨nodup, -, apart⟩ := nodup
    rw [List.foldl_append, List.foldl_cons, List.foldl_nil, DayTotals.add, Dict.get?_set,
      List.mem_append, List.mem_singleton]
    split_ifs with same
    · subst same
      constructor
      · rintro ⟨⟩
        exact ⟨.inr rfl, rfl⟩
      · rintro ⟨member | rfl, sameMarket⟩
        · have different := apart _ (List.mem_map_of_mem member) _ (List.mem_map_of_mem
            List.mem_cons_self)
          exact absurd sameMarket different
        · rfl
    · rw [ih nodup]
      constructor
      · rintro ⟨member, ofMarket⟩
        exact ⟨.inl member, ofMarket⟩
      · rintro ⟨member | rfl, ofMarket⟩
        · exact ⟨member, ofMarket⟩
        · exact absurd ofMarket.symm same

theorem foldl_add_balanced (day : Day) {own : List MarketDayRow}
    (nodup : (own.map (·.market)).Nodup)
    (partition : ∀ row ∈ own, row.winners + row.losers + row.flat = row.shadowInvestedCount) :
    (own.foldl .add { reviewDate := day } : DayTotals).Balanced := by
  induction own using List.reverseRecOn with
  | nil => exact ⟨rfl, rfl, rfl, rfl, rfl, rfl, rfl, rfl⟩
  | append_singleton own last ih =>
    rw [List.map_append, List.nodup_append] at nodup
    obtain ⟨nodup, -, apart⟩ := nodup
    have balanced := ih nodup fun row member => partition row (List.mem_append_left _ member)
    rw [List.foldl_append, List.foldl_cons, List.foldl_nil]
    refine balanced.add ?_ (partition last (List.mem_append_right _ List.mem_cons_self))
    rw [Option.eq_none_iff_forall_ne_some]
    intro row bound
    obtain ⟨member, sameMarket⟩ := (foldl_add_get? day nodup _ _).mp bound
    exact apart _ (List.mem_map_of_mem member) _ (List.mem_map_of_mem List.mem_cons_self) sameMarket

/-- The totals of the summary are those of the displayed days. -/
structure DayWiseSummary.Balanced (shown : DayWiseSummary) : Prop where
  daysWithSamples : shown.summary.daysWithSamples = shown.days.length
  totalShadowInvestedCount :
    shown.summary.totalShadowInvestedCount = (shown.days.map (·.shadowInvestedCount)).sum
  totalSymbolsStudiedCount :
    shown.summary.totalSymbolsStudiedCount = (shown.days.map (·.symbolsStudiedCount)).sum
  totalHypotheticalNotionalInr :
    shown.summary.totalHypotheticalNotionalInr = (shown.days.map (·.hypotheticalNotionalInr)).sum
  totalHypotheticalPnlInr :
    shown.summary.totalHypotheticalPnlInr = (shown.days.map (·.hypotheticalPnlInr)).sum
  totalWinners : shown.summary.totalWinners = (shown.days.map (·.winners)).sum
  totalLosers : shown.summary.totalLosers = (shown.days.map (·.losers)).sum
  totalFlat : shown.summary.totalFlat = (shown.days.map (·.flat)).sum
  partition : shown.summary.totalWinners + shown.summary.totalLosers + shown.summary.totalFlat =
    shown.summary.totalShadowInvestedCount

variable (zones table)

/-- The algebra of the summary over a table. -/
structure DayWiseAlgebra (limitDays : ℕ) (shown : DayWiseSummary) : Prop where
  latest : ∀ sample ∈ table, ∃! latest, latest ∈ contributing zones table
    (zones.localDay sample.market sample.sampleAt) sample.market ∧ latest.symbol = sample.symbol
  displayed : ∀ day, (∃ row ∈ shown.days, row.reviewDate = day) ↔
    IsDisplayed zones limitDays table day
  once : (shown.days.map (·.reviewDate)).Nodup
  markets : ∀ day ∈ shown.days, ∀ market,
    (contributing zones table day.reviewDate market = [] ∧ day.markets.get? market = none) ∨
      ∃ row, day.markets.get? market = some row ∧
        MarketAlgebra zones table day.reviewDate market row
  days : ∀ day ∈ shown.days, day.Balanced
  summary : shown.Balanced

end Levels

section Algebra

variable {zones : MarketZones} {limitDays : ℕ} {rows : List ShadowTrainingSample}

theorem mem_dayRows {day : Day} {row : MarketDayRow} : row ∈ dayRows zones rows day ↔
    ∃ market samples, (marketDays zones rows).get? (day, market) = some samples ∧
      marketDayProfitLossRow day market samples = row := by
  simp only [dayRows, List.mem_filter, decide_eq_true_eq, mem_marketRows]
  constructor
  · rintro ⟨⟨day, market, samples, bound, rfl⟩, rfl⟩
    exact ⟨market, samples, bound, rfl⟩
  · rintro ⟨market, samples, bound, rfl⟩
    exact ⟨⟨day, market, samples, bound, rfl⟩, rfl⟩

theorem nodup_dayRows (day : Day) : ((dayRows zones rows day).map (·.market)).Nodup := by
  have pairs : (dayRows zones rows day).map (fun row => (row.reviewDate, row.market)) =
      ((dayRows zones rows day).map (·.market)).map (Prod.mk day) := by
    rw [List.map_map]
    refine List.map_congr_left fun row member => ?_
    obtain ⟨market, samples, -, rfl⟩ := mem_dayRows.mp member
    rfl
  refine List.Nodup.of_map (Prod.mk day) ?_
  rw [← pairs]
  exact (nodup_marketRows zones rows).sublist (List.filter_sublist.map _)

/-- A displayed row adds up the rows of its day. -/
theorem eq_displayed_of_mem_days {row : DayRow}
    (member : row ∈ (dayWiseOfRows zones limitDays rows).days) :
    IsDisplayed zones limitDays rows row.reviewDate ∧
      row = ((dayRows zones rows row.reviewDate).foldl .add
        { reviewDate := row.reviewDate } : DayTotals).displayed := by
  obtain ⟨day, displayed, shown⟩ := (mem_days zones limitDays rows).mp member
  rw [get?_byDay] at shown
  split_ifs at shown
  · cases shown
  · obtain rfl := Option.some.inj shown
    have reviewDate : ((dayRows zones rows day).foldl .add
        { reviewDate := day } : DayTotals).displayed.reviewDate = day := foldl_add_reviewDate _ _
    rw [reviewDate]
    exact ⟨displayed, rfl⟩

theorem balanced_of_mem_days {row : DayRow}
    (member : row ∈ (dayWiseOfRows zones limitDays rows).days) : row.Balanced := by
  obtain ⟨-, equal⟩ := eq_displayed_of_mem_days member
  have partition : ∀ own ∈ dayRows zones rows row.reviewDate,
      own.winners + own.losers + own.flat = own.shadowInvestedCount := by
    intro own among
    obtain ⟨market, samples, -, rfl⟩ := mem_dayRows.mp among
    exact length_signs (fun row : StockRow => row.hypotheticalPnlInr) _
  have balanced := foldl_add_balanced row.reviewDate (nodup_dayRows _) partition
  rw [equal]
  exact ⟨balanced.1, balanced.2, balanced.3, balanced.4, balanced.5, balanced.6, balanced.7,
    balanced.8⟩

theorem dayWiseOfRows_balanced : (dayWiseOfRows zones limitDays rows).Balanced where
  daysWithSamples := rfl
  totalShadowInvestedCount := rfl
  totalSymbolsStudiedCount := rfl
  totalHypotheticalNotionalInr := rfl
  totalHypotheticalPnlInr := rfl
  totalWinners := rfl
  totalLosers := rfl
  totalFlat := rfl
  partition := by
    change ((dayWiseOfRows zones limitDays rows).days.map (·.winners)).sum +
      ((dayWiseOfRows zones limitDays rows).days.map (·.losers)).sum +
      ((dayWiseOfRows zones limitDays rows).days.map (·.flat)).sum =
      ((dayWiseOfRows zones limitDays rows).days.map (·.shadowInvestedCount)).sum
    rw [← List.sum_map_add, ← List.sum_map_add]
    congr 1
    exact List.map_congr_left fun row member => (balanced_of_mem_days member).partition

theorem markets_of_mem_days (distinct : DistinctTimes zones rows) {row : DayRow}
    (member : row ∈ (dayWiseOfRows zones limitDays rows).days) (market : Market) :
    (contributing zones rows row.reviewDate market = [] ∧ row.markets.get? market = none) ∨
      ∃ samples, samples.Perm (contributing zones rows row.reviewDate market) ∧
        row.markets.get? market = some (marketDayProfitLossRow row.reviewDate market samples) := by
  obtain ⟨-, equal⟩ := eq_displayed_of_mem_days member
  have spells : ∀ own, row.markets.get? market = some own ↔
      own ∈ dayRows zones rows row.reviewDate ∧ own.market = market := by
    have markets := congrArg (fun row : DayRow => row.markets.get? market) equal
    intro own
    rw [show row.markets.get? market = _ from markets]
    exact foldl_add_get? row.reviewDate (nodup_dayRows _) market own
  cases bound : (marketDays zones rows).get? (row.reviewDate, market) with
  | some samples =>
    exact .inr ⟨samples, get?_marketDays_perm distinct bound,
      (spells _).mpr ⟨mem_dayRows.mpr ⟨market, samples, bound, rfl⟩, rfl⟩⟩
  | none =>
    refine .inl ⟨?_, Option.eq_none_iff_forall_ne_some.mpr fun own shown => ?_⟩
    · have unsampled := mt (mem_keys_marketDays zones rows row.reviewDate market).mpr
        ((Dict.get?_eq_none_iff _ _).mp bound)
      refine List.filter_eq_nil_iff.mpr fun sample isRow stands => unsampled ⟨sample, isRow, ?_⟩
      simp only [Bool.and_eq_true, decide_eq_true_eq] at stands
      exact ⟨stands.1.2, stands.2⟩
    · obtain ⟨among, ofMarket⟩ := (spells own).mp shown
      obtain ⟨other, samples, read, rfl⟩ := mem_dayRows.mp among
      have ofMarket : other = market := ofMarket
      rw [ofMarket, bound] at read
      cases read

theorem nodup_days : ((dayWiseOfRows zones limitDays rows).days.map (·.reviewDate)).Nodup := by
  have distinct :
      ((descending (·.reviewDate) (byDay zones rows).values).map (·.reviewDate)).Nodup := by
    rw [((descending_perm _ _).map _).nodup_iff, map_reviewDate_values]
    exact (byDay zones rows).distinct
  simp only [dayWiseOfRows, List.map_map]
  exact distinct.sublist ((List.take_sublist _ _).map _)

/-- In whatever order they come, the rows have the algebra of their table. -/
theorem dayWiseOfRows_algebra {table : List ShadowTrainingSample} (perm : rows.Perm table)
    (distinct : DistinctTimes zones table) :
    DayWiseAlgebra zones table limitDays (dayWiseOfRows zones limitDays rows) where
  latest sample member := existsUnique_contributing distinct member
  displayed day := by
    rw [← isDisplayed_perm perm]
    constructor
    · rintro ⟨row, member, rfl⟩
      exact (eq_displayed_of_mem_days member).1
    · intro displayed
      have bound := (mem_keys_byDay zones rows day).mpr displayed.1
      cases found : (byDay zones rows).get? day with
      | none => exact absurd bound ((Dict.get?_eq_none_iff _ _).mp found)
      | some totals =>
        have shown : ((byDay zones rows).get? day).map (·.displayed) = some totals.displayed := by
          rw [found]
          rfl
        have ofDay : totals.reviewDate = day := reviewDate_of_get? zones rows found
        exact ⟨totals.displayed, (mem_days zones limitDays rows).mpr ⟨day, displayed, shown⟩, ofDay⟩
  once := nodup_days
  markets row member market := by
    have distinctRows : DistinctTimes zones rows := (perm.map _).nodup_iff.mpr distinct
    have same : (contributing zones rows row.reviewDate market).Perm
        (contributing zones table row.reviewDate market) := contributing_perm perm _ _
    rcases markets_of_mem_days distinctRows member market with ⟨empty, none⟩
      | ⟨samples, latest, shown⟩
    · rw [empty] at same
      exact .inl ⟨same.nil_eq.symm, none⟩
    · exact .inr ⟨_, shown, marketAlgebra_of_perm (latest.trans same)⟩
  days _ member := balanced_of_mem_days member
  summary := dayWiseOfRows_balanced

/-- The summary of a table inside the window has its algebra, whatever the order in
which the query returns the rows. -/
theorem dayWise_algebra (zones : MarketZones) (limitDays : ℕ) (now : ℤ)
    {table : List ShadowTrainingSample}
    (inside : ∀ sample ∈ table, queryCutoff limitDays now ≤ sample.sampleAt)
    (distinct : DistinctTimes zones table) :
    DayWiseAlgebra zones table limitDays (dayWiseProfitLossSummary zones limitDays now table) ∧
      ∀ rows : List ShadowTrainingSample, rows.Perm table →
        DayWiseAlgebra zones table limitDays (dayWiseOfRows zones limitDays rows) := by
  have returned : (queryRows limitDays now table).Perm table := by
    have all : table.filter (queryCutoff limitDays now ≤ ·.sampleAt) = table :=
      List.filter_eq_self.mpr fun sample member => by simpa using inside sample member
    rw [queryRows, all]
    exact descending_perm _ _
  exact ⟨dayWiseOfRows_algebra returned distinct,
    fun rows perm => dayWiseOfRows_algebra perm distinct⟩

/-- Two marks of one symbol and a mark of the other market: the later mark stands for its
symbol, and the day has the loss of one market and the gain of the other. -/
theorem dayWise_algebra_markets :
    let noon := 20620 * microsecondsPerDay + 43200000000
    let table := [markOf .india "RELIANCE" (noon - 3600000000) 101, markOf .us "AAPL" noon 103,
      markOf .india "RELIANCE" noon 98]
    DayWiseAlgebra .summer table 21 (dayWiseProfitLossSummary .summer 21 noon table) ∧
      (∀ rows : List ShadowTrainingSample, rows.Perm table →
        DayWiseAlgebra .summer table 21 (dayWiseOfRows .summer 21 rows)) ∧
      (dayWiseProfitLossSummary .summer 21 noon table).summary =
        ⟨1, 2, 2, 2000, 10, 1, 1, 0, 0⟩ := by
  intro noon table
  have algebra := @dayWise_algebra .summer 21 noon table (by decide) (by decide)
  exact ⟨algebra.1, algebra.2, by decide +kernel⟩

end Algebra

end AlphaAgent.Performance
