import AlphaAgent.Performance.DayWiseAlgebra

/-!
# Days which the query cuts

The query of the day-wise summary goes back by days of the calendar, the display by
days with samples, of which a week has five. So the day of the cutoff can be displayed.
Its row is the one of all stored samples exactly when each symbol of the day has a
sample at or after the cutoff.
-/

namespace AlphaAgent.Performance

open Foundation Shadow

section Day

variable (zones : MarketZones) (day : Day)

/-- What the rows of a day are made of. -/
def latestOfDay (rows : List ShadowTrainingSample) :
    List ((Day × Market × String) × ShadowTrainingSample) :=
  (latestBySymbolDay zones rows).entries.filter fun entry => entry.1.1 = day

/-- The samples of a day. -/
def samplesOf (rows : List ShadowTrainingSample) : List ShadowTrainingSample :=
  rows.filter fun sample => zones.localDay sample.market sample.sampleAt = day

/-- They come from the samples of the day alone. -/
theorem latestOfDay_eq (rows : List ShadowTrainingSample) :
    latestOfDay zones day rows = (latestBySymbolDay zones (samplesOf zones day rows)).entries :=
  (Dict.collect_filter (symbolDay zones) laterSample (fun key => decide (key.1 = day)) rows).symm

variable {zones day}

/-- Rows of a day are grouped, sorted and chosen among themselves. -/
theorem dayRows_eq (rows : List ShadowTrainingSample) : dayRows zones rows day =
    descending (fun row => toLex (row.reviewDate, row.market.value))
      ((Dict.collect (fun entry => (entry.1.1, entry.1.2.1))
        (fun samples entry => samples.getD [] ++ [entry.2])
        (latestOfDay zones day rows)).entries.map fun entry =>
          marketDayProfitLossRow entry.1.1 entry.1.2 entry.2) := by
  rw [latestOfDay, Dict.collect_filter (fun entry : (Day × Market × String) × _ =>
    (entry.1.1, entry.1.2.1)) _ (fun key => decide (key.1 = day)), dayRows, marketRows,
    filter_descending, List.filter_map]
  rfl

theorem get?_byDay_congr {first second : List ShadowTrainingSample}
    (same : latestOfDay zones day first = latestOfDay zones day second) :
    (byDay zones first).get? day = (byDay zones second).get? day := by
  rw [get?_byDay, get?_byDay, dayRows_eq, dayRows_eq, same]

theorem foldl_add_symbolsStudiedCount (own : List MarketDayRow) (totals : DayTotals) :
    (own.foldl .add totals).symbolsStudiedCount =
      totals.symbolsStudiedCount + (own.map (·.symbolsStudiedCount)).sum := by
  induction own generalizing totals with
  | nil => rfl
  | cons row rest ih =>
    rw [List.foldl_cons, ih, List.map_cons, List.sum_cons, ← add_assoc]
    rfl

/-- The row of a day counts its symbols. -/
theorem symbolsStudiedCount_eq {rows : List ShadowTrainingSample} {totals : DayTotals}
    (bound : (byDay zones rows).get? day = some totals) :
    totals.symbolsStudiedCount = (latestOfDay zones day rows).length := by
  rw [get?_byDay] at bound
  split_ifs at bound
  obtain rfl := Option.some.inj bound
  have sizes : ∀ reviewDate market (samples : List ShadowTrainingSample),
      (marketDayProfitLossRow reviewDate market samples).symbolsStudiedCount = samples.length := by
    intro reviewDate market samples
    change (descending _ _).length = _
    rw [(descending_perm _ _).length_eq, List.length_map]
  rw [foldl_add_symbolsStudiedCount, zero_add, dayRows_eq, ((descending_perm _ _).map _).sum_eq,
    List.map_map, ← Dict.total_length_group (fun entry => (entry.1.1, entry.1.2.1)) Prod.snd,
    Dict.total, Dict.values, List.map_map]
  exact congrArg List.sum (List.map_congr_left fun entry _ => sizes _ _ _)

end Day

section Cut

variable (zones : MarketZones) (limitDays : ℕ) (now : ℤ) (table : List ShadowTrainingSample)

/-- The row of a day made of all its stored samples, in the order of the query. -/
def completeRow (day : Day) : Option DayRow :=
  ((byDay zones (descending (·.sampleAt) (samplesOf zones day table))).get? day).map (·.displayed)

/-- Each symbol with samples on the day has one which the query reads. -/
def Reaches (day : Day) : Prop :=
  ∀ sample ∈ table, zones.localDay sample.market sample.sampleAt = day →
    ∃ kept ∈ table, symbolDay zones kept = symbolDay zones sample ∧
      queryCutoff limitDays now ≤ kept.sampleAt

variable {zones limitDays now table} {day : Day}

/-- The query cuts the end off the samples of a day. -/
theorem descending_samplesOf (limitDays : ℕ) (now : ℤ) :
    descending (·.sampleAt) (samplesOf zones day table) =
      samplesOf zones day (queryRows limitDays now table) ++
        descending (·.sampleAt) ((samplesOf zones day table).filter
          fun sample => !decide (queryCutoff limitDays now ≤ sample.sampleAt)) := by
  have split : descending (·.sampleAt) (samplesOf zones day table) =
      descending (·.sampleAt) ((samplesOf zones day table).filter
        (queryCutoff limitDays now ≤ ·.sampleAt)) ++
      descending (·.sampleAt) ((samplesOf zones day table).filter
        fun sample => !decide (queryCutoff limitDays now ≤ sample.sampleAt)) := by
    refine descending_split _ _ fun kept _ reached other _ cut => ?_
    simp only [decide_eq_true_eq, decide_eq_false_iff_not, not_le] at reached cut
    exact cut.trans_le reached
  have read : samplesOf zones day (queryRows limitDays now table) =
      descending (·.sampleAt) ((samplesOf zones day table).filter
        (queryCutoff limitDays now ≤ ·.sampleAt)) := by
    rw [samplesOf, queryRows, filter_descending, samplesOf, List.filter_filter, List.filter_filter]
    simp only [Bool.and_comm]
  rw [split, read]

theorem mem_samplesOf {rows : List ShadowTrainingSample} {sample : ShadowTrainingSample} :
    sample ∈ samplesOf zones day rows ↔
      sample ∈ rows ∧ zones.localDay sample.market sample.sampleAt = day := by
  simp [samplesOf]

theorem mem_queryRows {sample : ShadowTrainingSample} :
    sample ∈ queryRows limitDays now table ↔
      sample ∈ table ∧ queryCutoff limitDays now ≤ sample.sampleAt := by
  simp [queryRows]

/-- What is cut off changes no value where each symbol reaches the window. -/
theorem latestOfDay_of_reaches (reaches : Reaches zones limitDays now table day) :
    latestOfDay zones day (descending (·.sampleAt) (samplesOf zones day table)) =
      latestOfDay zones day (queryRows limitDays now table) := by
  have all : samplesOf zones day (descending (·.sampleAt) (samplesOf zones day table)) =
      descending (·.sampleAt) (samplesOf zones day table) :=
    List.filter_eq_self.mpr fun sample member => by
      simpa using (mem_samplesOf.mp ((mem_descending _).mp member)).2
  rw [latestOfDay_eq, latestOfDay_eq, all, descending_samplesOf limitDays now]
  apply Dict.collect_append_of_kept
  intro sample member
  rw [mem_descending, List.mem_filter] at member
  obtain ⟨isOfDay, cut⟩ := member
  obtain ⟨isRow, onDay⟩ := mem_samplesOf.mp isOfDay
  obtain ⟨kept, isKept, same, reached⟩ := reaches sample isRow onDay
  have bound : symbolDay zones sample ∈
      (latestBySymbolDay zones (samplesOf zones day (queryRows limitDays now table))).keys := by
    refine (mem_keys_latestBySymbolDay zones _ _).mpr ⟨kept, mem_samplesOf.mpr
      ⟨mem_queryRows.mpr ⟨isKept, reached⟩, ?_⟩, same⟩
    exact (congrArg Prod.fst same).trans onDay
  cases found : (latestBySymbolDay zones (samplesOf zones day (queryRows limitDays now table))).get?
      (symbolDay zones sample) with
  | none => exact absurd bound ((Dict.get?_eq_none_iff _ _).mp found)
  | some latest =>
    refine ⟨latest, found, ?_⟩
    -- What is read is later than what is cut off.
    rw [latestBySymbolDay, Dict.get?_collect] at found
    have isLatest := (mem_queryRows.mp (mem_samplesOf.mp
      (List.mem_of_mem_filter (foldl_laterSample found).1)).1).2
    have cut : sample.sampleAt < queryCutoff limitDays now := by simpa using cut
    rw [laterSample, if_neg (not_lt.mpr (cut.le.trans isLatest))]

/-- Else the complete row counts a symbol more. -/
theorem reaches_of_length_eq
    (same : (latestOfDay zones day (descending (·.sampleAt) (samplesOf zones day table))).length =
      (latestOfDay zones day (queryRows limitDays now table)).length) :
    Reaches zones limitDays now table day := by
  intro sample isRow onDay
  have known : ∀ rows, ∀ key, key ∈ (latestOfDay zones day rows).map Prod.fst ↔
      ∃ sample ∈ samplesOf zones day rows, symbolDay zones sample = key := by
    intro rows key
    rw [latestOfDay_eq]
    exact mem_keys_latestBySymbolDay zones _ key
  have distinct : ∀ rows, ((latestOfDay zones day rows).map Prod.fst).Nodup := fun rows =>
    (latestBySymbolDay zones rows).distinct.sublist (List.filter_sublist.map _)
  have fewer : (latestOfDay zones day (queryRows limitDays now table)).map Prod.fst ⊆
      (latestOfDay zones day
        (descending (·.sampleAt) (samplesOf zones day table))).map Prod.fst := by
    intro key member
    obtain ⟨kept, ofDay, keyed⟩ := (known _ key).mp member
    obtain ⟨read, onDay⟩ := mem_samplesOf.mp ofDay
    have stored := mem_samplesOf.mpr ⟨(mem_queryRows.mp read).1, onDay⟩
    exact (known _ key).mpr ⟨kept, mem_samplesOf.mpr ⟨(mem_descending _).mpr stored, onDay⟩, keyed⟩
  have equal := (List.subperm_of_subset (distinct _) fewer).perm_of_length_le (by
    rw [List.length_map, List.length_map, same])
  have stored := mem_samplesOf.mpr ⟨isRow, onDay⟩
  obtain ⟨kept, ofDay, keyed⟩ := (known _ (symbolDay zones sample)).mp (equal.mem_iff.mpr
    ((known _ _).mpr ⟨sample, mem_samplesOf.mpr ⟨(mem_descending _).mpr stored, onDay⟩, rfl⟩))
  obtain ⟨isKept, reached⟩ := mem_queryRows.mp (mem_samplesOf.mp ofDay).1
  exact ⟨kept, isKept, keyed, reached⟩

/-- The query's rows show the same days in any order. -/
theorem isDisplayed_queryRows (zones : MarketZones) (limitDays : ℕ) (now : ℤ)
    (table : List ShadowTrainingSample) (day : Day) :
    IsDisplayed zones limitDays (queryRows limitDays now table) day ↔
      IsDisplayed zones limitDays (table.filter (queryCutoff limitDays now ≤ ·.sampleAt)) day :=
  isDisplayed_perm (descending_perm _ _) day

/-- The days of the displayed rows are the displayed days. -/
theorem reviewDate_days_iff : (∃ row ∈ (dayWiseProfitLossSummary zones limitDays now table).days,
    row.reviewDate = day) ↔ IsDisplayed zones limitDays (queryRows limitDays now table) day := by
  constructor
  · rintro ⟨row, member, rfl⟩
    obtain ⟨day, displayed, shown⟩ := (mem_days zones limitDays _).mp member
    obtain ⟨totals, found, rfl⟩ := Option.map_eq_some_iff.mp shown
    have ofDay : totals.reviewDate = day := reviewDate_of_get? zones _ found
    rw [show totals.displayed.reviewDate = day from ofDay]
    exact displayed
  · intro displayed
    have bound := (mem_keys_byDay zones _ day).mpr displayed.1
    cases found : (byDay zones (queryRows limitDays now table)).get? day with
    | none => exact absurd bound ((Dict.get?_eq_none_iff _ _).mp found)
    | some totals =>
      have ofDay : totals.reviewDate = day := reviewDate_of_get? zones _ found
      refine ⟨totals.displayed, (mem_days zones limitDays _).mpr ⟨day, displayed, ?_⟩, ofDay⟩
      rw [found]
      rfl

/-- The displayed rows are complete exactly when each symbol of a displayed day has a sample
at or after the cutoff, and of days which are not cut exactly when no sample from before the
cutoff is of a displayed day. -/
theorem completeDays_iff (zones : MarketZones) (limitDays : ℕ) (now : ℤ)
    (table : List ShadowTrainingSample) :
    ((∀ row ∈ (dayWiseProfitLossSummary zones limitDays now table).days,
        completeRow zones table row.reviewDate = some row) ↔
      ∀ day, IsDisplayed zones limitDays
        (table.filter (queryCutoff limitDays now ≤ ·.sampleAt)) day →
        Reaches zones limitDays now table day) ∧
    ((∀ row ∈ (dayWiseProfitLossSummary zones limitDays now table).days, ∀ sample ∈ table,
        zones.localDay sample.market sample.sampleAt = row.reviewDate →
          queryCutoff limitDays now ≤ sample.sampleAt) ↔
      ∀ sample ∈ table, sample.sampleAt < queryCutoff limitDays now →
        ¬IsDisplayed zones limitDays (table.filter (queryCutoff limitDays now ≤ ·.sampleAt))
          (zones.localDay sample.market sample.sampleAt)) := by
  simp only [← isDisplayed_queryRows]
  refine ⟨⟨?_, ?_⟩, ⟨?_, ?_⟩⟩
  · intro complete day displayed
    obtain ⟨row, member, ofDay⟩ := reviewDate_days_iff.mpr displayed
    have whole := complete row member
    rw [ofDay] at whole
    obtain ⟨shownDay, _, shown⟩ := (mem_days zones limitDays _).mp member
    obtain ⟨totals, found, rfl⟩ := Option.map_eq_some_iff.mp shown
    have shownAs : totals.reviewDate = shownDay := reviewDate_of_get? zones _ found
    obtain rfl : shownDay = day := shownAs.symm.trans ofDay
    obtain ⟨wholeTotals, wholeFound, equal⟩ := Option.map_eq_some_iff.mp whole
    have counts : wholeTotals.symbolsStudiedCount = totals.symbolsStudiedCount :=
      congrArg (·.symbolsStudiedCount) equal
    rw [symbolsStudiedCount_eq wholeFound, symbolsStudiedCount_eq found] at counts
    exact reaches_of_length_eq counts
  · intro reaches row member
    obtain ⟨day, displayed, shown⟩ := (mem_days zones limitDays _).mp member
    obtain ⟨totals, found, rfl⟩ := Option.map_eq_some_iff.mp shown
    have ofDay : totals.reviewDate = day := reviewDate_of_get? zones _ found
    have whole := get?_byDay_congr (latestOfDay_of_reaches (reaches day displayed))
    rw [show totals.displayed.reviewDate = day from ofDay, completeRow, whole, shown]
  · intro uncut sample stored cut displayed
    obtain ⟨row, member, ofDay⟩ := reviewDate_days_iff.mpr displayed
    exact cut.not_ge (uncut row member sample stored ofDay.symm)
  · intro uncut row member sample stored ofDay
    by_contra cut
    refine uncut sample stored (not_le.mp cut) ?_
    rw [ofDay]
    exact reviewDate_days_iff.mp ⟨row, member, rfl⟩

/-- Of a Tuesday 24 days ago the close of India is cut off, and the row which is displayed
has the symbol of the United States alone. -/
theorem completeDays_cut : ¬∀ (zones : MarketZones) (limitDays : ℕ) (now : ℤ)
    (table : List ShadowTrainingSample),
    ∀ row ∈ (dayWiseProfitLossSummary zones limitDays now table).days,
      completeRow zones table row.reviewDate = some row := by
  intro complete
  let close := 20620 * microsecondsPerDay + 10 * 3600000000
  let now := close + 24 * microsecondsPerDay + 2 * 3600000000
  let table := [markOf .india "RELIANCE" close 98, markOf .us "AAPL" (close + 5 * 3600000000) 103]
  have counts : (dayWiseProfitLossSummary .summer 21 now table).days.map (fun row =>
      (completeRow .summer table row.reviewDate).map (·.symbolsStudiedCount)) =
      (dayWiseProfitLossSummary .summer 21 now table).days.map fun row =>
        some row.symbolsStudiedCount := by
    refine List.map_congr_left fun row member => ?_
    rw [complete .summer 21 now table row member]
    rfl
  exact absurd counts (by decide +kernel)

end Cut
end AlphaAgent.Performance
