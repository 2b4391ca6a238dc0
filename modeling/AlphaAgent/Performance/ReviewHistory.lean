import AlphaAgent.Foundation.SortedGroups
import AlphaAgent.Performance.ReviewLedger

/-!
# The displayed history

The history reads the newest rows of the ledger, two for each displayed day, and groups
them by their date. A day has at most two rows, so no displayed day lacks one, in
whatever order the database returns rows of one date.
-/

namespace AlphaAgent.Performance

open Foundation

/-- The days which are displayed, and what each shows, in terms of the stored rows. -/
structure HistoryComplete (limitDays : ℕ) (stored : List DailyMarketReviewSnapshot)
    (shown : List HistoryRow) : Prop where
  newestFirst : (shown.map (·.reviewDate)).Pairwise (· > ·)
  displayed : ∀ day, day ∈ shown.map (·.reviewDate) ↔
    IsAmongGreatest (·.reviewDate) stored limitDays day
  markets : ∀ row ∈ shown, ∀ market, row.ofMarket market =
    (rowOf (·.key) (market, row.reviewDate) stored).map (·.marketRow)
  totals : ∀ row ∈ shown,
    row.totalHypotheticalPnlInr =
        ((stored.filter (·.reviewDate = row.reviewDate)).map (·.hypotheticalPnlInr)).sum ∧
      row.totalRealOrders =
        ((stored.filter (·.reviewDate = row.reviewDate)).map (·.realOrders)).sum

section Add

variable (row : HistoryRow) (snapshot : DailyMarketReviewSnapshot)

@[simp] theorem reviewDate_add : (row.add snapshot).reviewDate = row.reviewDate := by
  unfold HistoryRow.add
  cases snapshot.market <;> rfl

@[simp] theorem totalHypotheticalPnlInr_add : (row.add snapshot).totalHypotheticalPnlInr =
    row.totalHypotheticalPnlInr + snapshot.hypotheticalPnlInr := by
  unfold HistoryRow.add
  cases snapshot.market <;> rfl

@[simp] theorem totalRealOrders_add :
    (row.add snapshot).totalRealOrders = row.totalRealOrders + snapshot.realOrders := by
  unfold HistoryRow.add
  cases snapshot.market <;> rfl

theorem ofMarket_add (market : Market) : (row.add snapshot).ofMarket market =
    if snapshot.market = market then some snapshot.marketRow else row.ofMarket market := by
  unfold HistoryRow.add
  cases snapshot.market <;> cases market <;> rfl

end Add

section Day

variable (row : HistoryRow) (rows : List DailyMarketReviewSnapshot)

theorem reviewDate_foldl : (rows.foldl .add row).reviewDate = row.reviewDate := by
  induction rows generalizing row with
  | nil => rfl
  | cons snapshot rest ih => rw [List.foldl_cons, ih, reviewDate_add]

theorem totalHypotheticalPnlInr_foldl : (rows.foldl .add row).totalHypotheticalPnlInr =
    row.totalHypotheticalPnlInr + (rows.map (·.hypotheticalPnlInr)).sum := by
  induction rows generalizing row with
  | nil => simp
  | cons snapshot rest ih => simp [ih, add_assoc]

theorem totalRealOrders_foldl : (rows.foldl .add row).totalRealOrders =
    row.totalRealOrders + (rows.map (·.realOrders)).sum := by
  induction rows generalizing row with
  | nil => simp
  | cons snapshot rest ih => simp [ih, add_assoc]

/-- The last row of a market stands in the day. -/
theorem ofMarket_foldl (market : Market) : (rows.foldl .add row).ofMarket market =
    ((rows.filter (·.market = market)).getLast?.map (·.marketRow)).or (row.ofMarket market) := by
  induction rows using List.reverseRecOn with
  | nil => simp
  | append_singleton before snapshot ih =>
    rw [List.foldl_append, List.foldl_cons, List.foldl_nil, ofMarket_add, ih, List.filter_append,
      List.filter_singleton]
    by_cases same : snapshot.market = market
    · simp [same]
    · simp [same]

end Day

section Stored

variable {stored : List DailyMarketReviewSnapshot} (once : (stored.map (·.key)).Nodup)
include once

/-- A day has at most one row for each market. -/
theorem length_filter_reviewDate_le (day : Day) :
    (stored.filter (·.reviewDate = day)).length ≤ 2 := by
  have distinct : ((stored.filter (·.reviewDate = day)).map (·.key)).Nodup :=
    once.sublist (List.filter_sublist.map _)
  have known : (stored.filter (·.reviewDate = day)).map (·.key) ⊆
      [(Market.india, day), (Market.us, day)] := by
    intro key member
    obtain ⟨row, located, rfl⟩ := List.mem_map.mp member
    have date : row.reviewDate = day := of_decide_eq_true (List.mem_filter.mp located).2
    rw [DailyMarketReviewSnapshot.key, date]
    cases row.market <;> simp
  rw [← List.length_map (f := (·.key))]
  exact (List.subperm_of_subset distinct known).length_le

/-- Of the rows of a day, those of a market are the one row of both. -/
theorem filter_market (market : Market) (day : Day) :
    (stored.filter (·.reviewDate = day)).filter (·.market = market) =
      (rowOf (·.key) (market, day) stored).toList := by
  rw [List.filter_filter, ← filter_key_of_nodup once]
  refine List.filter_congr fun row _ => ?_
  simp [DailyMarketReviewSnapshot.key, Prod.ext_iff]

end Stored

/-- A displayed day is the fold over its rows. -/
theorem get?_byDate (rows : List DailyMarketReviewSnapshot) (day : Day) :
    (byDate rows).get? day = if rows.filter (·.reviewDate = day) = [] then none else
      some ((rows.filter (·.reviewDate = day)).foldl .add { reviewDate := day }) := by
  rw [byDate, Dict.get?_collect]
  refine @Dict.foldl_getD _ _ (fun snapshot => { reviewDate := snapshot.reviewDate }) HistoryRow.add
    { reviewDate := day } _ fun row member => ?_
  rw [of_decide_eq_true (List.mem_filter.mp member).2]

theorem isAmongGreatest_perm {limitDays : ℕ} {rows others : List DailyMarketReviewSnapshot}
    (same : rows.Perm others) (day : Day) :
    IsAmongGreatest (·.reviewDate) rows limitDays day ↔
      IsAmongGreatest (·.reviewDate) others limitDays day := by
  have dates := same.map (·.reviewDate)
  rw [IsAmongGreatest, IsAmongGreatest, dates.mem_iff, (dates.dedup.filter _).length_eq]

section Shown

variable {limitDays : ℕ} {scanned stored : List DailyMarketReviewSnapshot}

theorem reviewDate_of_get?_byDate {rows : List DailyMarketReviewSnapshot} {day : Day}
    {row : HistoryRow} (bound : (byDate rows).get? day = some row) : row.reviewDate = day := by
  rw [get?_byDate] at bound
  split_ifs at bound
  rw [← Option.some.inj bound, reviewDate_foldl]

theorem reviewDate_of_mem_byDate {rows : List DailyMarketReviewSnapshot} {entry : Day × HistoryRow}
    (member : entry ∈ (byDate rows).entries) : entry.2.reviewDate = entry.1 :=
  reviewDate_of_get?_byDate (Dict.get?_of_mem_entries member)

/-- The rows which are displayed are the groups of the first days. -/
theorem map_reviewDate_history : (dailyReviewHistory limitDays scanned).map (·.reviewDate) =
    (byDate (historyQuery limitDays scanned)).keys.take limitDays := by
  rw [dailyReviewHistory, Dict.keys, Dict.values, ← List.map_take, ← List.map_take, List.map_map]
  exact List.map_congr_left fun entry member =>
    reviewDate_of_mem_byDate (List.mem_of_mem_take member)

theorem get?_of_mem_history {row : HistoryRow}
    (member : row ∈ dailyReviewHistory limitDays scanned) :
    (byDate (historyQuery limitDays scanned)).get? row.reviewDate = some row := by
  obtain ⟨entry, located, rfl⟩ := List.mem_map.mp (List.mem_of_mem_take member)
  rw [reviewDate_of_mem_byDate located]
  exact Dict.get?_of_mem_entries located

/-- In whatever order the database scans the rows, the history shows the newest days, and
of each all that is stored. -/
theorem historyComplete (once : (stored.map (·.key)).Nodup) (same : scanned.Perm stored) :
    HistoryComplete limitDays stored (dailyReviewHistory limitDays scanned) := by
  have perm : (descending (·.reviewDate) scanned).Perm stored := (descending_perm _ _).trans same
  have sorted := descending_sorted (·.reviewDate) scanned
  have few : ∀ day,
      ((descending (·.reviewDate) scanned).filter (·.reviewDate = day)).length ≤ 2 := by
    intro day
    rw [(perm.filter _).length_eq]
    exact length_filter_reviewDate_le once day
  have displayed : ∀ day, day ∈ (dailyReviewHistory limitDays scanned).map (·.reviewDate) ↔
      IsAmongGreatest (·.reviewDate) (descending (·.reviewDate) scanned) limitDays day := by
    intro day
    rw [map_reviewDate_history]
    exact mem_take_keys_collect _ sorted few limitDays _ day
  -- A displayed row is the fold over all stored rows of its day.
  have whole : ∀ row ∈ dailyReviewHistory limitDays scanned, row =
      ((descending (·.reviewDate) scanned).filter (·.reviewDate = row.reviewDate)).foldl .add
        { reviewDate := row.reviewDate } := by
    intro row member
    have among := (displayed row.reviewDate).mp (List.mem_map_of_mem member)
    have bound := get?_of_mem_history member
    rw [byDate, historyQuery, newest, get?_collect_take _ sorted few limitDays _ among, ← byDate,
      get?_byDate] at bound
    split_ifs at bound
    exact (Option.some.inj bound).symm
  constructor
  · rw [map_reviewDate_history]
    exact (keys_collect_descending _ _ (sorted.sublist (List.take_sublist _ _))).sublist
      (List.take_sublist _ _)
  · intro day
    rw [displayed, isAmongGreatest_perm perm]
  · intro row member market
    rw [whole row member, ofMarket_foldl, reviewDate_foldl,
      filter_market ((perm.map _).nodup_iff.mpr once), ← rowOf_perm once perm.symm]
    cases rowOf (·.key) (market, row.reviewDate) stored <;> cases market <;> rfl
  · intro row member
    have ofDay := perm.filter (·.reviewDate = row.reviewDate)
    rw [whole row member, totalHypotheticalPnlInr_foldl, totalRealOrders_foldl, reviewDate_foldl,
      zero_add, zero_add, (ofDay.map _).sum_eq, (ofDay.map _).sum_eq]
    exact ⟨rfl, rfl⟩

end Shown

/-- At any point of any run, the history of a summary which is returned is complete. -/
theorem reviewHistory (snapshots : List DailyMarketReviewSnapshot)
    (once : (snapshots.map (·.key)).Nodup) (calls : List ReviewCall) (call : ReviewCall)
    (summary : DailyReviewSummary) (next : List DailyMarketReviewSnapshot)
    (returned : call.dailySummary.run (calls.foldl afterSummary snapshots) = (.ok summary, next)) :
    HistoryComplete 14 next summary.history := by
  have stored : next = storeReviews (calls.foldl afterSummary snapshots) call.committed := by
    rw [← afterSummary_eq, afterSummary, returned]
  have distinct : (next.map (·.key)).Nodup := by
    rw [stored, foldl_afterSummary]
    exact nodup_storeReviews (nodup_storeReviews once _) _
  rw [history_of_returned call _ returned]
  exact historyComplete distinct (call.scanned next)

/-- A summary on Wednesday, whose database scans the newest rows first, shows the day
before and the two days which are stored. -/
theorem reviewHistory_march : ∃ summary next,
    ({ summaryAt 1773230400000000 marchMarks with
        scan := List.reverse, scanned := List.reverse_perm } : ReviewCall).dailySummary.run
      (marchCalls.foldl afterSummary []) = (.ok summary, next) ∧
      summary.history.map (fun row => (row.reviewDate, row.totalHypotheticalPnlInr)) =
        [(20522, 0), (20521, 75), (20520, 80)] ∧
      HistoryComplete 14 next summary.history :=
  ⟨_, _, rfl, by decide +kernel, reviewHistory [] List.nodup_nil marchCalls
    { summaryAt 1773230400000000 marchMarks with
      scan := List.reverse, scanned := List.reverse_perm } _ _ rfl⟩

end AlphaAgent.Performance
