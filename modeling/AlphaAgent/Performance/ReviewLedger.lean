import AlphaAgent.Foundation.Transaction
import AlphaAgent.Performance.DailyReview

/-!
# The ledger of daily reviews

Every summary of the performance service reviews the day before for both markets and
stores what it found, in the session which it commits at the end. Reports go on for days,
fail at any statement and lose the answer of their commit; what the table of snapshots
keeps of them is the last committed review of each market and day.
-/

namespace AlphaAgent.Performance

open Foundation Shadow

/-- A row of `daily_market_review_snapshots`. -/
structure DailyMarketReviewSnapshot extends ReviewFigures where
  id : String
  market : Market
  reviewDate : Day
  payload : ReviewPayload
deriving DecidableEq

def DailyMarketReviewSnapshot.key (row : DailyMarketReviewSnapshot) : Market × Day :=
  (row.market, row.reviewDate)

def DailyMarketReview.key (review : DailyMarketReview) : Market × Day :=
  (review.market, review.reviewDate)

/-- What a review assigns to the columns of its snapshot. -/
def DailyMarketReview.assign (review : DailyMarketReview) (row : DailyMarketReviewSnapshot) :
    DailyMarketReviewSnapshot :=
  { row with toReviewFigures := review.toReviewFigures, payload := review.toReviewPayload }

/-- A new snapshot. All columns but the key are assigned before it is written. -/
def DailyMarketReview.snapshot (review : DailyMarketReview) (newId : String) :
    DailyMarketReviewSnapshot :=
  { review.toReviewFigures with
    id := newId
    market := review.market
    reviewDate := review.reviewDate
    payload := review.toReviewPayload }

@[simp] theorem key_assign (review : DailyMarketReview) (row : DailyMarketReviewSnapshot) :
    (review.assign row).key = row.key := rfl

@[simp] theorem key_snapshot (review : DailyMarketReview) (newId : String) :
    (review.snapshot newId).key = review.key := rfl

/-- `_upsert_daily_market_review_snapshot`. -/
def upsertDailyMarketReviewSnapshot (newId : String) (review : DailyMarketReview)
    (snapshots : List DailyMarketReviewSnapshot) : List DailyMarketReviewSnapshot :=
  upsert DailyMarketReviewSnapshot.key review.key review.assign (review.snapshot newId) snapshots

/-- The part of a day which a market has in the history. -/
structure MarketHistoryRow where
  market : Market
  status : DailyReviewStatus
  signals : ℕ
  shadowHypotheses : ℕ
  realOrders : ℕ
  hypotheticalPnlInr : ℚ
  hypotheticalPnlPct : ℚ
  winners : ℕ
  losers : ℕ
  flat : ℕ
deriving DecidableEq

def DailyMarketReviewSnapshot.marketRow (row : DailyMarketReviewSnapshot) : MarketHistoryRow :=
  { row with }

structure HistoryRow where
  reviewDate : Day
  india : Option MarketHistoryRow := none
  us : Option MarketHistoryRow := none
  totalHypotheticalPnlInr : ℚ := 0
  totalRealOrders : ℕ := 0
deriving DecidableEq

/-- `row[market.value]`. -/
def HistoryRow.ofMarket (row : HistoryRow) : Market → Option MarketHistoryRow
  | .india => row.india
  | .us => row.us

/-- One more snapshot of the day. -/
def HistoryRow.add (row : HistoryRow) (snapshot : DailyMarketReviewSnapshot) : HistoryRow :=
  let totalHypotheticalPnlInr := row.totalHypotheticalPnlInr + snapshot.hypotheticalPnlInr
  let totalRealOrders := row.totalRealOrders + snapshot.realOrders
  match snapshot.market with
  | .india => { row with india := snapshot.marketRow, totalHypotheticalPnlInr, totalRealOrders }
  | .us => { row with us := snapshot.marketRow, totalHypotheticalPnlInr, totalRealOrders }

/-- `by_date`, for the rows which a query returned. -/
def byDate (rows : List DailyMarketReviewSnapshot) : Dict Day HistoryRow :=
  Dict.collect (·.reviewDate)
    (fun row snapshot => (row.getD { reviewDate := snapshot.reviewDate }).add snapshot) rows

/-- The query of the history over the rows as the database scans them. -/
def historyQuery (limitDays : ℕ) (scanned : List DailyMarketReviewSnapshot) :
    List DailyMarketReviewSnapshot :=
  newest (·.reviewDate) (limitDays * 2) scanned

/-- `_daily_review_history`. -/
def dailyReviewHistory (limitDays : ℕ) (scanned : List DailyMarketReviewSnapshot) :
    List HistoryRow :=
  (byDate (historyQuery limitDays scanned)).values.take limitDays

/-- One call of `daily_summary` in a session of its own, with what it learns from outside:
the clock and the tables as the review of each market reads them, what fails before the
commit, and the order in which the database scans the snapshots. -/
structure ReviewCall where
  days : MarketDays
  now : Market → ℤ
  tables : Market → ReviewTables
  newId : Market → String
  amountText : ℚ → String
  fault : Market → Option RaisedError := fun _ => none
  later : Option RaisedError := none
  commit : Option (CommitFault RaisedError) := none
  scan : List DailyMarketReviewSnapshot → List DailyMarketReviewSnapshot := id
  scanned : ∀ rows, (scan rows).Perm rows := by exact fun rows => List.Perm.refl rows

structure DailyReviewSummary where
  markets : List DailyMarketReview
  history : List HistoryRow

namespace ReviewCall

variable (call : ReviewCall) (market : Market)

/-- The review of one market, up to its flush. -/
def review : Except RaisedError DailyMarketReview := do
  let window ← marketDayWindow call.days market (call.now market) 1
  match call.fault market with
  | some raised => throw raised
  | none =>
    return dailyMarketReview call.amountText market ((call.tables market).ofDay market window)
      window.reviewDate

/-- One turn of the loop over the markets. -/
def reviewMarket : Fallible RaisedError (List DailyMarketReviewSnapshot) DailyMarketReview := do
  let review ← Fallible.ofExcept (call.review market)
  modify (upsertDailyMarketReviewSnapshot (call.newId market) review)
  return review

/-- `_daily_review_summary`. -/
def dailyReviewSummary :
    Fallible RaisedError (List DailyMarketReviewSnapshot) DailyReviewSummary := do
  let india ← call.reviewMarket .india
  let us ← call.reviewMarket .us
  let snapshots ← get
  return ⟨[india, us], dailyReviewHistory 14 (call.scan snapshots)⟩

/-- What a summary does before its commit. -/
def statements : Fallible RaisedError (List DailyMarketReviewSnapshot) DailyReviewSummary := do
  let summary ← call.dailyReviewSummary
  Fallible.raiseIf call.later
  return summary

/-- `daily_summary`, as far as its daily review and its transaction go. -/
def dailySummary : Fallible RaisedError (List DailyMarketReviewSnapshot) DailyReviewSummary :=
  Fallible.transaction call.commit call.statements

/-- The reviews which a call leaves stored, with the ids for new rows. -/
def committed : List (String × DailyMarketReview) :=
  match call.review .india, call.review .us, call.later with
  | .ok india, .ok us, none =>
    if call.commit.all CommitFault.committed then
      [(call.newId .india, india), (call.newId .us, us)]
    else []
  | _, _, _ => []

end ReviewCall

/-- The table after a call. -/
def afterSummary (snapshots : List DailyMarketReviewSnapshot) (call : ReviewCall) :
    List DailyMarketReviewSnapshot :=
  (call.dailySummary.run snapshots).2

/-- The table after the reviews are stored in their order. -/
def storeReviews (snapshots : List DailyMarketReviewSnapshot)
    (reviews : List (String × DailyMarketReview)) : List DailyMarketReviewSnapshot :=
  upsertAll DailyMarketReviewSnapshot.key (fun stored => stored.2.key)
    (fun stored => stored.2.assign) (fun stored => stored.2.snapshot stored.1) snapshots reviews

section Runs

variable (call : ReviewCall) (snapshots : List DailyMarketReviewSnapshot)

theorem run_reviewMarket (market : Market) : (call.reviewMarket market).run snapshots =
    match call.review market with
    | .ok review =>
      (.ok review, upsertDailyMarketReviewSnapshot (call.newId market) review snapshots)
    | .error raised => (.error raised, snapshots) := by
  unfold ReviewCall.reviewMarket
  rw [Fallible.run_bind, Fallible.run_ofExcept]
  cases call.review market <;> rfl

/-- Before its commit a summary has stored both reviews, or it raises. -/
theorem statements_cases :
    (∃ india us, call.review .india = .ok india ∧ call.review .us = .ok us ∧ call.later = none ∧
      ∃ next, next = storeReviews snapshots [(call.newId .india, india), (call.newId .us, us)] ∧
        call.statements.run snapshots =
          (.ok ⟨[india, us], dailyReviewHistory 14 (call.scan next)⟩, next)) ∨
    (call.committed = [] ∧
      ∃ raised next, call.statements.run snapshots = (.error raised, next)) := by
  unfold ReviewCall.statements ReviewCall.dailyReviewSummary ReviewCall.committed
  simp only [Fallible.run_bind, run_reviewMarket]
  cases call.review .india with
  | error raised => exact .inr ⟨rfl, raised, snapshots, rfl⟩
  | ok india =>
    cases call.review .us with
    | error raised => exact .inr ⟨rfl, raised, _, rfl⟩
    | ok us =>
      cases call.later with
      | some raised => exact .inr ⟨rfl, raised, _, rfl⟩
      | none => exact .inl ⟨india, us, rfl, rfl, rfl, _, rfl, rfl⟩

/-- A summary stores both reviews, or none. -/
theorem afterSummary_eq : afterSummary snapshots call = storeReviews snapshots call.committed := by
  unfold afterSummary ReviewCall.dailySummary
  rcases statements_cases call snapshots with
    ⟨india, us, ofIndia, ofUs, goesOn, next, rfl, ran⟩ | ⟨nothing, raised, next, ran⟩
  · have committed : call.committed = if call.commit.all CommitFault.committed then
        [(call.newId .india, india), (call.newId .us, us)] else [] := by
      rw [ReviewCall.committed, ofIndia, ofUs, goesOn]
    cases failed : call.commit with
    | none =>
      rw [Fallible.run_transaction_none ran, committed, failed]
      rfl
    | some fault =>
      rw [Fallible.run_transaction_some ran, committed, failed, Option.all_some]
      cases fault.committed <;> rfl
  · rw [Fallible.run_transaction_error ran, nothing]
    rfl

/-- A summary which is returned shows the history of the table which it leaves. -/
theorem history_of_returned {summary : DailyReviewSummary} {next : List DailyMarketReviewSnapshot}
    (returned : call.dailySummary.run snapshots = (.ok summary, next)) :
    summary.history = dailyReviewHistory 14 (call.scan next) := by
  rcases Fallible.transaction_cases call.commit call.statements snapshots with
    ⟨value, after, -, ran, same⟩ | ⟨raised, same⟩ | ⟨value, after, fault, -, -, -, same⟩
  · rw [ReviewCall.dailySummary, same] at returned
    rcases statements_cases call snapshots with
      ⟨india, us, -, -, -, last, -, reviewed⟩ | ⟨-, raised, last, failed⟩
    · rw [ran] at reviewed
      cases reviewed
      cases returned
      rfl
    · rw [ran] at failed
      cases failed
  · rw [ReviewCall.dailySummary, same] at returned
    cases returned
  · rw [ReviewCall.dailySummary, same] at returned
    cases returned

/-- Calls one after the other store their reviews one after the other. -/
theorem foldl_afterSummary (calls : List ReviewCall) : calls.foldl afterSummary snapshots =
    storeReviews snapshots (calls.flatMap (·.committed)) := by
  induction calls generalizing snapshots with
  | nil => rfl
  | cons call rest ih =>
    rw [List.foldl_cons, ih, afterSummary_eq, List.flatMap_cons, storeReviews, storeReviews,
      storeReviews, upsertAll, upsertAll, upsertAll, List.foldl_append]

/-- What a call leaves stored are reviews which it made. -/
theorem reviewed_of_committed {stored : String × DailyMarketReview}
    (member : stored ∈ call.committed) :
    call.review stored.2.market = .ok stored.2 := by
  unfold ReviewCall.committed at member
  split at member
  · next india us ofIndia ofUs _ =>
    have ofMarket : ∀ market review, call.review market = .ok review → review.market = market := by
      intro market review made
      obtain ⟨window, -, made⟩ := Fallible.except_bind_ok made
      split at made
      · cases made
      · cases made
        rfl
    split_ifs at member
    · rcases List.mem_cons.mp member with rfl | member
      · rw [ofMarket _ _ ofIndia]
        exact ofIndia
      · cases List.mem_singleton.mp member
        rw [ofMarket _ _ ofUs]
        exact ofUs
    · cases member
  · cases member

end Runs

/-- The observations of a market which were last marked on a local day. -/
def ReviewCall.markedOn (call : ReviewCall) (market : Market) (day : Day) :
    List ShadowObservation :=
  (call.tables market).observations.filter fun row =>
    row.market = market ∧ call.days.zones.localDay market row.lastMarkedAt = day

/-- A review is one of the local day before the call; where the zone's dates begin at
their midnights, it is made of all that was marked on this day. -/
structure ReviewsDayBefore (call : ReviewCall) (review : DailyMarketReview) : Prop where
  dayBefore : review.reviewDate + 1 =
    call.days.zones.localDay review.market (call.now review.market)
  shadowHypotheses : call.days.Lawful →
    review.shadowHypotheses = (call.markedOn review.market review.reviewDate).length
  hypotheticalPnlInr : call.days.Lawful → review.hypotheticalPnlInr =
    ((call.markedOn review.market review.reviewDate).map (·.hypotheticalPnlInr)).sum
  partition : review.winners + review.losers + review.flat = review.shadowHypotheses

/-- The figures and texts of a row. -/
def DailyMarketReviewSnapshot.contents (row : DailyMarketReviewSnapshot) :
    ReviewFigures × ReviewPayload :=
  (row.toReviewFigures, row.payload)

def DailyMarketReview.contents (review : DailyMarketReview) : ReviewFigures × ReviewPayload :=
  (review.toReviewFigures, review.toReviewPayload)

/-- What a sequence of summaries makes of the table of snapshots. -/
structure LedgerKept (calls : List ReviewCall) (before after : List DailyMarketReviewSnapshot) :
    Prop where
  once : (after.map (·.key)).Nodup
  latest : ∀ key, (rowOf (·.key) key after).map (·.contents) =
    (((calls.flatMap (·.committed)).filter (·.2.key = key)).getLast?.map (·.2.contents)).or
      ((rowOf (·.key) key before).map (·.contents))
  sameRow : ∀ row ∈ before, (rowOf (·.key) row.key after).map (·.id) = some row.id
  inPlace : before.map (·.key) <+: after.map (·.key)
  frozen : ∀ market day,
    (∀ call ∈ calls, call.days.zones.localDay market (call.now market) ≠ day + 1) →
      rowOf (·.key) (market, day) after = rowOf (·.key) (market, day) before
  reviewed : ∀ call ∈ calls, ∀ stored ∈ call.committed, ReviewsDayBefore call stored.2

section Ledger

variable {call : ReviewCall} {review : DailyMarketReview}

theorem reviewDate_of_reviewed {market : Market} (made : call.review market = .ok review) :
    ∃ window, IsWindowOf call.days market (call.now market) 1 window ∧
      review = dailyMarketReview call.amountText market ((call.tables market).ofDay market window)
        window.reviewDate := by
  obtain ⟨window, dated, made⟩ := Fallible.except_bind_ok made
  split at made
  · cases made
  · cases made
    exact ⟨window, marketDayWindow_eq_ok.mp dated, rfl⟩

/-- A window holds the instants of its date. -/
theorem contains_iff_localDay {days : MarketDays} (lawful : days.Lawful) {market : Market}
    {now daysAgo : ℤ} {window : MarketDayWindow}
    (isWindow : IsWindowOf days market now daysAgo window) (instant : ℤ) :
    window.Contains instant ↔ days.zones.localDay market instant = window.reviewDate := by
  have begun := lawful market window.reviewDate instant
  have ended := lawful market (window.reviewDate + 1) instant
  rw [← isWindow.startUtc] at begun
  rw [← isWindow.endUtc, Int.add_one_le_iff] at ended
  rw [MarketDayWindow.Contains, ← not_le, ended, begun]
  constructor
  · rintro ⟨since, before⟩
    exact le_antisymm (not_lt.mp before) since
  · intro same
    exact ⟨same.ge, same.not_gt⟩

theorem reviewsDayBefore (made : call.review review.market = .ok review) :
    ReviewsDayBefore call review := by
  obtain ⟨window, isWindow, same⟩ := reviewDate_of_reviewed made
  have date : review.reviewDate = window.reviewDate := by rw [same]; rfl
  have rows (lawful : call.days.Lawful) :
      (((call.tables review.market).ofDay review.market window).observations).Perm
        (call.markedOn review.market review.reviewDate) := by
    refine (descending_perm _ _).trans (List.Perm.of_eq (List.filter_congr fun row _ => ?_))
    rw [date, decide_eq_decide, contains_iff_localDay lawful isWindow, Option.some.injEq]
  constructor
  · rw [date, isWindow.reviewDate]
    exact sub_add_cancel _ _
  · intro lawful
    rw [← (rows lawful).length_eq, same]
    rfl
  · intro lawful
    rw [← ((rows lawful).map _).sum_eq, same]
    rfl
  · rw [same, flat_dailyMarketReview]
    exact length_signs (fun row : ShadowObservation => row.hypotheticalPnlInr) _

theorem nodup_storeReviews {snapshots : List DailyMarketReviewSnapshot}
    (once : (snapshots.map (·.key)).Nodup) (reviews : List (String × DailyMarketReview)) :
    ((storeReviews snapshots reviews).map (·.key)).Nodup :=
  nodup_upsertAll (fun stored : String × DailyMarketReview => key_assign stored.2)
    (fun stored => key_snapshot stored.2 stored.1) once reviews

/-- However often summaries run and fail, the table has one row for each market and day, and
it is the last review of this day which was committed. -/
theorem reviewLedger (snapshots : List DailyMarketReviewSnapshot)
    (once : (snapshots.map (·.key)).Nodup) (calls : List ReviewCall) :
    LedgerKept calls snapshots (calls.foldl afterSummary snapshots) := by
  rw [foldl_afterSummary]
  have keeps := fun stored : String × DailyMarketReview => key_assign stored.2
  have freshKey := fun stored : String × DailyMarketReview => key_snapshot stored.2 stored.1
  constructor
  · exact nodup_storeReviews once _
  · intro key
    exact map_rowOf_upsertAll keeps freshKey (·.contents) (·.2.contents) (fun _ _ => rfl) key
      snapshots _
  · intro row member
    exact map_rowOf_of_kept keeps freshKey (·.id) (fun _ _ => rfl) (rowOf_of_mem once member) _
  · exact keys_prefix_upsertAll keeps freshKey snapshots _
  · intro market day absent
    have none : (calls.flatMap (·.committed)).filter (·.2.key = (market, day)) = [] := by
      refine List.filter_eq_nil_iff.mpr fun stored member ofDay => ?_
      obtain ⟨call, isCall, member⟩ := List.mem_flatMap.mp member
      obtain ⟨window, isWindow, same⟩ := reviewDate_of_reviewed (reviewed_of_committed call member)
      have key : stored.2.market = market ∧ stored.2.reviewDate = day := by
        simpa [DailyMarketReview.key] using ofDay
      have date : stored.2.reviewDate = window.reviewDate := by rw [same]; rfl
      apply absent call isCall
      rw [← key.1, ← key.2, date, isWindow.reviewDate]
      exact (sub_add_cancel _ _).symm
    rw [storeReviews, rowOf_upsertAll keeps freshKey, none]
    rfl
  · intro call _ stored member
    exact reviewsDayBefore (reviewed_of_committed call member)

/-- An observation of 1000 rupees which was last marked at an instant. -/
def markedObservation (market : Market) (symbol : String) (lastMarkedAt : ℤ) (pnlInr : ℚ) :
    ShadowObservation where
  id := symbol
  market
  symbol
  signalId := symbol
  openedAt := lastMarkedAt
  lastMarkedAt
  entryPrice := 100
  currentPrice := 100 + pnlInr / 10
  hypotheticalQuantity := 10
  hypotheticalNotionalInr := 1000
  hypotheticalPnlInr := pnlInr
  hypotheticalPnlPct := pnlInr / 1000
  notes := []
  metadataJson := {
    usdInr := 1
    shadowNotionalPerSymbolInr := 1000
    entryAssessment := ⟨.buy, none, none⟩
    latestAssessment := ⟨.buy, none, none⟩ }

/-- A summary at an instant which finds some observations. -/
def summaryAt (now : ℤ) (observations : List ShadowObservation) : ReviewCall where
  days := easternDays
  now _ := now
  tables _ := ⟨observations, [], [], []⟩
  newId market := s!"{market.value}-{now}"
  amountText _ := "0"

/-- What was marked on Sunday and on Monday. -/
def marchMarks : List ShadowObservation :=
  [markedObservation .india "INFY" 1772980000000000 120,
    markedObservation .us "AAPL" 1772980000000000 (-40),
    markedObservation .india "TCS" 1773057600000000 75]

/-- A summary on Monday before anything was marked, one after the marks, one whose commit
fails, and one on Tuesday. -/
def marchCalls : List ReviewCall :=
  [summaryAt 1773057600000000 [], summaryAt 1773057600000000 marchMarks,
    { summaryAt 1773057600000000 [] with
      commit := some ⟨.valueError "connection lost", false⟩ },
    summaryAt 1773144000000000 marchMarks]

/-- The second summary replaces the reviews of Sunday, the third one leaves them alone,
and the fourth one adds those of Monday. -/
theorem reviewLedger_march :
    (marchCalls.foldl afterSummary []).map (fun row => (row.key, row.hypotheticalPnlInr)) =
        [((.india, 20520), 120), ((.us, 20520), -40), ((.india, 20521), 75), ((.us, 20521), 0)] ∧
      LedgerKept marchCalls [] (marchCalls.foldl afterSummary []) :=
  ⟨by decide +kernel, reviewLedger [] List.nodup_nil marchCalls⟩

end Ledger
end AlphaAgent.Performance
