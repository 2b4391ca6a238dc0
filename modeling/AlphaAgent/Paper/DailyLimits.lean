import AlphaAgent.Paper.Journal

/-!
# Daily limits

The engine counts entries and realized losses under the day of a request's
normalized timestamp. Because the journal explains both counters, the limits
can be stated over the journal alone: how many entries each UTC day has, and
what a day had realized at the moment an entry was accepted.
-/

namespace AlphaAgent.Paper

open Foundation

/-- The UTC day of a moment, whatever zone its reading is in. -/
def utcDay (value : DateTime) : Day := value.instant / microsecondsPerDay

@[simp] theorem date_utc (instant : ℤ) : (DateTime.utc instant).date = utcDay (.utc instant) := by
  rw [utcDay, DateTime.utc_instant]
  rfl

/-- The entries which a journal opened on a UTC day. -/
def entriesOn (day : Day) (journal : List PaperTradeJournalEntry) : ℕ :=
  journal.countP fun entry => entry.status = .opened && utcDay entry.timestamp = day

/-- What a journal realized on a UTC day. -/
def pnlOn (day : Day) (journal : List PaperTradeJournalEntry) : ℚ :=
  (journal.map fun entry => if utcDay entry.timestamp = day then entry.realizedPnl else 0).sum

/-- Each day has at most the allowed entries, each entry was accepted while its
day's realized PnL was above the loss limit, and no symbol is held twice. -/
structure WithinDailyLimits (riskLimits : PaperRiskLimits) (engine : PaperTradingEngine) :
    Prop where
  entries : ∀ day, entriesOn day engine.journal ≤ riskLimits.maxTradesPerDay
  losses : ∀ earlier entry later, engine.journal = earlier ++ entry :: later →
    entry.status = .opened → -riskLimits.maxDailyLoss.val < pnlOn (utcDay entry.timestamp) earlier
  symbols : (engine.positions.values.map PaperPosition.symbol).Nodup

/-- What the counters of an engine are about: its own journal, whose times are
in UTC, and positions which are stored under their own symbols. -/
structure CountersExplained (engine : PaperTradingEngine) : Prop where
  explains : JournalExplains engine
  timestamps : ∀ entry ∈ engine.journal, entry.timestamp = .utc entry.timestamp.instant
  ownSymbol : ∀ symbol position, engine.positions.get? symbol = some position →
    position.symbol = symbol

section Booking

variable {engine next : PaperTradingEngine} {request : PaperOrderRequest}
  {exitReason : PaperExitReason} {result : PaperExecutionResult}

/-- The day under which the engine counts an entry is its UTC day. -/
theorem CountersExplained.date_eq (explained : CountersExplained engine)
    {entry : PaperTradeJournalEntry} (member : entry ∈ engine.journal) :
    entry.timestamp.date = utcDay entry.timestamp := by
  rw [explained.timestamps entry member, date_utc]

theorem CountersExplained.entryCount (explained : CountersExplained engine) (day : Day) :
    engine.dailyEntryCount day = entriesOn day engine.journal := by
  have counted : engine.dailyEntryCount day = engine.journal.countP (opensOn day) :=
    congrFun (congrArg Account.entryCount explained.explains.account) day
  rw [counted]
  apply List.countP_congr
  intro entry member
  rw [opensOn, explained.date_eq member]

theorem CountersExplained.dailyPnl (explained : CountersExplained engine) (day : Day) :
    engine.dailyRealizedPnl day = pnlOn day engine.journal := by
  have realized : engine.dailyRealizedPnl day = (engine.journal.map (realizedOn day)).sum :=
    congrFun (congrArg Account.dailyPnl explained.explains.account) day
  rw [realized, pnlOn]
  congr 1
  apply List.map_congr_left
  intro entry member
  rw [realizedOn, explained.date_eq member]

/-- Every position lies under its own symbol after a booking, too. -/
theorem Books.ownSymbol (books : Books engine request exitReason result next)
    (ownSymbol : ∀ symbol position, engine.positions.get? symbol = some position →
      position.symbol = symbol) :
    ∀ symbol position, next.positions.get? symbol = some position →
      position.symbol = symbol := by
  refine books.forall_position (fun _ _ => rfl) (fun before after own left => ?_) ownSymbol
  rw [(PaperTradingEngine.remaining_eq_some left).1]
  exact own

theorem CountersExplained.booked (explained : CountersExplained engine) (inUtc : InUtc request)
    (books : Books engine request exitReason result next) : CountersExplained next where
  explains := explained.explains.booked books
  ownSymbol := books.ownSymbol explained.ownSymbol
  timestamps := by
    obtain ⟨journal, timestamp, -, -⟩ := books.journal
    intro entry member
    rw [journal, List.mem_append, List.mem_singleton] at member
    rcases member with earlier | rfl
    · exact explained.timestamps entry earlier
    · rw [timestamp]
      exact inUtc

/-- A booked entry was opened only below the entry limit and above the loss limit. -/
theorem Books.admitted (books : Books engine request exitReason result next)
    (entered : result.journalEntry.status = .opened) :
    engine.dailyEntryCount request.submittedAt.date < engine.riskLimits.maxTradesPerDay ∧
      -engine.riskLimits.maxDailyLoss.val < engine.dailyRealizedPnl request.submittedAt.date := by
  cases books with
  | blocked reason message => cases entered
  | closed position accepted => cases entered
  | opened stopLoss accepted => exact ⟨accepted.entryCount, accepted.dailyLoss⟩

/-- Distinct keys of the positions are distinct symbols. -/
theorem CountersExplained.symbols (explained : CountersExplained engine) :
    (engine.positions.values.map PaperPosition.symbol).Nodup := by
  have same : engine.positions.values.map PaperPosition.symbol = engine.positions.keys := by
    rw [Dict.values, Dict.keys, List.map_map]
    apply List.map_congr_left
    intro entry member
    exact explained.ownSymbol entry.1 entry.2 (Dict.get?_of_mem_entries member)
  rw [same]
  exact engine.positions.distinct

/-- Every booking stays within the daily limits. -/
theorem WithinDailyLimits.booked (within : WithinDailyLimits engine.riskLimits engine)
    (explained : CountersExplained engine) (inUtc : InUtc request)
    (books : Books engine request exitReason result next) :
    WithinDailyLimits next.riskLimits next := by
  obtain ⟨journal, timestamp, -, -⟩ := books.journal
  have day : request.submittedAt.date = utcDay result.journalEntry.timestamp := by
    rw [timestamp, inUtc, date_utc]
  rw [books.configuration.2.2]
  refine ⟨fun other => ?_, fun earlier entry later divided entered => ?_,
    (explained.booked inUtc books).symbols⟩
  · rw [journal, entriesOn, List.countP_append, List.countP_singleton]
    split
    · next opened =>
      simp only [Bool.and_eq_true, decide_eq_true_eq] at opened
      have room := (books.admitted opened.1).1
      rw [day, opened.2, explained.entryCount] at room
      exact room
    · exact within.entries other
  · -- The last entry was checked just now, every earlier one when it was booked.
    rw [journal] at divided
    rcases List.eq_nil_or_concat later with rfl | ⟨before, last, rfl⟩
    · obtain ⟨rfl, same⟩ := List.append_inj' divided rfl
      cases same
      have above := (books.admitted entered).2
      rwa [day, explained.dailyPnl] at above
    · rw [List.concat_eq_append, ← List.cons_append, ← List.append_assoc] at divided
      exact within.losses earlier entry before (List.append_inj' divided rfl).1 entered

end Booking

/-- In every state a fresh engine reaches, whatever the order and the zones of
its timestamps, the daily limits are kept and no symbol is held twice. -/
theorem run_dailyLimits (text : SymbolText) (startingCash : Positive) (costModel : CostModel)
    (riskLimits : PaperRiskLimits) (calls : List PaperCall) :
    WithinDailyLimits riskLimits
      ((PaperTradingEngine.fresh startingCash costModel riskLimits).run text calls) := by
  have kept : CountersExplained
        ((PaperTradingEngine.fresh startingCash costModel riskLimits).run text calls) ∧
      WithinDailyLimits
        ((PaperTradingEngine.fresh startingCash costModel riskLimits).run text calls).riskLimits
        ((PaperTradingEngine.fresh startingCash costModel riskLimits).run text calls) := by
    apply run_preserves text fun engine =>
      CountersExplained engine ∧ WithinDailyLimits engine.riskLimits engine
    · intro before request exitReason result next both inUtc books
      exact ⟨both.1.booked inUtc books, both.2.booked both.1 inUtc books⟩
    · refine ⟨⟨fresh_journalExplains startingCash costModel riskLimits, ?_, ?_⟩, ?_, ?_, ?_⟩
      · intro entry member
        cases member
      · intro symbol position held
        cases held
      · intro day
        exact Nat.zero_le _
      · intro earlier entry later divided
        simp [PaperTradingEngine.fresh] at divided
      · exact List.nodup_nil
  have limits := (run_configuration text (.fresh startingCash costModel riskLimits) calls).2.2
  rw [limits] at kept
  exact kept.2

end AlphaAgent.Paper
