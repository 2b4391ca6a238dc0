import AlphaAgent.Paper.Effects
import Mathlib.Tactic.Ring

/-!
# The journal as a ledger

`Account` is the part of the engine which a journal should explain: the cash,
the realized result, the costs, the counters of each day, and the quantity held
in each symbol. `Account.ofJournal` reads an account off a journal alone, and
`JournalExplains` says that both agree. Every booking appends one entry and
moves the account by exactly what that entry says.
-/

namespace AlphaAgent.Paper

open Foundation

/-- An account without the details of its positions. -/
@[ext] structure Account where
  cash : ℚ
  realizedPnl : ℚ
  totalCosts : ℚ
  entryCount : Day → ℕ
  dailyPnl : Day → ℚ
  quantity : String → ℤ

/-- The account of an engine. -/
def PaperTradingEngine.account (engine : PaperTradingEngine) : Account where
  cash := engine.cash
  realizedPnl := engine.realizedPnl
  totalCosts := engine.totalCosts
  entryCount := engine.dailyEntryCount
  dailyPnl := engine.dailyRealizedPnl
  quantity symbol := ((engine.positions.get? symbol).map PaperPosition.quantity).getD 0

/-- Whether an entry opened a position on a day. -/
def opensOn (day : Day) (entry : PaperTradeJournalEntry) : Bool :=
  entry.status = .opened && entry.timestamp.date = day

/-- What an entry realized on a day. -/
def realizedOn (day : Day) (entry : PaperTradeJournalEntry) : ℚ :=
  if entry.timestamp.date = day then entry.realizedPnl else 0

/-- What an entry adds to the quantity held in a symbol. -/
def signedQuantity (symbol : String) (entry : PaperTradeJournalEntry) : ℤ :=
  if entry.symbol = symbol then
    match entry.status with
    | .opened => entry.quantity
    | .closed => -entry.quantity
    | .blocked => 0
  else 0

/-- The opened minus the closed quantity of a symbol. -/
def netQuantity (symbol : String) (journal : List PaperTradeJournalEntry) : ℤ :=
  (journal.map (signedQuantity symbol)).sum

/-- The account which a journal describes. -/
def Account.ofJournal (startingCash : ℚ) (journal : List PaperTradeJournalEntry) : Account where
  cash := startingCash + (journal.map (·.cashChange)).sum
  realizedPnl := (journal.map (·.realizedPnl)).sum
  totalCosts := (journal.map (·.costs)).sum
  entryCount day := journal.countP (opensOn day)
  dailyPnl day := (journal.map (realizedOn day)).sum
  quantity symbol := netQuantity symbol journal

/-- How one entry moves an account. -/
def Account.book (account : Account) (entry : PaperTradeJournalEntry) : Account where
  cash := account.cash + entry.cashChange
  realizedPnl := account.realizedPnl + entry.realizedPnl
  totalCosts := account.totalCosts + entry.costs
  entryCount day := account.entryCount day + if opensOn day entry then 1 else 0
  dailyPnl day := account.dailyPnl day + realizedOn day entry
  quantity symbol := account.quantity symbol + signedQuantity symbol entry

/-- Reading one more entry moves the account by that entry. -/
theorem Account.ofJournal_concat (startingCash : ℚ) (journal : List PaperTradeJournalEntry)
    (entry : PaperTradeJournalEntry) :
    ofJournal startingCash (journal ++ [entry]) = (ofJournal startingCash journal).book entry := by
  ext
  · simp only [ofJournal, book, List.map_append, List.map_cons, List.map_nil, List.sum_append,
      List.sum_singleton]
    ring
  · simp [ofJournal, book]
  · simp [ofJournal, book]
  · simp [ofJournal, book, List.countP_append, List.countP_cons]
  · simp [ofJournal, book]
  · simp [ofJournal, book, netQuantity]

/-- The journal explains the account; no position is empty, and no prefix of
the journal closes more than it opened. -/
structure JournalExplains (engine : PaperTradingEngine) : Prop where
  account : engine.account = Account.ofJournal engine.startingCash engine.journal
  positive : ∀ symbol position, engine.positions.get? symbol = some position →
    0 < position.quantity
  neverShort : ∀ symbol earlier, earlier <+: engine.journal → 0 ≤ netQuantity symbol earlier

section Booking

variable {engine next : PaperTradingEngine} {request : PaperOrderRequest}
  {exitReason : PaperExitReason} {result : PaperExecutionResult}

/-- A blocked booking changes nothing but the journal. -/
theorem Books.of_blocked (books : Books engine request exitReason result next)
    (refused : result.accepted = false) : next = { engine with journal := next.journal } := by
  cases books with
  | blocked reason message => rfl
  | opened stopLoss accepted => cases refused
  | closed position accepted => cases refused

/-- An entry which realizes nothing realizes nothing on any day. -/
theorem realizedOn_of_zero {entry : PaperTradeJournalEntry} (none : entry.realizedPnl = 0)
    (day : Day) : realizedOn day entry = 0 := by
  unfold realizedOn
  split
  · exact none
  · rfl

theorem opened_account {stopLoss : ℚ} (accepted : EntryAccepted engine request stopLoss) :
    (engine.opened request stopLoss).account = engine.account.book (openedEntry request
      (engine.priceOf request) (engine.grossOf request) (engine.costsOf request)) := by
  ext key
  · exact sub_eq_add_neg _ _
  · exact (add_zero _).symm
  · rfl
  · by_cases today : key = request.submittedAt.date
    · subst today
      simp [PaperTradingEngine.account, PaperTradingEngine.opened, Account.book, opensOn,
        openedEntry]
    · have other : request.submittedAt.date ≠ key := fun same => today same.symm
      simp [PaperTradingEngine.account, PaperTradingEngine.opened, Account.book, opensOn,
        openedEntry, today, other]
  · have nothing : realizedOn key (openedEntry request (engine.priceOf request)
        (engine.grossOf request) (engine.costsOf request)) = 0 := realizedOn_of_zero rfl key
    simp [PaperTradingEngine.account, PaperTradingEngine.opened, Account.book, nothing]
  · by_cases here : key = request.symbol
    · subst here
      simp [PaperTradingEngine.account, PaperTradingEngine.opened, Account.book, signedQuantity,
        openedEntry, accepted.unopened, openedPosition]
    · have other : request.symbol ≠ key := fun same => here same.symm
      simp [PaperTradingEngine.account, PaperTradingEngine.opened, Account.book, signedQuantity,
        openedEntry, Dict.get?_set, here, other]

/-- What is held in each symbol after an exit. -/
theorem closed_get? {position : PaperPosition} (symbol : String) :
    (engine.closed request exitReason position).positions.get? symbol =
      if symbol = request.symbol then PaperTradingEngine.remaining request position
      else engine.positions.get? symbol := by
  unfold PaperTradingEngine.closed
  cases left : PaperTradingEngine.remaining request position with
  | none => simp only [Dict.get?_erase]
  | some updated => simp only [Dict.get?_set]

theorem closed_account {position : PaperPosition}
    (accepted : ExitAccepted engine request position) :
    (engine.closed request exitReason position).account = engine.account.book
      (closedEntry request exitReason (engine.priceOf request) (engine.grossOf request)
        (engine.costsOf request) (engine.pnlOf request position)) := by
  ext key
  · rfl
  · rfl
  · rfl
  · simp [PaperTradingEngine.account, PaperTradingEngine.closed, Account.book, opensOn,
      closedEntry]
  · by_cases today : key = request.submittedAt.date
    · subst today
      simp [PaperTradingEngine.account, PaperTradingEngine.closed, Account.book, realizedOn,
        closedEntry]
    · have other : request.submittedAt.date ≠ key := fun same => today same.symm
      simp [PaperTradingEngine.account, PaperTradingEngine.closed, Account.book, realizedOn,
        closedEntry, today, other]
  · simp only [PaperTradingEngine.account, closed_get?, Account.book, signedQuantity, closedEntry]
    by_cases here : key = request.symbol
    · subst here
      have enough := accepted.enough
      simp only [if_true, accepted.held, Option.map_some, Option.getD_some,
        PaperTradingEngine.remaining]
      split
      · simp only [Option.map_none, Option.getD_none]
        omega
      · simp only [Option.map_some, Option.getD_some]
        omega
    · have other : request.symbol ≠ key := fun same => here same.symm
      simp only [here, other, if_false, add_zero]

/-- Every booking moves the account by its entry. -/
theorem Books.account (books : Books engine request exitReason result next) :
    next.account = engine.account.book result.journalEntry := by
  cases books with
  | opened stopLoss accepted => exact opened_account accepted
  | closed position accepted => exact closed_account accepted
  | blocked reason message =>
    ext key
    · exact (add_zero _).symm
    · exact (add_zero _).symm
    · exact (add_zero _).symm
    · rfl
    · have nothing : realizedOn key (blockedEntry request reason message) = 0 :=
        realizedOn_of_zero rfl key
      simp [PaperTradingEngine.account, PaperTradingEngine.withEntry, Account.book, nothing]
    · have nothing : signedQuantity key (blockedEntry request reason message) = 0 := by
        unfold signedQuantity
        split <;> rfl
      simp [PaperTradingEngine.account, PaperTradingEngine.withEntry, Account.book, nothing]

/-- What holds of every position still does where an entry brings it about and an exit
leaves it to what remains. -/
theorem Books.forall_position {holds : String → PaperPosition → Prop}
    (books : Books engine request exitReason result next)
    (opens : ∀ stopLoss, EntryAccepted engine request stopLoss → holds request.symbol
      (openedPosition request (engine.priceOf request) (engine.costsOf request) stopLoss))
    (remains : ∀ before after, holds request.symbol before →
      PaperTradingEngine.remaining request before = some after → holds request.symbol after)
    (always : ∀ symbol position, engine.positions.get? symbol = some position →
      holds symbol position) :
    ∀ symbol position, next.positions.get? symbol = some position → holds symbol position := by
  intro symbol position held
  cases books with
  | blocked reason message => exact always symbol position held
  | opened stopLoss accepted =>
    simp only [PaperTradingEngine.opened, Dict.get?_set] at held
    split at held
    · next same =>
      cases held
      exact same ▸ opens stopLoss accepted
    · exact always symbol position held
  | closed before accepted =>
    rw [closed_get?] at held
    split at held
    · next same =>
      exact same ▸ remains before position (always request.symbol before accepted.held) held
    · exact always symbol position held

/-- No booking leaves an empty position open. -/
theorem Books.positive (books : Books engine request exitReason result next)
    (positive : ∀ symbol position, engine.positions.get? symbol = some position →
      0 < position.quantity) :
    ∀ symbol position, next.positions.get? symbol = some position → 0 < position.quantity :=
  books.forall_position (fun _ accepted => accepted.quantity)
    (fun _ _ _ left => (PaperTradingEngine.remaining_eq_some left).2) positive

/-- Every booking keeps the journal an explanation of the account. -/
theorem JournalExplains.booked (explains : JournalExplains engine)
    (books : Books engine request exitReason result next) : JournalExplains next := by
  have account : next.account = Account.ofJournal next.startingCash next.journal := by
    rw [books.account, books.journal.1, books.configuration.1, Account.ofJournal_concat,
      explains.account]
  have positive := books.positive explains.positive
  refine ⟨account, positive, fun symbol earlier isPrefix => ?_⟩
  rw [books.journal.1, List.prefix_concat_iff] at isPrefix
  rcases isPrefix with whole | before
  · -- The whole journal nets to what is held, which is never negative.
    have held : netQuantity symbol next.journal = next.account.quantity symbol := by
      rw [account]
      rfl
    rw [whole, ← books.journal.1, held]
    change 0 ≤ ((next.positions.get? symbol).map PaperPosition.quantity).getD 0
    cases found : next.positions.get? symbol with
    | none => exact le_rfl
    | some position => exact (positive symbol position found).le
  · exact explains.neverShort symbol earlier before

end Booking

/-- The empty journal explains a fresh engine. -/
theorem fresh_journalExplains (startingCash : Positive) (costModel : CostModel)
    (riskLimits : PaperRiskLimits) :
    JournalExplains (PaperTradingEngine.fresh startingCash costModel riskLimits) := by
  refine ⟨?_, fun symbol position held => ?_, fun symbol earlier isPrefix => ?_⟩
  · simp [PaperTradingEngine.account, Account.ofJournal, PaperTradingEngine.fresh, netQuantity]
  · cases held
  · rw [List.prefix_nil.mp isPrefix]
    exact le_rfl

/-- A call which raised, or whose order was blocked. -/
def refused (result : Except RaisedError (Option PaperExecutionResult)) : Prop :=
  (∃ raised, result = .error raised) ∨ ∃ booked, result = .ok (some booked) ∧
    booked.accepted = false

/-- In every state a fresh engine reaches, its account is what its journal
describes, no prefix of the journal is short in any symbol, and a call which is
refused changes nothing but the journal. -/
theorem run_journal (text : SymbolText) (startingCash : Positive) (costModel : CostModel)
    (riskLimits : PaperRiskLimits) (calls : List PaperCall) :
    let engine := (PaperTradingEngine.fresh startingCash costModel riskLimits).run text calls
    engine.account = Account.ofJournal startingCash engine.journal ∧
      (∀ symbol earlier, earlier <+: engine.journal → 0 ≤ netQuantity symbol earlier) ∧
      ∀ call, refused (engine.call text call).1 →
        (engine.call text call).2 =
          { engine with journal := (engine.call text call).2.journal } := by
  intro engine
  have explains : JournalExplains engine := by
    apply run_preserves text JournalExplains
    · intro before request exitReason result next explains _ books
      exact explains.booked books
    · exact fresh_journalExplains startingCash costModel riskLimits
  refine ⟨?_, explains.neverShort, fun call unsuccessful => ?_⟩
  · rw [explains.account,
      (run_configuration text (.fresh startingCash costModel riskLimits) calls).1]
    rfl
  · rcases call_cases text engine call with
      ⟨raised, failed⟩ | nothing | ⟨request, exitReason, result, -, returned, books⟩
    · rw [failed]
    · rw [nothing]
    · rcases unsuccessful with ⟨raised, failed⟩ | ⟨booked, same, blocked⟩
      · rw [returned] at failed
        cases failed
      · rw [returned, Except.ok.injEq, Option.some.injEq] at same
        exact books.of_blocked (same ▸ blocked)

end AlphaAgent.Paper
