import AlphaAgent.Paper.Engine

/-!
# What a call does to the engine

A call of an engine method raises and changes nothing, finds nothing to do, or
books exactly one journal entry. `Books` lists the three ways of booking with
all guards which the engine checked on the way; `call_cases` is the only place
where the methods are unfolded.
-/

namespace AlphaAgent.Paper

open Foundation Fallible

namespace PaperTradingEngine

/-- The price at which the engine executes a request. -/
def priceOf (engine : PaperTradingEngine) (request : PaperOrderRequest) : ℚ :=
  engine.costModel.slippedPrice request.side request.referencePrice

def grossOf (engine : PaperTradingEngine) (request : PaperOrderRequest) : ℚ :=
  engine.priceOf request * request.quantity

def costsOf (engine : PaperTradingEngine) (request : PaperOrderRequest) : ℚ :=
  engine.costModel.costOf (engine.grossOf request)

/-- What closing a part of a position realizes. -/
def pnlOf (engine : PaperTradingEngine) (request : PaperOrderRequest) (position : PaperPosition) :
    ℚ :=
  engine.grossOf request - engine.costsOf request - position.unitBasis * request.quantity

/-- The engine with one more journal entry. -/
def withEntry (engine : PaperTradingEngine) (entry : PaperTradeJournalEntry) :
    PaperTradingEngine :=
  { engine with journal := engine.journal ++ [entry] }

/-- What is left of a position after a close. -/
def remaining (request : PaperOrderRequest) (position : PaperPosition) : Option PaperPosition :=
  if position.quantity - request.quantity ≤ 0 then none
  else some { position with quantity := position.quantity - request.quantity }

theorem remaining_eq_some {request : PaperOrderRequest} {position left : PaperPosition}
    (remains : remaining request position = some left) :
    left = { position with quantity := position.quantity - request.quantity } ∧
      0 < left.quantity := by
  rw [remaining] at remains
  split at remains
  · cases remains
  · next positive =>
    cases remains
    exact ⟨rfl, not_le.mp positive⟩

/-- The engine after an accepted entry. -/
def opened (engine : PaperTradingEngine) (request : PaperOrderRequest) (stopLoss : ℚ) :
    PaperTradingEngine :=
  { engine with
    cash := engine.cash - (engine.grossOf request + engine.costsOf request)
    totalCosts := engine.totalCosts + engine.costsOf request
    positions := engine.positions.set request.symbol
      (openedPosition request (engine.priceOf request) (engine.costsOf request) stopLoss)
    dailyEntryCount := Function.update engine.dailyEntryCount request.submittedAt.date
      (engine.dailyEntryCount request.submittedAt.date + 1)
    journal := engine.journal ++ [openedEntry request (engine.priceOf request)
      (engine.grossOf request) (engine.costsOf request)] }

/-- The engine after an accepted exit from a position. -/
def closed (engine : PaperTradingEngine) (request : PaperOrderRequest)
    (exitReason : PaperExitReason) (position : PaperPosition) : PaperTradingEngine :=
  { engine with
    cash := engine.cash + (engine.grossOf request - engine.costsOf request)
    realizedPnl := engine.realizedPnl + engine.pnlOf request position
    totalCosts := engine.totalCosts + engine.costsOf request
    dailyRealizedPnl := Function.update engine.dailyRealizedPnl request.submittedAt.date
      (engine.dailyRealizedPnl request.submittedAt.date + engine.pnlOf request position)
    positions :=
      match remaining request position with
      | none => engine.positions.erase request.symbol
      | some updated => engine.positions.set request.symbol updated
    journal := engine.journal ++ [closedEntry request exitReason (engine.priceOf request)
      (engine.grossOf request) (engine.costsOf request) (engine.pnlOf request position)] }

end PaperTradingEngine

/-- What the engine has checked before it accepts an entry. -/
structure EntryAccepted (engine : PaperTradingEngine) (request : PaperOrderRequest)
    (stopLoss : ℚ) : Prop where
  side : request.side = .buy
  quantity : 0 < request.quantity
  referencePrice : 0 < request.referencePrice
  stop : request.stopLoss = some stopLoss
  stopBelow : stopLoss < request.referencePrice
  unopened : engine.positions.get? request.symbol = none
  entryCount : engine.dailyEntryCount request.submittedAt.date < engine.riskLimits.maxTradesPerDay
  dailyLoss : -engine.riskLimits.maxDailyLoss.val <
    engine.dailyRealizedPnl request.submittedAt.date
  buffer : engine.riskLimits.minCashBuffer.val ≤
    engine.cash - (engine.grossOf request + engine.costsOf request)

/-- What the engine has checked before it accepts an exit. -/
structure ExitAccepted (engine : PaperTradingEngine) (request : PaperOrderRequest)
    (position : PaperPosition) : Prop where
  side : request.side = .sell
  held : engine.positions.get? request.symbol = some position
  market : position.market = request.market
  quantity : 0 < request.quantity
  enough : request.quantity ≤ position.quantity
  referencePrice : 0 < request.referencePrice
  gross : 0 ≤ engine.grossOf request

/-- How a normalized request is booked: its result, and the engine after it. -/
inductive Books (engine : PaperTradingEngine) (request : PaperOrderRequest)
    (exitReason : PaperExitReason) : PaperExecutionResult → PaperTradingEngine → Prop where
  | blocked (reason message) : Books engine request exitReason
      { accepted := false, journalEntry := blockedEntry request reason message }
      (engine.withEntry (blockedEntry request reason message))
  | opened (stopLoss) (accepted : EntryAccepted engine request stopLoss) :
      Books engine request exitReason
        { accepted := true
          journalEntry := openedEntry request (engine.priceOf request) (engine.grossOf request)
            (engine.costsOf request)
          position := some
            (openedPosition request (engine.priceOf request) (engine.costsOf request) stopLoss) }
        (engine.opened request stopLoss)
  | closed (position) (accepted : ExitAccepted engine request position) :
      Books engine request exitReason
        { accepted := true
          journalEntry := closedEntry request exitReason (engine.priceOf request)
            (engine.grossOf request) (engine.costsOf request) (engine.pnlOf request position)
          position := PaperTradingEngine.remaining request position }
        (engine.closed request exitReason position)

section Methods

variable {engine : PaperTradingEngine} {request : PaperOrderRequest}

theorem entryBlockReason_eq_none (unblocked : engine.entryBlockReason request = none) :
    0 < request.quantity ∧ 0 < request.referencePrice ∧ ∃ stopLoss,
      request.stopLoss = some stopLoss ∧ stopLoss < request.referencePrice ∧
      engine.positions.get? request.symbol = none ∧
      engine.dailyEntryCount request.submittedAt.date < engine.riskLimits.maxTradesPerDay ∧
      -engine.riskLimits.maxDailyLoss.val < engine.dailyRealizedPnl request.submittedAt.date := by
  unfold PaperTradingEngine.entryBlockReason at unblocked
  split at unblocked
  · cases unblocked
  · next valid =>
    rw [not_or, not_le, not_le] at valid
    cases stop : request.stopLoss with
    | none => simp [stop] at unblocked
    | some stopLoss =>
      simp only [stop] at unblocked
      split at unblocked
      · cases unblocked
      · next below =>
        split at unblocked
        · cases unblocked
        · next unopened =>
          split at unblocked
          · cases unblocked
          · next count =>
            split at unblocked
            · cases unblocked
            · next loss =>
              refine ⟨valid.1, valid.2, stopLoss, rfl, not_le.mp below, ?_, not_le.mp count,
                not_le.mp loss⟩
              simpa [Dict.contains] using unopened

/-- An entry is blocked, or accepted with every guard passed. -/
theorem run_openPosition (engine : PaperTradingEngine) (exitReason : PaperExitReason)
    (side : request.side = .buy) :
    ∃ result, ((openPosition request).run engine).1 = .ok result ∧
      Books engine request exitReason result ((openPosition request).run engine).2 := by
  unfold openPosition
  simp only [run_bind, run_get]
  cases unblocked : engine.entryBlockReason request with
  | some reason => exact ⟨_, rfl, .blocked reason none⟩
  | none =>
    obtain ⟨quantity, price, stopLoss, stop, below, unopened, count, loss⟩ :=
      entryBlockReason_eq_none unblocked
    have executed : engine.costModel.executionPrice .buy request.referencePrice =
        .ok (engine.priceOf request) := by
      simp only [CostModel.executionPrice, not_le.mpr price, if_false,
        PaperTradingEngine.priceOf, side]
    have gross : 0 < engine.grossOf request := by
      have bought := engine.costModel.slippedPrice_buy_pos price
      rw [PaperTradingEngine.grossOf, PaperTradingEngine.priceOf, side]
      exact mul_pos bought (Int.cast_pos.mpr quantity)
    have costs : engine.costModel.transactionCost (engine.priceOf request * request.quantity) =
        .ok (engine.costsOf request) := by
      have nonneg : ¬engine.priceOf request * request.quantity < 0 := not_lt.mpr gross.le
      simp only [CostModel.transactionCost, nonneg, if_false]
      rfl
    have stopped : floatStopLoss request = .ok stopLoss := by simp only [floatStopLoss, stop]
    simp only [run_bind, run_ofExcept, executed, costs]
    by_cases buffer : engine.cash - (engine.priceOf request * request.quantity +
        engine.costsOf request) < engine.riskLimits.minCashBuffer
    · simp only [buffer, if_true]
      exact ⟨_, rfl, .blocked .insufficientCash none⟩
    · simp only [buffer, if_false, run_bind, run_modify, run_ofExcept, stopped, appendEntry,
        run_pure]
      exact ⟨_, rfl, .opened stopLoss
        ⟨side, quantity, price, stop, below, unopened, count, loss, not_lt.mp buffer⟩⟩

/-- An exit which passes every guard is booked. -/
theorem run_closePosition_accepted (exitReason : PaperExitReason) {position : PaperPosition}
    (accepted : ExitAccepted engine request position) :
    (closePosition request exitReason).run engine =
      (.ok { accepted := true
             journalEntry := closedEntry request exitReason (engine.priceOf request)
               (engine.grossOf request) (engine.costsOf request) (engine.pnlOf request position)
             position := PaperTradingEngine.remaining request position },
        engine.closed request exitReason position) := by
  have market : ¬position.market ≠ request.market := not_not.mpr accepted.market
  have executed : engine.costModel.executionPrice .sell request.referencePrice =
      .ok (engine.priceOf request) := by
    simp only [CostModel.executionPrice, not_le.mpr accepted.referencePrice, if_false,
      PaperTradingEngine.priceOf, accepted.side]
  have costs : engine.costModel.transactionCost (engine.priceOf request * request.quantity) =
      .ok (engine.costsOf request) := by
    have nonneg : ¬engine.priceOf request * request.quantity < 0 := not_lt.mpr accepted.gross
    simp only [CostModel.transactionCost, nonneg, if_false]
    rfl
  unfold closePosition
  simp only [run_bind, run_get, accepted.held, market, not_le.mpr accepted.quantity,
    not_lt.mpr accepted.enough, gt_iff_lt, if_false, run_ofExcept, executed, costs, run_modify,
    appendEntry, run_pure]
  rfl

/-- An exit raises before it changes anything, or is blocked, or is accepted
with every guard passed. -/
theorem run_closePosition (engine : PaperTradingEngine) (exitReason : PaperExitReason)
    (side : request.side = .sell) :
    (∃ raised, (closePosition request exitReason).run engine = (.error raised, engine)) ∨
      ∃ result, ((closePosition request exitReason).run engine).1 = .ok result ∧
        Books engine request exitReason result
          ((closePosition request exitReason).run engine).2 := by
  by_cases accepts : ∃ position, ExitAccepted engine request position
  · obtain ⟨position, accepted⟩ := accepts
    rw [run_closePosition_accepted exitReason accepted]
    exact .inr ⟨_, rfl, .closed position accepted⟩
  unfold closePosition
  simp only [run_bind, run_get]
  cases held : engine.positions.get? request.symbol with
  | none => exact .inr ⟨_, rfl, .blocked .invalidRequest (some "position_not_open")⟩
  | some position =>
    by_cases mismatch : position.market ≠ request.market
    · simp only [ne_eq, mismatch, not_false_eq_true, if_true]
      exact .inr ⟨_, rfl, .blocked .invalidRequest (some "market_mismatch")⟩
    by_cases quantity : request.quantity ≤ 0
    · simp only [mismatch, quantity, if_true, if_false]
      exact .inr ⟨_, rfl, .blocked .invalidRequest (some "quantity_must_be_positive")⟩
    by_cases enough : request.quantity > position.quantity
    · simp only [mismatch, quantity, enough, if_true, if_false]
      exact .inr ⟨_, rfl, .blocked .shortSellingDisabled none⟩
    simp only [mismatch, quantity, enough, if_false, run_bind, run_ofExcept]
    by_cases price : request.referencePrice ≤ 0
    · simp only [CostModel.executionPrice, price, if_true]
      exact .inl ⟨_, rfl⟩
    have executed : engine.costModel.executionPrice .sell request.referencePrice =
        .ok (engine.priceOf request) := by
      simp only [CostModel.executionPrice, price, if_false, PaperTradingEngine.priceOf, side]
    have gross : engine.priceOf request * request.quantity < 0 := by
      by_contra nonneg
      exact accepts ⟨position, side, held, not_not.mp mismatch, not_le.mp quantity,
        not_lt.mp enough, not_le.mp price, not_lt.mp nonneg⟩
    simp only [executed, CostModel.transactionCost, gross, if_true]
    exact .inl ⟨_, rfl⟩

variable (text : SymbolText)

/-- The time of the request is a reading of the UTC clock. -/
def InUtc (request : PaperOrderRequest) : Prop :=
  request.submittedAt = .utc request.submittedAt.instant

/-- A submitted request raises before it changes anything, or is booked once
its symbol and its timestamp are normalized. -/
theorem run_submitOrder (engine : PaperTradingEngine) (request : PaperOrderRequest)
    (exitReason : PaperExitReason) :
    (∃ raised, (submitOrder text request exitReason).run engine = (.error raised, engine)) ∨
      ∃ submittedAt result, request.submittedAt.toUtc = .ok submittedAt ∧
        ((submitOrder text request exitReason).run engine).1 = .ok result ∧
        Books engine (normalizedRequest text request submittedAt) exitReason result
          ((submitOrder text request exitReason).run engine).2 := by
  unfold submitOrder
  simp only [run_bind, run_ofExcept]
  cases converted : request.submittedAt.toUtc with
  | error raised => exact .inl ⟨raised, rfl⟩
  | ok submittedAt =>
    have sameSide : (normalizedRequest text request submittedAt).side = request.side := rfl
    cases side : request.side with
    | buy =>
      obtain ⟨result, returned, books⟩ :=
        run_openPosition engine exitReason (sameSide.trans side)
      simp only [sameSide, side]
      exact .inr ⟨submittedAt, result, rfl, returned, books⟩
    | sell =>
      simp only [sameSide, side]
      rcases run_closePosition engine exitReason (sameSide.trans side) with
        raised | ⟨result, returned, books⟩
      · exact .inl raised
      · exact .inr ⟨submittedAt, result, rfl, returned, books⟩

/-- What one call can do: raise and change nothing, return nothing and change
nothing, or book one request. -/
theorem call_cases (engine : PaperTradingEngine) (call : PaperCall) :
    (∃ raised, engine.call text call = (.error raised, engine)) ∨
      engine.call text call = (.ok none, engine) ∨
      ∃ request exitReason result, InUtc request ∧
        (engine.call text call).1 = .ok (some result) ∧
        Books engine request exitReason result (engine.call text call).2 := by
  have submitted : ∀ request exitReason,
      (∃ raised, (some <$> submitOrder text request exitReason).run engine =
        (.error raised, engine)) ∨
      ∃ normalized result, InUtc normalized ∧
        ((some <$> submitOrder text request exitReason).run engine).1 = .ok (some result) ∧
        Books engine normalized exitReason result
          ((some <$> submitOrder text request exitReason).run engine).2 := by
    intro request exitReason
    rw [run_map]
    rcases run_submitOrder text engine request exitReason with
      ⟨raised, failed⟩ | ⟨submittedAt, result, converted, returned, books⟩
    · rw [failed]
      exact .inl ⟨raised, rfl⟩
    · have moved := DateTime.toUtc_eq_utc converted
      have inUtc : InUtc (normalizedRequest text request submittedAt) := by
        rw [InUtc, normalizedRequest, moved, DateTime.utc_instant]
      rw [returned]
      exact .inr ⟨_, result, inUtc, rfl, books⟩
  unfold PaperTradingEngine.call
  cases call with
  | submitOrder request exitReason =>
    rcases submitted request exitReason with raised | ⟨normalized, booked⟩
    · exact .inl raised
    · exact .inr (.inr ⟨normalized, exitReason, booked⟩)
  | closeOpenPosition symbol market referencePrice timestamp exitReason =>
    simp only [PaperCall.perform, closeOpenPosition, run_map, run_bind, run_get]
    simp only [run_map] at submitted
    rcases submitted _ exitReason with raised | ⟨normalized, booked⟩
    · exact .inl raised
    · exact .inr (.inr ⟨normalized, exitReason, booked⟩)
  | evaluateExit symbol market timestamp low high =>
    simp only [PaperCall.perform, evaluateExit, run_bind, run_get]
    cases held : engine.positions.get? (text.normalize symbol) with
    | none => exact .inr (.inl rfl)
    | some position =>
      by_cases mismatch : position.market ≠ market
      · simp only [ne_eq, mismatch, not_false_eq_true, if_true]
        exact .inr (.inl rfl)
      by_cases stopped : low ≤ position.stopLoss
      · simp only [mismatch, stopped, if_true, if_false]
        rcases submitted _ .stopLoss with raised | ⟨normalized, booked⟩
        · exact .inl raised
        · exact .inr (.inr ⟨normalized, .stopLoss, booked⟩)
      · simp only [mismatch, stopped, if_false]
        cases reached : position.takeProfit.filter (high ≥ ·) with
        | none => exact .inr (.inl rfl)
        | some takeProfit =>
          rcases submitted _ .profitTarget with raised | ⟨normalized, booked⟩
          · exact .inl raised
          · exact .inr (.inr ⟨normalized, .profitTarget, booked⟩)

/-- What every booking preserves holds after every sequence of calls. -/
theorem run_preserves (holds : PaperTradingEngine → Prop)
    (booked : ∀ {engine request exitReason result next}, holds engine → InUtc request →
      Books engine request exitReason result next → holds next)
    {engine : PaperTradingEngine} (initially : holds engine) (calls : List PaperCall) :
    holds (engine.run text calls) := by
  induction calls generalizing engine with
  | nil => exact initially
  | cons call rest ih =>
    have stepped : holds (engine.call text call).2 := by
      rcases call_cases text engine call with
        ⟨raised, failed⟩ | nothing | ⟨_, _, _, inUtc, _, books⟩
      · rw [failed]
        exact initially
      · rw [nothing]
        exact initially
      · exact booked initially inUtc books
    exact ih stepped

/-- Every booking appends its own entry to the journal, with the time and the
side of its request, and with its exit reason if it has any. -/
theorem Books.journal {exitReason : PaperExitReason} {result : PaperExecutionResult}
    {next : PaperTradingEngine} (books : Books engine request exitReason result next) :
    next.journal = engine.journal ++ [result.journalEntry] ∧
      result.journalEntry.timestamp = request.submittedAt ∧
      result.journalEntry.side = request.side ∧
      (result.journalEntry.exitReason = .none ∨ result.journalEntry.exitReason = exitReason) := by
  cases books with
  | blocked reason message => exact ⟨rfl, rfl, rfl, .inl rfl⟩
  | opened stopLoss accepted => exact ⟨rfl, rfl, accepted.side.symm, .inl rfl⟩
  | closed position accepted => exact ⟨rfl, rfl, accepted.side.symm, .inr rfl⟩

/-- No booking changes what the engine was configured with. -/
theorem Books.configuration {exitReason : PaperExitReason} {result : PaperExecutionResult}
    {next : PaperTradingEngine} (books : Books engine request exitReason result next) :
    next.startingCash = engine.startingCash ∧ next.costModel = engine.costModel ∧
      next.riskLimits = engine.riskLimits := by
  cases books <;> exact ⟨rfl, rfl, rfl⟩

theorem run_configuration (engine : PaperTradingEngine) (calls : List PaperCall) :
    (engine.run text calls).startingCash = engine.startingCash ∧
      (engine.run text calls).costModel = engine.costModel ∧
      (engine.run text calls).riskLimits = engine.riskLimits := by
  refine run_preserves text (fun next => next.startingCash = engine.startingCash ∧
    next.costModel = engine.costModel ∧ next.riskLimits = engine.riskLimits) ?_
    ⟨rfl, rfl, rfl⟩ calls
  intro before request exitReason result next same _ books
  obtain ⟨startingCash, costModel, riskLimits⟩ := books.configuration
  exact ⟨startingCash.trans same.1, costModel.trans same.2.1, riskLimits.trans same.2.2⟩

end Methods
end AlphaAgent.Paper
