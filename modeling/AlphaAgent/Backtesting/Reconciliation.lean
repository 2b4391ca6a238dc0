import AlphaAgent.Backtesting.GapFills
import AlphaAgent.Paper.CostBasis

/-!
# The report and the engine behind it

The metrics of a backtest are folded from the journal, its equity curve comes
from snapshots, and the last position is closed after the loop. `Ledger` is the
invariant from which all three agree: the journal explains the account, cash and
entry basis match, and each entry is paired with the exit of the whole position,
but for the one which is still open. `PointAt` ties a point of the curve to the
engine which its candle left and to what selling its position would bring in.
-/

namespace AlphaAgent.Backtesting

open Foundation Fallible Paper

/-- An entry which the metrics count as an entry. -/
def opensTrade (entry : PaperTradeJournalEntry) : Bool :=
  entry.side = .buy ∧ entry.status = .opened

/-- An entry which the metrics count as a closed trade. -/
def closesTrade (entry : PaperTradeJournalEntry) : Bool :=
  entry.side = .sell ∧ entry.status = .closed

section Points

variable (session : Session)

/-- The engine after the passes of the loop over some candles. -/
def engineAfter (candles : List Candle) (engine : PaperTradingEngine) : PaperTradingEngine :=
  ((scan (processCandle session) [] candles).run engine).2

/-- The mark of the session's position at a candle is the close, which a snapshot
looks up under the upper-case symbol. -/
def markAt (candle : Candle) (position : PaperPosition) : ℚ :=
  if session.text.upper session.symbol = session.symbol then candle.close
  else position.averageEntryPrice

/-- What selling the open position at its mark would bring in above its entry basis. -/
def unrealizedAt (engine : PaperTradingEngine) (candle : Candle) : ℚ :=
  match engine.positions.get? session.symbol with
  | none => 0
  | some position => engine.unrealizedOf position (markAt session candle position)

/-- A point of the curve reports what the engine realized, what is unrealized at the
candle, and an equity which splits into these and what was put in. -/
structure PointAt (startingCash : ℚ) (engine : PaperTradingEngine) (candle : Candle)
    (point : EquityCurvePoint) : Prop where
  timestamp : point.timestamp = candle.timestamp
  equity : point.equity = startingCash + point.realizedPnl + point.unrealizedPnl
  realized : point.realizedPnl = engine.realizedPnl
  unrealized : point.unrealizedPnl = unrealizedAt session engine candle

end Points

section Loop

variable (session : Session)

/-- The account of a session between two of its calls. -/
structure Ledger (startingCash : ℚ) (engine : PaperTradingEngine) : Prop where
  starting : engine.startingCash.val = startingCash
  matched : engine.CashMatchesBasis
  explains : JournalExplains engine
  invested : Invested session engine
  alone : ∀ symbol, symbol ≠ session.symbol → engine.positions.get? symbol = none
  realizes : ∀ entry ∈ engine.journal, closesTrade entry = false → entry.realizedPnl = 0
  paired : engine.journal.countP opensTrade = engine.journal.countP closesTrade +
    if engine.positions.contains session.symbol then 1 else 0

variable {session} {startingCash : ℚ} {engine next : PaperTradingEngine}

theorem ledger_fresh (startingCash : Positive) (costModel : CostModel)
    (riskLimits : PaperRiskLimits) :
    Ledger session startingCash (.fresh startingCash costModel riskLimits) where
  starting := rfl
  matched := by
    simp [PaperTradingEngine.CashMatchesBasis, PaperTradingEngine.fresh,
      PaperTradingEngine.entryBasis]
  explains := fresh_journalExplains startingCash costModel riskLimits
  invested := invested_fresh session startingCash costModel riskLimits
  alone := fun _ _ => rfl
  realizes := fun _ member => absurd member List.not_mem_nil
  paired := rfl

/-- What the session has open after an accepted exit of a whole position. -/
theorem closed_whole {request : PaperOrderRequest} {exitReason : PaperExitReason}
    {position : PaperPosition} (whole : request.quantity = position.quantity) (symbol : String) :
    (engine.closed request exitReason position).positions.get? symbol =
      if symbol = request.symbol then none else engine.positions.get? symbol := by
  rw [closed_get?, PaperTradingEngine.remaining, whole, sub_self, if_pos le_rfl]

section Booked

variable {request : PaperOrderRequest} {exitReason : PaperExitReason}
  {result : PaperExecutionResult}

/-- Booking an order touches its own symbol only. -/
theorem booked_others (books : Books engine request exitReason result next) {other : String}
    (different : other ≠ request.symbol) :
    next.positions.get? other = engine.positions.get? other := by
  cases books with
  | blocked reason message => rfl
  | opened stopLoss accepted =>
    simp only [PaperTradingEngine.opened, Dict.get?_set, different, if_false]
  | closed position accepted => rw [closed_get?, if_neg different]

/-- An entry realizes something only where it closes a trade. -/
theorem booked_realizes (ledger : Ledger session startingCash engine)
    (books : Books engine request exitReason result next) :
    ∀ entry ∈ next.journal, closesTrade entry = false → entry.realizedPnl = 0 := by
  have kept : ∀ added, (closesTrade added = false → added.realizedPnl = 0) →
      ∀ entry ∈ engine.journal ++ [added], closesTrade entry = false → entry.realizedPnl = 0 := by
    intro added realizes entry member
    rcases List.mem_append.mp member with before | last
    · exact ledger.realizes entry before
    · obtain rfl := List.mem_singleton.mp last
      exact realizes
  rw [books.journal.1]
  apply kept
  cases books with
  | blocked reason message => exact fun _ => rfl
  | opened stopLoss accepted => exact fun _ => rfl
  | closed position accepted =>
    intro leaves
    cases leaves

/-- Each entry for the session's symbol is paired with the exit of all of it. -/
theorem booked_paired (ledger : Ledger session startingCash engine)
    (symbol : request.symbol = session.symbol)
    (whole : ∀ position, engine.positions.get? session.symbol = some position →
      request.side = .sell → request.quantity = position.quantity)
    (books : Books engine request exitReason result next) :
    next.journal.countP opensTrade = next.journal.countP closesTrade +
      if next.positions.contains session.symbol then 1 else 0 := by
  have paired := ledger.paired
  rw [books.journal.1, List.countP_append, List.countP_append, List.countP_singleton,
    List.countP_singleton]
  cases books with
  | blocked reason message =>
    have opens : opensTrade (blockedEntry request reason message) = false := by
      simp [opensTrade, blockedEntry]
    have closes : closesTrade (blockedEntry request reason message) = false := by
      simp [closesTrade, blockedEntry]
    simp only [opens, closes]
    exact paired
  | opened stopLoss accepted =>
    have unopened : engine.positions.contains session.symbol = false := by
      rw [Dict.contains, ← symbol, accepted.unopened]
      rfl
    have opened : (engine.opened request stopLoss).positions.contains session.symbol = true := by
      simp [Dict.contains, PaperTradingEngine.opened, symbol]
    rw [unopened] at paired
    rw [opened, paired]
    simp [opensTrade, closesTrade, openedEntry]
  | closed position accepted =>
    have held : engine.positions.contains session.symbol = true := by
      rw [Dict.contains, ← symbol, accepted.held]
      rfl
    have sold := whole position (symbol ▸ accepted.held) accepted.side
    have closed : (engine.closed request exitReason position).positions.contains
        session.symbol = false := by
      rw [Dict.contains, closed_whole sold, if_pos symbol.symm]
      rfl
    rw [held] at paired
    rw [closed, paired]
    simp [opensTrade, closesTrade, closedEntry]

/-- Booking an order for the session's symbol keeps the ledger, as long as it
sells all of the position or nothing. -/
theorem Ledger.booked (ledger : Ledger session startingCash engine)
    (symbol : request.symbol = session.symbol) (market : request.market = session.market)
    (whole : ∀ position, engine.positions.get? session.symbol = some position →
      request.side = .sell → request.quantity = position.quantity)
    (books : Books engine request exitReason result next) : Ledger session startingCash next where
  starting := by
    rw [books.configuration.1]
    exact ledger.starting
  matched := books.cashMatchesBasis ledger.matched
  explains := ledger.explains.booked books
  invested := ledger.invested.booked session symbol market books
  alone := by
    intro other different
    rw [booked_others books (symbol ▸ different)]
    exact ledger.alone other different
  realizes := booked_realizes ledger books
  paired := booked_paired ledger symbol whole books

end Booked

theorem ledger_kept : KeptByBookings session (Ledger session startingCash) where
  invested ledger := ledger.invested
  booked ledger symbol market whole books := ledger.booked symbol market whole books

/-- Nothing but the session's position is unrealized. -/
theorem Ledger.unrealized {timestamp : DateTime} {candle : Candle} {taken : PaperAccountSnapshot}
    (ledger : Ledger session startingCash engine)
    (returned : engine.snapshot session.text timestamp
      (some (Dict.empty.set session.symbol candle.close)) = .ok taken) :
    taken.unrealizedPnl = unrealizedAt session engine candle := by
  rw [unrealizedAt]
  cases held : engine.positions.get? session.symbol with
  | none =>
    have unbound : ∀ symbol, engine.positions.get? symbol = none := by
      intro symbol
      by_cases same : symbol = session.symbol
      · rw [same, held]
      · exact ledger.alone symbol same
    exact snapshot_flat (Dict.entries_eq_nil_of_get? unbound) returned
  | some position =>
    rw [snapshot_single (Dict.entries_eq_singleton held ledger.alone) returned]
    have marked : (PaperTradingEngine.upperMarks session.text
        (Dict.empty.set session.symbol candle.close)).get? session.symbol =
          if session.symbol = session.text.upper session.symbol then some candle.close
          else none := by
      change (Dict.empty.set (session.text.upper session.symbol) candle.close).get?
        session.symbol = _
      rw [Dict.get?_set, Dict.get?_empty]
    change _ = engine.unrealizedOf position (markAt session candle position)
    rw [Option.getD_some, marked, markAt]
    congr 1
    by_cases upper : session.text.upper session.symbol = session.symbol
    · rw [if_pos upper.symm, if_pos upper, Option.getD_some]
    · rw [if_neg (Ne.symm upper), if_neg upper, Option.getD_none]

/-- A point of the curve is one of the engine it is taken of, and leaves it alone. -/
theorem Ledger.point {candle : Candle} {point : EquityCurvePoint}
    (ledger : Ledger session startingCash engine)
    (taken : (equityPoint session candle).run engine = (.ok point, next)) :
    next = engine ∧ PointAt session startingCash engine candle point := by
  have kept := equityPoint_keeps session candle engine
  rw [taken] at kept
  refine ⟨kept, ?_⟩
  rw [equityPoint] at taken
  obtain ⟨before, _, got, continued⟩ := run_bind_ok engine taken
  cases got
  obtain ⟨snapshot, _, snapped, ended⟩ := run_bind_ok engine continued
  rw [run_ofExcept, Prod.mk.injEq] at snapped
  obtain ⟨returned, rfl⟩ := snapped
  cases ended
  obtain ⟨equity, realized⟩ := snapshot_equity returned
  have matched := ledger.matched
  rw [PaperTradingEngine.CashMatchesBasis, ledger.starting] at matched
  exact {
    timestamp := rfl
    equity := by
      change snapshot.equity = startingCash + snapshot.realizedPnl + snapshot.unrealizedPnl
      rw [equity, matched, realized]
    realized := realized
    unrealized := ledger.unrealized returned }

/-- One pass keeps the ledger, and its point is one of the engine it leaves. -/
theorem Ledger.processed {history : List Candle} {candle : Candle} {point : EquityCurvePoint}
    (ledger : Ledger session startingCash engine)
    (returned : (processCandle session history candle).run engine = (.ok point, next)) :
    Ledger session startingCash next ∧ PointAt session startingCash next candle point := by
  rw [processCandle] at returned
  obtain ⟨_, asked, ran, continued⟩ := run_bind_ok engine returned
  obtain ⟨_, checked, exited, marked⟩ := run_bind_ok asked continued
  have afterAsking := ledger_kept.asked ledger history candle
  rw [ran] at afterAsking
  have afterChecking := ledger_kept.checked afterAsking candle
  rw [exited] at afterChecking
  obtain ⟨rfl, reported⟩ := afterChecking.point marked
  exact ⟨afterChecking, reported⟩

/-- What is left when nothing is open: all that was put in and realized is equity. -/
theorem PointAt.settled {candle : Candle} {point : EquityCurvePoint}
    (reported : PointAt session startingCash engine candle point)
    (closed : engine.positions.contains session.symbol = false) :
    point.equity = startingCash + engine.realizedPnl := by
  have unbound : engine.positions.get? session.symbol = none := by
    simpa [Dict.contains] using closed
  have flat : unrealizedAt session engine candle = 0 := by
    rw [unrealizedAt, unbound]
  rw [reported.equity, reported.unrealized, flat, add_zero, reported.realized]

/-- Selling a whole position at a positive price raises or leaves nothing open:
no guard blocks it. -/
theorem closePosition_whole {position : PaperPosition} {request : PaperOrderRequest}
    {exitReason : PaperExitReason} {result : PaperExecutionResult}
    (invested : Invested session engine)
    (held : engine.positions.get? session.symbol = some position)
    (whole : WholeExit session position request) (priced : 0 < request.referencePrice)
    (returned : (closePosition request exitReason).run engine = (.ok result, next)) :
    next.positions.contains session.symbol = false := by
  obtain ⟨-, market, quantity⟩ := invested position held
  by_cases gross : 0 ≤ engine.grossOf request
  · have accepted : ExitAccepted engine request position :=
      ⟨whole.side, whole.symbol ▸ held, market.trans whole.market.symm, whole.quantity ▸ quantity,
        whole.quantity.le, priced, gross⟩
    rw [run_closePosition_accepted exitReason accepted, Prod.mk.injEq] at returned
    rw [← returned.2, Dict.contains, closed_whole whole.quantity, if_pos whole.symbol.symm]
    rfl
  · -- Slippage takes more than the whole price, so the cost of the exit raises.
    have executed : engine.costModel.executionPrice .sell request.referencePrice =
        .ok (engine.priceOf request) := by
      simp only [CostModel.executionPrice, not_le.mpr priced, if_false,
        PaperTradingEngine.priceOf, whole.side]
    have negative : engine.priceOf request * request.quantity < 0 := not_le.mp gross
    have sameMarket : ¬position.market ≠ request.market :=
      not_not.mpr (market.trans whole.market.symm)
    have some : ¬request.quantity ≤ 0 := not_le.mpr (whole.quantity ▸ quantity)
    have enough : ¬request.quantity > position.quantity := not_lt.mpr whole.quantity.le
    unfold closePosition at returned
    simp only [run_bind, run_get, whole.symbol, held, sameMarket, some, enough, if_false,
      run_ofExcept, executed, CostModel.transactionCost, negative, if_true] at returned
    cases returned

/-- What is open at the end is sold at the last close, or raises. -/
theorem Ledger.sold {position : PaperPosition} {price : ℚ} {timestamp : DateTime}
    {exitReason : PaperExitReason} {result : PaperExecutionResult}
    (ledger : Ledger session startingCash engine)
    (held : engine.positions.get? session.symbol = some position) (priced : 0 < price)
    (returned : (closeOpenPosition session.text session.symbol session.market price timestamp
      exitReason).run engine = (.ok result, next)) :
    Ledger session startingCash next ∧ next.positions.contains session.symbol = false := by
  unfold closeOpenPosition at returned
  simp only [run_bind, run_get, session.normalized, held, Option.map_some, Option.getD_some]
    at returned
  constructor
  · have left := congrArg Prod.snd returned
    dsimp only at left
    rw [← left]
    refine ledger_kept.submitted exitReason ledger rfl rfl fun other same _ => ?_
    rw [held] at same
    cases same
    rfl
  · rw [submitOrder] at returned
    obtain ⟨submittedAt, _, converted, continued⟩ := run_bind_ok engine returned
    rw [run_ofExcept, Prod.mk.injEq] at converted
    obtain ⟨-, rfl⟩ := converted
    exact closePosition_whole ledger.invested held ⟨rfl, session.normalized, rfl, rfl⟩ priced
      continued

variable {config : BacktestConfig} {candles : List Candle}

/-- What follows the loop leaves nothing open, and a point of its own where it
sold something. -/
theorem Ledger.ended {closing : List EquityCurvePoint}
    (ledger : Ledger session startingCash engine) (closes : config.closeOpenPositionsOnEnd = true)
    (priced : ∀ candle ∈ candles, 0 < candle.close)
    (unopened : candles = [] → engine.positions.contains session.symbol = false)
    (returned : (closeOnEnd session config candles).run engine = (.ok closing, next)) :
    Ledger session startingCash next ∧ next.positions.contains session.symbol = false ∧
      (closing = [] ∧ next = engine ∨ ∃ point candle, closing = [point] ∧
        candles.getLast? = some candle ∧ PointAt session startingCash next candle point) := by
  unfold closeOnEnd at returned
  rw [run_bind, run_get] at returned
  cases last : candles.getLast? with
  | none =>
    simp only [last] at returned
    cases returned
    exact ⟨ledger, unopened (List.getLast?_eq_none_iff.mp last), .inl ⟨rfl, rfl⟩⟩
  | some finalCandle =>
    simp only [last, closes, true_and] at returned
    cases contained : engine.positions.contains session.symbol with
    | false =>
      simp only [contained, Bool.false_eq_true, if_false] at returned
      cases returned
      exact ⟨ledger, contained, .inl ⟨rfl, rfl⟩⟩
    | true =>
      rw [contained, if_pos rfl] at returned
      obtain ⟨position, held⟩ := Option.isSome_iff_exists.mp contained
      obtain ⟨result, sold, ran, continued⟩ := run_bind_ok engine returned
      obtain ⟨point, _, taken, ended⟩ := run_bind_ok sold continued
      have positive := priced finalCandle (List.mem_of_mem_getLast? last)
      obtain ⟨kept, closed⟩ := ledger.sold held positive ran
      obtain ⟨rfl, reported⟩ := kept.point taken
      cases ended
      exact ⟨kept, closed, .inr ⟨point, finalCandle, rfl, rfl, reported⟩⟩

/-- The points of a curve: one for each candle, of the engine which its pass left,
and after these only points of the engine at the end. -/
structure CurveAt (session : Session) (startingCash : ℚ) (candles : List Candle)
    (engine final : PaperTradingEngine) (curve : List EquityCurvePoint) : Prop where
  candle : ∀ (i : ℕ) candle, candles[i]? = some candle → ∃ point, curve[i]? = some point ∧
    PointAt session startingCash (engineAfter session (candles.take (i + 1)) engine) candle point
  closing : ∀ point ∈ curve.drop candles.length, ∃ candle, candles.getLast? = some candle ∧
    PointAt session startingCash final candle point

/-- The points of the loop, and perhaps one of the engine at the end, are a curve. -/
theorem CurveAt.of_loop {final : PaperTradingEngine} {points closing : List EquityCurvePoint}
    (length : points.length = candles.length)
    (each : ∀ (i : ℕ) candle, candles[i]? = some candle → ∃ point, points[i]? = some point ∧
      PointAt session startingCash (engineAfter session (candles.take (i + 1)) engine) candle point)
    (after : ∀ point ∈ closing, ∃ candle, candles.getLast? = some candle ∧
      PointAt session startingCash final candle point) :
    CurveAt session startingCash candles engine final (points ++ closing) where
  candle := by
    intro i candle located
    obtain ⟨point, found, reported⟩ := each i candle located
    have inside : i < points.length := (List.getElem?_eq_some_iff.mp found).1
    exact ⟨point, by rw [List.getElem?_append_left inside, found], reported⟩
  closing := by
    rw [← length, List.drop_left]
    exact after

/-- The engine after a backtest which returned: its ledger, nothing open, and a
curve of which the last point is one of this engine. -/
theorem backtest_ledger {curve : List EquityCurvePoint} {startingCash : Positive}
    {costModel : CostModel} {riskLimits : PaperRiskLimits}
    (closes : config.closeOpenPositionsOnEnd = true)
    (priced : ∀ candle ∈ candles, 0 < candle.close)
    (returned : (backtest session config candles).run (.fresh startingCash costModel riskLimits) =
      (.ok curve, next)) :
    Ledger session startingCash next ∧ next.positions.contains session.symbol = false ∧
      CurveAt session startingCash candles (.fresh startingCash costModel riskLimits) next curve ∧
      (curve = [] → next = .fresh startingCash costModel riskLimits) ∧
      ∀ point ∈ curve.getLast?, ∃ candle, PointAt session startingCash next candle point := by
  have fresh : Ledger session startingCash (.fresh startingCash costModel riskLimits) :=
    ledger_fresh startingCash costModel riskLimits
  rw [backtest] at returned
  obtain ⟨points, looped, ran, continued⟩ := run_bind_ok _ returned
  obtain ⟨closing, last, closed, ended⟩ := run_bind_ok looped continued
  cases ended
  obtain ⟨ledger, each⟩ := scan_values (processCandle session)
    (fun _ _ _ _ _ _ before stepped => before.processed stepped) fresh ran
  have length := scan_length _ ran
  have unlooped : candles = [] → looped = .fresh startingCash costModel riskLimits := by
    rintro rfl
    cases ran
    rfl
  have unopened : candles = [] → looped.positions.contains session.symbol = false := by
    intro none
    rw [unlooped none]
    rfl
  obtain ⟨kept, flat, after⟩ := ledger.ended closes priced unopened closed
  refine ⟨kept, flat, ?_⟩
  rcases after with ⟨rfl, rfl⟩ | ⟨point, candle, rfl, final, reported⟩
  · refine ⟨.of_loop length each (by simp), fun none => unlooped ?_, ?_⟩
    · rw [List.append_nil] at none
      exact List.eq_nil_of_length_eq_zero (by rw [← length, none, List.length_nil])
    · -- Nothing was sold after the loop: the last point is the one of the last pass.
      rw [List.append_nil, List.getLast?_eq_getElem?, length]
      intro point found
      have some : candles.length - 1 < points.length := (List.getElem?_eq_some_iff.mp found).1
      have inside : candles.length - 1 < candles.length := length ▸ some
      obtain ⟨same, taken, reported⟩ := each _ _ (List.getElem?_eq_getElem inside)
      rw [found] at taken
      obtain rfl := Option.some.inj taken
      have whole : candles.take (candles.length - 1 + 1) = candles := by
        rw [Nat.sub_add_cancel (Nat.one_le_of_lt inside), List.take_length]
      rw [whole, ran] at reported
      exact ⟨_, reported⟩
  · refine ⟨.of_loop length each ?_, fun none => ?_, ?_⟩
    · intro other member
      obtain rfl := List.mem_singleton.mp member
      exact ⟨candle, final, reported⟩
    · exact absurd none (List.append_ne_nil_of_right_ne_nil _ (List.cons_ne_nil _ _))
    · rw [List.getLast?_concat]
      rintro _ ⟨⟩
      exact ⟨candle, reported⟩

end Loop

/-- How the metrics and the equity curve of a run agree with its engine. -/
structure Reconciles (session : Session) (startingCash : ℚ) (candles : List Candle)
    (engine final : PaperTradingEngine) (result : BacktestResult) : Prop where
  netPnl : result.metrics.finalEquity - startingCash = result.metrics.netPnl
  totalCosts : result.metrics.totalCosts = final.totalCosts
  trades : result.metrics.entries = result.metrics.closedTrades
  curve : CurveAt session startingCash candles engine final result.equityCurve

/-- What the closed trades realized is all that the journal did. -/
theorem netPnl_eq {session : Session} {startingCash : ℚ} {engine : PaperTradingEngine}
    (ledger : Ledger session startingCash engine) :
    ((engine.journal.filter closesTrade).map (·.realizedPnl)).sum = engine.realizedPnl := by
  have account := congrArg Account.realizedPnl ledger.explains.account
  change engine.realizedPnl = (engine.journal.map (·.realizedPnl)).sum at account
  rw [account]
  have realizes := ledger.realizes
  generalize engine.journal = journal at realizes
  induction journal with
  | nil => rfl
  | cons entry rest ih =>
    have later := ih fun other member => realizes other (List.mem_cons_of_mem entry member)
    cases closing : closesTrade entry with
    | true => rw [List.filter_cons_of_pos closing, List.map_cons, List.map_cons, List.sum_cons,
        List.sum_cons, later]
    | false =>
      rw [List.filter_cons_of_neg (by rw [closing]; exact Bool.false_ne_true), List.map_cons,
        List.sum_cons, realizes entry List.mem_cons_self closing, zero_add, later]

section Runs

variable {config : BacktestConfig} {text : SymbolText} {symbol : String} {market : Market}
  {candles : List Candle} {strategy : StrategyCallback} {result : BacktestResult}

/-- Where open positions are closed at the end, the metrics and the equity curve
of every backtest which returns reconcile with its engine. -/
theorem runSingleSymbol_reconciles (closes : config.closeOpenPositionsOnEnd = true)
    (returned : runSingleSymbol config text symbol market candles strategy = .ok result) :
    ∃ engine final,
      PaperTradingEngine.create config.startingCash (some config.costModel)
        (some config.riskLimits) = .ok engine ∧
      (backtest (.of text symbol market strategy) config candles).run engine =
        (.ok result.equityCurve, final) ∧
      Reconciles (.of text symbol market strategy) config.startingCash candles engine final
        result := by
  obtain ⟨engine, final, validated, created, ran, journal, metrics⟩ := runSingleSymbol_ok returned
  obtain ⟨-, checked, -⟩ := validatedCandles_ok validated
  refine ⟨engine, final, created, ran, ?_⟩
  obtain ⟨positive, rfl⟩ := PaperTradingEngine.create_ok created
  have priced : ∀ candle ∈ candles, 0 < candle.close :=
    fun candle member => (checkCandle_close (checked candle member))
  obtain ⟨ledger, flat, curve, unstarted, latest⟩ := backtest_ledger closes priced ran
  have netPnl := netPnl_eq ledger
  have paired := ledger.paired
  rw [flat] at paired
  refine ⟨?_, ?_, ?_, curve⟩
  · rw [metrics]
    change _ - _ = ((final.journal.filter closesTrade).map (·.realizedPnl)).sum
    rw [netPnl]
    change (result.equityCurve.getLast?.map EquityCurvePoint.equity).getD config.startingCash -
      config.startingCash = final.realizedPnl
    cases last : result.equityCurve.getLast? with
    | none =>
      rw [unstarted (List.getLast?_eq_none_iff.mp last)]
      exact sub_self config.startingCash
    | some point =>
      obtain ⟨candle, reported⟩ := latest point last
      rw [Option.map_some, Option.getD_some, reported.settled flat]
      exact add_sub_cancel_left _ _
  · rw [metrics]
    exact (congrArg Account.totalCosts ledger.explains.account).symm
  · rw [metrics]
    change final.journal.countP opensTrade = (final.journal.filter closesTrade).length
    rw [paired, ← List.countP_eq_length_filter]
    rfl

end Runs

/-- Without the gap, the position is sold when the series ends, and what it was
worth at the second candle is unrealized until then. -/
theorem runSingleSymbol_reconciles_unsold : ∃ result engine final,
    runSingleSymbol {} .plain "ABC" .india (gapSeries.take 2) stopAt95 = .ok result ∧
      result.metrics.closedTrades = 1 ∧
      result.equityCurve.map (·.unrealizedPnl) = [0, -101 / 50, 0] ∧
      Reconciles (.of .plain "ABC" .india stopAt95) 100000 (gapSeries.take 2) engine final
        result := by
  have sold : ((runSingleSymbol {} .plain "ABC" .india (gapSeries.take 2) stopAt95).toOption.map
      fun result => (result.metrics.closedTrades, result.equityCurve.map (·.unrealizedPnl))) =
        some (1, [0, -101 / 50, 0]) := by
    decide +kernel
  cases returned : runSingleSymbol {} .plain "ABC" .india (gapSeries.take 2) stopAt95 with
  | error raised =>
    rw [returned] at sold
    cases sold
  | ok result =>
    rw [returned] at sold
    obtain ⟨trades, unrealized⟩ := Prod.mk.inj (Option.some.inj sold)
    obtain ⟨engine, final, -, -, reconciles⟩ := runSingleSymbol_reconciles rfl returned
    exact ⟨result, engine, final, rfl, trades, unrealized, reconciles⟩

end AlphaAgent.Backtesting
