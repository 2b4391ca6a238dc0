import AlphaAgent.Paper.Effects
import Mathlib.Tactic.FieldSimp
import Mathlib.Tactic.LinearCombination
import Mathlib.Tactic.Ring

/-!
# Cash and cost basis

What an open position cost to open is its entry basis. Opening turns cash into
entry basis; closing a part turns its share of the basis back into cash and
books the difference as realized. So cash plus the entry basis of all open
positions is always the starting cash plus what was realized, and a snapshot
splits the equity accordingly.
-/

namespace AlphaAgent.Paper

open Foundation

namespace PaperTradingEngine

/-- The entry basis of all open positions. -/
def entryBasis (engine : PaperTradingEngine) : ℚ :=
  engine.positions.total PaperPosition.entryBasis

/-- Cash and entry basis together are what was put in and what was realized. -/
def CashMatchesBasis (engine : PaperTradingEngine) : Prop :=
  engine.cash + engine.entryBasis = engine.startingCash + engine.realizedPnl

/-- What selling all of a position at a mark would bring in above its entry basis. -/
def unrealizedOf (engine : PaperTradingEngine) (position : PaperPosition) (mark : ℚ) : ℚ :=
  let gross := engine.costModel.slippedPrice .sell mark * position.quantity
  gross - engine.costModel.costOf gross - position.entryBasis

end PaperTradingEngine

section Booking

variable {engine : PaperTradingEngine} {request : PaperOrderRequest}

/-- A new position's basis is exactly the cash which it took. -/
theorem openedPosition_entryBasis (nonzero : request.quantity ≠ 0)
    (executionPrice costs stopLoss : ℚ) :
    (openedPosition request executionPrice costs stopLoss).entryBasis =
      executionPrice * request.quantity + costs := by
  have cast : (request.quantity : ℚ) ≠ 0 := Int.cast_ne_zero.mpr nonzero
  simp only [PaperPosition.entryBasis, PaperPosition.unitBasis, openedPosition]
  field_simp

/-- Closing a part of a position takes its share of the basis out. -/
theorem closed_entryBasis (exitReason : PaperExitReason) {position : PaperPosition}
    (accepted : ExitAccepted engine request position) :
    (engine.closed request exitReason position).entryBasis + position.unitBasis * request.quantity =
      engine.entryBasis := by
  have held := accepted.held
  have enough := accepted.enough
  unfold PaperTradingEngine.closed PaperTradingEngine.entryBasis PaperTradingEngine.remaining
  by_cases whole : position.quantity - request.quantity ≤ 0
  · have same : position.quantity = request.quantity := by omega
    have split := Dict.total_erase_of_bound PaperPosition.entryBasis held
    simp only [whole, if_true]
    rw [split, PaperPosition.entryBasis, same]
    ring
  · have split := Dict.total_set_of_bound
      { position with quantity := position.quantity - request.quantity }
      PaperPosition.entryBasis held
    simp only [whole, if_false]
    simp only [PaperPosition.entryBasis, PaperPosition.unitBasis] at split ⊢
    push_cast at split
    linear_combination split

/-- Every booking keeps cash and entry basis matched. -/
theorem Books.cashMatchesBasis {exitReason : PaperExitReason} {result : PaperExecutionResult}
    {next : PaperTradingEngine} (matched : engine.CashMatchesBasis)
    (books : Books engine request exitReason result next) : next.CashMatchesBasis := by
  unfold PaperTradingEngine.CashMatchesBasis at matched ⊢
  cases books with
  | blocked reason message => exact matched
  | opened stopLoss accepted =>
    have added := Dict.total_set_of_unbound
      (openedPosition request (engine.priceOf request) (engine.costsOf request) stopLoss)
      PaperPosition.entryBasis accepted.unopened
    rw [openedPosition_entryBasis accepted.quantity.ne'] at added
    simp only [PaperTradingEngine.opened, PaperTradingEngine.entryBasis,
      PaperTradingEngine.grossOf] at matched ⊢
    rw [added]
    linear_combination matched
  | closed position accepted =>
    have taken := closed_entryBasis exitReason accepted
    have cash : (engine.closed request exitReason position).cash =
      engine.cash + (engine.grossOf request - engine.costsOf request) := rfl
    have realized : (engine.closed request exitReason position).realizedPnl =
      engine.realizedPnl + (engine.grossOf request - engine.costsOf request -
        position.unitBasis * request.quantity) := rfl
    have starting : (engine.closed request exitReason position).startingCash =
      engine.startingCash := rfl
    rw [cash, realized, starting]
    linear_combination matched + taken

end Booking

section Snapshot

variable {engine : PaperTradingEngine} {marks : Dict String ℚ}

/-- The entry basis which a snapshot adds up along the positions. -/
private theorem snapshot_basis (entries : List (String × PaperPosition)) {totals final : ℚ × ℚ}
    (summed : entries.foldlM (fun (totals : ℚ × ℚ) entry => do
      let liquidation ← engine.liquidationOf marks entry.1 entry.2
      return (totals.1 + liquidation, totals.2 + entry.2.entryBasis)) totals =
        (.ok final : Except RaisedError (ℚ × ℚ))) :
    final.2 = totals.2 + ((entries.map Prod.snd).map PaperPosition.entryBasis).sum := by
  induction entries generalizing totals with
  | nil =>
    cases summed
    simp
  | cons entry rest ih =>
    rw [List.foldlM_cons] at summed
    cases liquidation : engine.liquidationOf marks entry.1 entry.2 with
    | error raised => simp [liquidation, bind, Except.bind] at summed
    | ok value =>
      simp only [liquidation, bind, Except.bind, pure, Except.pure] at summed
      rw [ih summed]
      simp only [List.map_cons, List.sum_cons]
      ring

/-- A snapshot splits equity into cash and liquidation value, and reports as
unrealized what the liquidation value exceeds the entry basis by. -/
theorem snapshot_equity {text : SymbolText} {timestamp : DateTime}
    {requested : Option (Dict String ℚ)} {taken : PaperAccountSnapshot}
    (returned : engine.snapshot text timestamp requested = .ok taken) :
    taken.equity = engine.cash + engine.entryBasis + taken.unrealizedPnl ∧
      taken.realizedPnl = engine.realizedPnl := by
  unfold PaperTradingEngine.snapshot at returned
  cases converted : timestamp.toUtc with
  | error raised => simp [converted, bind, Except.bind] at returned
  | ok normalizedTimestamp =>
    simp only [converted, bind, Except.bind] at returned
    split at returned
    · cases returned
    · next totals summed =>
      cases returned
      have basis := snapshot_basis engine.positions.entries summed
      simp only [zero_add] at basis
      refine ⟨?_, rfl⟩
      simp only [basis, PaperTradingEngine.entryBasis, Dict.total, Dict.values]
      ring

/-- Without positions nothing is unrealized. -/
theorem snapshot_flat {text : SymbolText} {timestamp : DateTime}
    {requested : Option (Dict String ℚ)} {taken : PaperAccountSnapshot}
    (flat : engine.positions.entries = [])
    (returned : engine.snapshot text timestamp requested = .ok taken) :
    taken.unrealizedPnl = 0 := by
  unfold PaperTradingEngine.snapshot at returned
  cases converted : timestamp.toUtc with
  | error raised => simp [converted, bind, Except.bind] at returned
  | ok normalizedTimestamp =>
    simp only [converted, flat, bind, Except.bind, List.foldlM_nil, pure, Except.pure] at returned
    rw [← Except.ok.inj returned]
    exact sub_zero 0

/-- What selling a position would bring in is its basis and what is unrealized of it. -/
theorem liquidationOf_ok {symbol : String} {position : PaperPosition} {liquidation : ℚ}
    (sold : engine.liquidationOf marks symbol position = .ok liquidation) :
    liquidation - position.entryBasis =
      engine.unrealizedOf position ((marks.get? symbol).getD position.averageEntryPrice) := by
  unfold PaperTradingEngine.liquidationOf CostModel.executionPrice CostModel.transactionCost at sold
  simp only [bind, Except.bind] at sold
  split at sold
  · cases sold
  · next price executed =>
    split at executed
    · cases executed
    · cases executed
      split at sold
      · cases sold
      · next costs charged =>
        split at charged
        · cases charged
        · cases charged
          cases sold
          rfl

/-- With one position, what is unrealized of it at its mark is all that is. -/
theorem snapshot_single {text : SymbolText} {timestamp : DateTime}
    {requested : Option (Dict String ℚ)} {taken : PaperAccountSnapshot} {symbol : String}
    {position : PaperPosition} (only : engine.positions.entries = [(symbol, position)])
    (returned : engine.snapshot text timestamp requested = .ok taken) :
    taken.unrealizedPnl = engine.unrealizedOf position
      (((PaperTradingEngine.upperMarks text (requested.getD .empty)).get? symbol).getD
        position.averageEntryPrice) := by
  unfold PaperTradingEngine.snapshot at returned
  cases converted : timestamp.toUtc with
  | error raised => simp [converted, bind, Except.bind] at returned
  | ok normalizedTimestamp =>
    cases sold : engine.liquidationOf (PaperTradingEngine.upperMarks text (requested.getD .empty))
        symbol position with
    | error raised => simp [converted, only, sold, bind, Except.bind] at returned
    | ok liquidation =>
      simp only [converted, only, sold, bind, Except.bind, List.foldlM_cons, List.foldlM_nil,
        pure, Except.pure, zero_add] at returned
      rw [← Except.ok.inj returned, ← liquidationOf_ok sold]

end Snapshot

/-- In every state a fresh engine reaches, cash and entry basis together are
the starting cash and the realized result, and every snapshot which returns
splits its equity the same way. -/
theorem run_cash_basis (text : SymbolText) (startingCash : Positive) (costModel : CostModel)
    (riskLimits : PaperRiskLimits) (calls : List PaperCall) :
    let engine := (PaperTradingEngine.fresh startingCash costModel riskLimits).run text calls
    engine.cash + engine.entryBasis = startingCash + engine.realizedPnl ∧
      ∀ timestamp marks taken, engine.snapshot text timestamp marks = .ok taken →
        taken.equity = startingCash + taken.realizedPnl + taken.unrealizedPnl := by
  intro engine
  have starting : engine.startingCash = startingCash :=
    (run_configuration text (.fresh startingCash costModel riskLimits) calls).1
  have matched : engine.CashMatchesBasis := by
    apply run_preserves text PaperTradingEngine.CashMatchesBasis
    · intro before request exitReason result next matched _ books
      exact books.cashMatchesBasis matched
    · simp [PaperTradingEngine.CashMatchesBasis, PaperTradingEngine.fresh,
        PaperTradingEngine.entryBasis]
  unfold PaperTradingEngine.CashMatchesBasis at matched
  rw [starting] at matched
  refine ⟨matched, fun timestamp marks taken returned => ?_⟩
  obtain ⟨equity, realized⟩ := snapshot_equity returned
  rw [equity, realized, matched]

end AlphaAgent.Paper
