import AlphaAgent.Paper.Effects
import Mathlib.Algebra.Order.BigOperators.Group.List
import Mathlib.Tactic.Linarith

/-!
# The cash buffer

The buffer is a gate on entries: an entry which would leave less cash than the
buffer is blocked. An exit is never blocked for lack of cash, so an exit whose
costs exceed its proceeds can take the account below the buffer, by no more
than that excess. `run_cash_ge_buffer` bounds the cash of every state reached
accordingly.
-/

namespace AlphaAgent.Paper

/-- By how much the costs of an exit exceed its proceeds. -/
def exitShortfall (entry : PaperTradeJournalEntry) : ℚ :=
  if entry.status = .closed then max 0 (entry.costs - entry.grossValue) else 0

/-- The shortfalls of all exits of a journal. -/
def totalShortfall (journal : List PaperTradeJournalEntry) : ℚ :=
  (journal.map exitShortfall).sum

namespace PaperTradingEngine

/-- What the cash never falls below without an exit shortfall. -/
def cashFloor (engine : PaperTradingEngine) : ℚ :=
  min engine.startingCash.val engine.riskLimits.minCashBuffer.val

/-- The cash stays above its floor but for the shortfalls of exits. -/
def CashAboveFloor (engine : PaperTradingEngine) : Prop :=
  engine.cashFloor - totalShortfall engine.journal ≤ engine.cash

end PaperTradingEngine

theorem exitShortfall_nonneg (entry : PaperTradeJournalEntry) : 0 ≤ exitShortfall entry := by
  unfold exitShortfall
  split
  · exact le_max_left _ _
  · exact le_rfl

theorem totalShortfall_nonneg (journal : List PaperTradeJournalEntry) :
    0 ≤ totalShortfall journal := by
  apply List.sum_nonneg
  intro shortfall member
  obtain ⟨entry, -, rfl⟩ := List.mem_map.mp member
  exact exitShortfall_nonneg entry

theorem totalShortfall_concat (journal : List PaperTradeJournalEntry)
    (entry : PaperTradeJournalEntry) :
    totalShortfall (journal ++ [entry]) = totalShortfall journal + exitShortfall entry := by
  simp [totalShortfall]

section Booking

variable {engine next : PaperTradingEngine} {request : PaperOrderRequest}
  {exitReason : PaperExitReason} {result : PaperExecutionResult}

/-- An accepted entry leaves at least the buffer. -/
theorem Books.buffer (books : Books engine request exitReason result next)
    (entered : result.journalEntry.status = .opened) :
    next.riskLimits.minCashBuffer.val ≤ next.cash := by
  cases books with
  | blocked reason message => cases entered
  | opened stopLoss accepted => exact accepted.buffer
  | closed position accepted => cases entered

/-- Every booking keeps the cash above its floor but for exit shortfalls. -/
theorem Books.cashAboveFloor (above : engine.CashAboveFloor)
    (books : Books engine request exitReason result next) : next.CashAboveFloor := by
  unfold PaperTradingEngine.CashAboveFloor at above ⊢
  cases books with
  | blocked reason message =>
    have same : (engine.withEntry (blockedEntry request reason message)).journal =
      engine.journal ++ [blockedEntry request reason message] := rfl
    have nothing : exitShortfall (blockedEntry request reason message) = 0 := rfl
    rw [same, totalShortfall_concat, nothing, add_zero]
    exact above
  | opened stopLoss accepted =>
    have spent := totalShortfall_nonneg (engine.opened request stopLoss).journal
    have floor : (engine.opened request stopLoss).cashFloor ≤
        engine.riskLimits.minCashBuffer.val := min_le_right _ _
    have buffer : engine.riskLimits.minCashBuffer.val ≤
        (engine.opened request stopLoss).cash := accepted.buffer
    linarith
  | closed position accepted =>
    have journal : (engine.closed request exitReason position).journal =
      engine.journal ++ [closedEntry request exitReason (engine.priceOf request)
        (engine.grossOf request) (engine.costsOf request) (engine.pnlOf request position)] := rfl
    have shortfall : engine.costsOf request - engine.grossOf request ≤
        exitShortfall (closedEntry request exitReason (engine.priceOf request)
          (engine.grossOf request) (engine.costsOf request) (engine.pnlOf request position)) :=
      le_max_right _ _
    have cash : (engine.closed request exitReason position).cash =
      engine.cash + (engine.grossOf request - engine.costsOf request) := rfl
    have floor : (engine.closed request exitReason position).cashFloor = engine.cashFloor := rfl
    rw [journal, totalShortfall_concat, cash, floor]
    linarith

end Booking

/-- In every state a fresh engine reaches, the cash is at least the smaller of
the starting cash and the buffer, less the amounts by which the costs of exits
exceeded their proceeds; and every accepted entry leaves at least the buffer. -/
theorem run_cash_ge_buffer (text : SymbolText) (startingCash : Positive) (costModel : CostModel)
    (riskLimits : PaperRiskLimits) (calls : List PaperCall) :
    let engine := (PaperTradingEngine.fresh startingCash costModel riskLimits).run text calls
    min startingCash.val riskLimits.minCashBuffer.val - totalShortfall engine.journal ≤
        engine.cash ∧
      ∀ call result, (engine.call text call).1 = .ok (some result) →
        result.journalEntry.status = .opened →
          riskLimits.minCashBuffer.val ≤ (engine.call text call).2.cash := by
  intro engine
  obtain ⟨starting, -, limits⟩ :=
    run_configuration text (.fresh startingCash costModel riskLimits) calls
  have above : engine.CashAboveFloor := by
    apply run_preserves text PaperTradingEngine.CashAboveFloor
    · intro before request exitReason result next above _ books
      exact books.cashAboveFloor above
    · simp [PaperTradingEngine.CashAboveFloor, PaperTradingEngine.fresh, totalShortfall,
        PaperTradingEngine.cashFloor]
  refine ⟨?_, fun call result returned entered => ?_⟩
  · unfold PaperTradingEngine.CashAboveFloor PaperTradingEngine.cashFloor at above
    rwa [starting, limits] at above
  · rcases call_cases text engine call with
      ⟨raised, failed⟩ | nothing | ⟨request, exitReason, booked, -, booking, books⟩
    · rw [failed] at returned
      cases returned
    · rw [nothing] at returned
      cases returned
    · rw [booking, Except.ok.injEq, Option.some.injEq] at returned
      have buffer := books.buffer (returned ▸ entered)
      rw [books.configuration.2.2, limits] at buffer
      exact buffer

/-- A flat fee of 100 on each trade. -/
def flatFee : CostModel where
  brokeragePct := NonNegative.zero
  brokerageFlat := ⟨100, by norm_num⟩
  taxesPct := NonNegative.zero
  slippageBps := NonNegative.zero

/-- An engine with 1000 in cash and a buffer of 50. -/
def bufferedEngine : PaperTradingEngine :=
  .fresh ⟨1000, by norm_num⟩ flatFee
    { PaperRiskLimits.default with minCashBuffer := ⟨50, by norm_num⟩ }

/-- A purchase of two units at 400 which are sold at 1. -/
def sellCheaply : List PaperCall :=
  [.submitOrder
    { symbol := "AAA", market := .us, side := .buy, quantity := 2, referencePrice := 400
      submittedAt := .utc 0, stopLoss := some 1 } .none,
   .submitOrder
    { symbol := "AAA", market := .us, side := .sell, quantity := 2, referencePrice := 1
      submittedAt := .utc 0 } .none]

/-- The fee of the exit leaves 2. -/
theorem sellCheaply_below_buffer :
    let engine := bufferedEngine.run .plain sellCheaply
    engine.cash = 2 ∧ ¬min engine.startingCash.val engine.riskLimits.minCashBuffer.val ≤
      engine.cash := by
  decide +kernel

end AlphaAgent.Paper
