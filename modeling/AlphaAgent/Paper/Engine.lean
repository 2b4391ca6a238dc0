import AlphaAgent.Foundation.Fallible
import AlphaAgent.Paper.Models

/-!
# The paper trading engine

`app/paper/engine.py`. A method is a computation which updates the engine
statement by statement and can raise in between, so a raised error keeps what
was updated before it. That nothing ever is updated before a raise is proved,
not assumed. The two `defaultdict`s are functions of the day: reading one
inserts a zero, which no reader can tell from a missing entry.
-/

namespace AlphaAgent.Paper

open Foundation

structure PaperTradingEngine where
  startingCash : Positive
  cash : ℚ
  costModel : CostModel
  riskLimits : PaperRiskLimits
  positions : Dict String PaperPosition
  journal : List PaperTradeJournalEntry
  realizedPnl : ℚ
  totalCosts : ℚ
  dailyEntryCount : Day → ℕ
  dailyRealizedPnl : Day → ℚ

/-- A method of the engine. -/
abbrev PaperM (α : Type) := Fallible RaisedError PaperTradingEngine α

namespace PaperTradingEngine

/-- An engine without positions or entries. -/
def fresh (startingCash : Positive) (costModel : CostModel := .default)
    (riskLimits : PaperRiskLimits := .default) : PaperTradingEngine where
  startingCash
  cash := startingCash
  costModel
  riskLimits
  positions := .empty
  journal := []
  realizedPnl := 0
  totalCosts := 0
  dailyEntryCount _ := 0
  dailyRealizedPnl _ := 0

/-- The constructor. -/
def create (startingCash : ℚ) (costModel : Option CostModel) (riskLimits : Option PaperRiskLimits) :
    Except RaisedError PaperTradingEngine :=
  if positive : 0 < startingCash then
    .ok (fresh ⟨startingCash, positive⟩ (costModel.getD .default) (riskLimits.getD .default))
  else .error (.valueError "starting_cash_must_be_positive")

theorem create_ok {startingCash : ℚ} {costModel : CostModel} {riskLimits : PaperRiskLimits}
    {engine : PaperTradingEngine}
    (created : create startingCash (some costModel) (some riskLimits) = .ok engine) :
    ∃ positive, engine = fresh ⟨startingCash, positive⟩ costModel riskLimits := by
  unfold create at created
  split at created
  · next positive =>
    cases created
    exact ⟨positive, rfl⟩
  · cases created

def entryBlockReason (engine : PaperTradingEngine) (request : PaperOrderRequest) :
    Option PaperBlockReason :=
  if request.quantity ≤ 0 ∨ request.referencePrice ≤ 0 then some .invalidRequest
  else
    match request.stopLoss with
    | none => some .invalidRequest
    | some stopLoss =>
      let tradingDay := request.submittedAt.date
      if stopLoss ≥ request.referencePrice then some .invalidRequest
      else if engine.positions.contains request.symbol then some .positionAlreadyOpen
      else if engine.dailyEntryCount tradingDay ≥ engine.riskLimits.maxTradesPerDay then
        some .maxTradesPerDay
      else if engine.dailyRealizedPnl tradingDay ≤ -engine.riskLimits.maxDailyLoss.val then
        some .dailyLossLimit
      else none

end PaperTradingEngine

/-- The journal entry of a blocked request. -/
def blockedEntry (request : PaperOrderRequest) (reason : PaperBlockReason)
    (message : Option String) : PaperTradeJournalEntry where
  timestamp := request.submittedAt
  symbol := request.symbol
  market := request.market
  side := request.side
  quantity := max request.quantity 0
  requestedPrice := max request.referencePrice 0
  executionPrice := 0
  grossValue := 0
  costs := 0
  cashChange := 0
  status := .blocked
  blockReason := some reason
  message := message.getD reason.message
  metadata := request.metadata

def openedEntry (request : PaperOrderRequest) (executionPrice gross costs : ℚ) :
    PaperTradeJournalEntry where
  timestamp := request.submittedAt
  symbol := request.symbol
  market := request.market
  side := .buy
  quantity := request.quantity
  requestedPrice := request.referencePrice
  executionPrice
  grossValue := gross
  costs
  cashChange := -(gross + costs)
  status := .opened
  message := "research_entry_opened"
  metadata := request.metadata

def closedEntry (request : PaperOrderRequest) (exitReason : PaperExitReason)
    (executionPrice gross costs realizedPnl : ℚ) : PaperTradeJournalEntry where
  timestamp := request.submittedAt
  symbol := request.symbol
  market := request.market
  side := .sell
  quantity := request.quantity
  requestedPrice := request.referencePrice
  executionPrice
  grossValue := gross
  costs
  cashChange := gross - costs
  status := .closed
  realizedPnl
  exitReason
  message := "research_position_closed"
  metadata := request.metadata

def openedPosition (request : PaperOrderRequest) (executionPrice costs stopLoss : ℚ) :
    PaperPosition where
  symbol := request.symbol
  market := request.market
  quantity := request.quantity
  averageEntryPrice := executionPrice
  entryCostPerUnit := costs / request.quantity
  stopLoss
  takeProfit := request.takeProfit
  openedAt := request.submittedAt
  metadata := request.metadata

section Methods

/-- `journal.append`. -/
def appendEntry (entry : PaperTradeJournalEntry) : PaperM Unit :=
  modify fun engine => { engine with journal := engine.journal ++ [entry] }

def blocked (request : PaperOrderRequest) (reason : PaperBlockReason)
    (message : Option String := none) : PaperM PaperExecutionResult := do
  let journalEntry := blockedEntry request reason message
  appendEntry journalEntry
  return { accepted := false, journalEntry }

/-- `float(request.stop_loss)`. -/
def floatStopLoss (request : PaperOrderRequest) : Except RaisedError ℚ :=
  match request.stopLoss with
  | some stopLoss => .ok stopLoss
  | none =>
    .error (.typeError "float() argument must be a string or a real number, not 'NoneType'")

/-- `_open_position`. -/
def openPosition (request : PaperOrderRequest) : PaperM PaperExecutionResult := do
  let engine ← get
  match engine.entryBlockReason request with
  | some block => blocked request block
  | none =>
    let executionPrice ←
      Fallible.ofExcept (engine.costModel.executionPrice .buy request.referencePrice)
    let gross := executionPrice * request.quantity
    let costs ← Fallible.ofExcept (engine.costModel.transactionCost gross)
    let cashNeeded := gross + costs
    if engine.cash - cashNeeded < engine.riskLimits.minCashBuffer then
      blocked request .insufficientCash
    else
      modify fun engine => { engine with cash := engine.cash - cashNeeded }
      modify fun engine => { engine with totalCosts := engine.totalCosts + costs }
      let stopLoss ← Fallible.ofExcept (floatStopLoss request)
      let position := openedPosition request executionPrice costs stopLoss
      modify fun engine =>
        { engine with positions := engine.positions.set request.symbol position }
      modify fun engine => { engine with
        dailyEntryCount := Function.update engine.dailyEntryCount request.submittedAt.date
          (engine.dailyEntryCount request.submittedAt.date + 1) }
      let journalEntry := openedEntry request executionPrice gross costs
      appendEntry journalEntry
      return { accepted := true, journalEntry, position := some position }

/-- `_close_position`. -/
def closePosition (request : PaperOrderRequest) (exitReason : PaperExitReason) :
    PaperM PaperExecutionResult := do
  let engine ← get
  match engine.positions.get? request.symbol with
  | none => blocked request .invalidRequest (some "position_not_open")
  | some position =>
    if position.market ≠ request.market then
      blocked request .invalidRequest (some "market_mismatch")
    else if request.quantity ≤ 0 then
      blocked request .invalidRequest (some "quantity_must_be_positive")
    else if request.quantity > position.quantity then
      blocked request .shortSellingDisabled
    else
      let executionPrice ←
        Fallible.ofExcept (engine.costModel.executionPrice .sell request.referencePrice)
      let gross := executionPrice * request.quantity
      let costs ← Fallible.ofExcept (engine.costModel.transactionCost gross)
      let realizedPnl := gross - costs - position.unitBasis * request.quantity
      modify fun engine => { engine with cash := engine.cash + (gross - costs) }
      modify fun engine => { engine with realizedPnl := engine.realizedPnl + realizedPnl }
      modify fun engine => { engine with totalCosts := engine.totalCosts + costs }
      modify fun engine => { engine with
        dailyRealizedPnl := Function.update engine.dailyRealizedPnl request.submittedAt.date
          (engine.dailyRealizedPnl request.submittedAt.date + realizedPnl) }
      let remainingQuantity := position.quantity - request.quantity
      let updatedPosition :=
        if remainingQuantity ≤ 0 then none
        else some { position with quantity := remainingQuantity }
      modify fun engine => { engine with
        positions :=
          match updatedPosition with
          | none => engine.positions.erase request.symbol
          | some updated => engine.positions.set request.symbol updated }
      let journalEntry := closedEntry request exitReason executionPrice gross costs realizedPnl
      appendEntry journalEntry
      return { accepted := true, journalEntry, position := updatedPosition }

variable (text : SymbolText)

/-- A request with its symbol and timestamp normalized. -/
def normalizedRequest (request : PaperOrderRequest) (submittedAt : DateTime) : PaperOrderRequest :=
  { request with symbol := text.normalize request.symbol, submittedAt }

def submitOrder (request : PaperOrderRequest) (exitReason : PaperExitReason := .none) :
    PaperM PaperExecutionResult := do
  let submittedAt ← Fallible.ofExcept request.submittedAt.toUtc
  let normalized := normalizedRequest text request submittedAt
  match normalized.side with
  | .buy => openPosition normalized
  | .sell => closePosition normalized exitReason

/-- The request by which an exit closes a whole position at a reference price. -/
def exitRequest (position : PaperPosition) (referencePrice : ℚ) (timestamp : DateTime)
    (check : String) : PaperOrderRequest where
  symbol := position.symbol
  market := position.market
  side := .sell
  quantity := position.quantity
  referencePrice
  submittedAt := timestamp
  metadata := [("exit_check", check)]

def evaluateExit (symbol : String) (market : Market) (timestamp : DateTime) (low high : ℚ) :
    PaperM (Option PaperExecutionResult) := do
  let engine ← get
  match engine.positions.get? (text.normalize symbol) with
  | none => return none
  | some position =>
    if position.market ≠ market then return none
    else if low ≤ position.stopLoss then
      some <$> submitOrder text (exitRequest position position.stopLoss timestamp "stop_loss")
        .stopLoss
    else
      match position.takeProfit.filter (high ≥ ·) with
      | some takeProfit =>
        some <$> submitOrder text (exitRequest position takeProfit timestamp "profit_target")
          .profitTarget
      | none => return none

def closeOpenPosition (symbol : String) (market : Market) (referencePrice : ℚ)
    (timestamp : DateTime) (exitReason : PaperExitReason := .manualResearchExit) :
    PaperM PaperExecutionResult := do
  let engine ← get
  let quantity := ((engine.positions.get? (text.normalize symbol)).map (·.quantity)).getD 0
  submitOrder text
    { symbol, market, side := .sell, quantity, referencePrice, submittedAt := timestamp }
    exitReason

end Methods

namespace PaperTradingEngine

/-- The marks under upper-case symbols; a later mark replaces an earlier one. -/
def upperMarks (text : SymbolText) (marks : Dict String ℚ) : Dict String ℚ :=
  marks.entries.foldl (fun upper mark => upper.set (text.upper mark.1) mark.2) .empty

/-- What selling a whole position at its mark, or at its entry price, would bring in. -/
def liquidationOf (engine : PaperTradingEngine) (marks : Dict String ℚ) (symbol : String)
    (position : PaperPosition) : Except RaisedError ℚ := do
  let mark := (marks.get? symbol).getD position.averageEntryPrice
  let sellPrice ← engine.costModel.executionPrice .sell mark
  let gross := sellPrice * position.quantity
  let cost ← engine.costModel.transactionCost gross
  return gross - cost

def snapshot (engine : PaperTradingEngine) (text : SymbolText) (timestamp : DateTime)
    (marks : Option (Dict String ℚ)) : Except RaisedError PaperAccountSnapshot := do
  let normalizedTimestamp ← timestamp.toUtc
  let marks := upperMarks text (marks.getD .empty)
  let (liquidationValue, entryBasis) ← engine.positions.entries.foldlM
    (fun (totals : ℚ × ℚ) entry => do
      let liquidation ← engine.liquidationOf marks entry.1 entry.2
      return (totals.1 + liquidation, totals.2 + entry.2.entryBasis)) (0, 0)
  return {
    timestamp := normalizedTimestamp
    cash := engine.cash
    equity := engine.cash + liquidationValue
    realizedPnl := engine.realizedPnl
    unrealizedPnl := liquidationValue - entryBasis
    totalCosts := engine.totalCosts
    openPositions := engine.positions.values }

end PaperTradingEngine

/-- One call of a method which changes the engine. -/
inductive PaperCall where
  | submitOrder (request : PaperOrderRequest) (exitReason : PaperExitReason)
  | evaluateExit (symbol : String) (market : Market) (timestamp : DateTime) (low high : ℚ)
  | closeOpenPosition (symbol : String) (market : Market) (referencePrice : ℚ)
      (timestamp : DateTime) (exitReason : PaperExitReason)

def PaperCall.perform (text : SymbolText) : PaperCall → PaperM (Option PaperExecutionResult)
  | .submitOrder request exitReason => some <$> Paper.submitOrder text request exitReason
  | .evaluateExit symbol market timestamp low high =>
    Paper.evaluateExit text symbol market timestamp low high
  | .closeOpenPosition symbol market referencePrice timestamp exitReason =>
    some <$> Paper.closeOpenPosition text symbol market referencePrice timestamp exitReason

namespace PaperTradingEngine

/-- What a call returns or raises, and the engine after it. -/
def call (engine : PaperTradingEngine) (text : SymbolText) (call : PaperCall) :
    Except RaisedError (Option PaperExecutionResult) × PaperTradingEngine :=
  (call.perform text).run engine

/-- The engine after a sequence of calls, whatever each of them returned or raised. -/
def run (engine : PaperTradingEngine) (text : SymbolText) (calls : List PaperCall) :
    PaperTradingEngine :=
  calls.foldl (fun engine call => (engine.call text call).2) engine

end PaperTradingEngine
end AlphaAgent.Paper
