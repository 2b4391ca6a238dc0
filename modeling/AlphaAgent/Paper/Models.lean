import AlphaAgent.Core.Enums
import AlphaAgent.Core.Values
import AlphaAgent.Foundation.Dict

/-!
# Paper trading values

`app/paper/models.py`: costs, limits, requests, positions and journal entries.
The checks of `__post_init__` are part of the field types. Journal ids are
random and never read, so an entry has none.
-/

namespace AlphaAgent.Paper

open Foundation

inductive PaperTradeStatus where
  | opened
  | closed
  | blocked
deriving DecidableEq, Repr

inductive PaperExitReason where
  | none
  | stopLoss
  | profitTarget
  | manualResearchExit
  | endOfBacktest
deriving DecidableEq, Repr

inductive PaperBlockReason where
  | dailyLossLimit
  | insufficientCash
  | invalidRequest
  | maxTradesPerDay
  | positionAlreadyOpen
  | shortSellingDisabled
deriving DecidableEq, Repr

/-- `reason.value.lower()`. -/
def PaperBlockReason.message : PaperBlockReason → String
  | dailyLossLimit => "daily_loss_limit"
  | insufficientCash => "insufficient_cash"
  | invalidRequest => "invalid_request"
  | maxTradesPerDay => "max_trades_per_day"
  | positionAlreadyOpen => "position_already_open"
  | shortSellingDisabled => "short_selling_disabled"

structure CostModel where
  brokeragePct : NonNegative := ⟨3 / 10000, by norm_num⟩
  brokerageFlat : NonNegative := NonNegative.zero
  taxesPct : NonNegative := ⟨2 / 10000, by norm_num⟩
  slippageBps : NonNegative := ⟨5, by norm_num⟩
deriving DecidableEq

namespace CostModel

/-- `CostModel()`. -/
def default : CostModel := {}

/-- The price after slippage, without the check on the reference price. -/
def slippedPrice (model : CostModel) (side : OrderSide) (referencePrice : ℚ) : ℚ :=
  match side with
  | .buy => referencePrice * (1 + model.slippageBps / 10000)
  | .sell => referencePrice * (1 - model.slippageBps / 10000)

def executionPrice (model : CostModel) (side : OrderSide) (referencePrice : ℚ) :
    Except RaisedError ℚ :=
  if referencePrice ≤ 0 then .error (.valueError "reference_price_must_be_positive")
  else .ok (model.slippedPrice side referencePrice)

/-- The cost of a transaction, without the check on its value. -/
def costOf (model : CostModel) (grossValue : ℚ) : ℚ :=
  grossValue * (model.brokeragePct + model.taxesPct) + model.brokerageFlat

def transactionCost (model : CostModel) (grossValue : ℚ) : Except RaisedError ℚ :=
  if grossValue < 0 then .error (.valueError "gross_value_must_be_non_negative")
  else .ok (model.costOf grossValue)

theorem slippedPrice_buy_pos (model : CostModel) {referencePrice : ℚ}
    (positive : 0 < referencePrice) : 0 < model.slippedPrice .buy referencePrice := by
  have slippage : 0 ≤ model.slippageBps.val / 10000 :=
    div_nonneg model.slippageBps.2 (by norm_num)
  exact mul_pos positive (add_pos_of_pos_of_nonneg one_pos slippage)

end CostModel

structure PaperRiskLimits where
  maxTradesPerDay : AtLeastOne := ⟨5, by norm_num⟩
  maxDailyLoss : Positive := ⟨5000, by norm_num⟩
  minCashBuffer : NonNegative := NonNegative.zero
deriving DecidableEq

/-- `PaperRiskLimits()`. -/
def PaperRiskLimits.default : PaperRiskLimits := {}

/-- Metadata, each value as its text. -/
abbrev Metadata := List (String × String)

structure PaperOrderRequest where
  symbol : String
  market : Market
  side : OrderSide
  quantity : ℤ
  referencePrice : ℚ
  submittedAt : DateTime
  stopLoss : Option ℚ := none
  takeProfit : Option ℚ := none
  metadata : Metadata := []
deriving DecidableEq

structure PaperPosition where
  symbol : String
  market : Market
  quantity : ℤ
  averageEntryPrice : ℚ
  entryCostPerUnit : ℚ
  stopLoss : ℚ
  takeProfit : Option ℚ
  openedAt : DateTime
  metadata : Metadata := []
deriving DecidableEq

/-- What one unit of the position cost to open. -/
def PaperPosition.unitBasis (position : PaperPosition) : ℚ :=
  position.averageEntryPrice + position.entryCostPerUnit

def PaperPosition.entryBasis (position : PaperPosition) : ℚ :=
  position.unitBasis * position.quantity

structure PaperTradeJournalEntry where
  timestamp : DateTime
  symbol : String
  market : Market
  side : OrderSide
  quantity : ℤ
  requestedPrice : ℚ
  executionPrice : ℚ
  grossValue : ℚ
  costs : ℚ
  cashChange : ℚ
  status : PaperTradeStatus
  realizedPnl : ℚ := 0
  exitReason : PaperExitReason := .none
  blockReason : Option PaperBlockReason := none
  message : String := ""
  metadata : Metadata := []
deriving DecidableEq

structure PaperExecutionResult where
  accepted : Bool
  journalEntry : PaperTradeJournalEntry
  position : Option PaperPosition := none
deriving DecidableEq

structure PaperAccountSnapshot where
  timestamp : DateTime
  cash : ℚ
  equity : ℚ
  realizedPnl : ℚ
  unrealizedPnl : ℚ
  totalCosts : ℚ
  openPositions : List PaperPosition
deriving DecidableEq

/-- The text operations which the engine applies to symbols: `str.upper` and
`str.strip`. A normalized symbol stays as it is when normalized again. -/
structure SymbolText where
  upper : String → String
  strip : String → String
  stable : ∀ symbol, strip (upper (strip (upper symbol))) = strip (upper symbol)

/-- `symbol.upper().strip()`. -/
def SymbolText.normalize (text : SymbolText) (symbol : String) : String :=
  text.strip (text.upper symbol)

@[simp] theorem SymbolText.normalize_normalize (text : SymbolText) (symbol : String) :
    text.normalize (text.normalize symbol) = text.normalize symbol :=
  text.stable symbol

/-- Both operations on texts which are already normalized. -/
def SymbolText.plain : SymbolText := ⟨id, id, fun _ => rfl⟩

end AlphaAgent.Paper
