import AlphaAgent.Core.Enums
import AlphaAgent.Core.Values

/-!
# Orders

The order an execution call is asked to place, the record it keeps of it, and
what a broker reports about it.
-/

namespace AlphaAgent

structure OrderIntent where
  market : Market
  broker : BrokerName
  symbol : String
  side : OrderSide
  quantity : AtLeastOne
  orderType : OrderType
  limitPrice : Option Positive := none
  stopLoss : Option Positive := none
  strategyId : Option String := none
  signalId : Option String := none
  riskDecisionId : Option String := none
  idempotencyKey : String
deriving DecidableEq

/-- A JSON object, each value as its text. -/
abbrev JsonObject := List (String × String)

structure OrderRecord where
  id : String
  intent : OrderIntent
  status : OrderStatus := .created
  reconciliationState : ReconciliationState := .required
  brokerOrderId : Option String := none
  brokerResponse : JsonObject := []
  finalReconciliation : JsonObject := []
deriving DecidableEq

structure BrokerOrderResult where
  brokerOrderId : Option String := none
  status : OrderStatus
  rawResponse : JsonObject := []
deriving DecidableEq

/-- The permit to place one order, issued after the pre-trade checks. -/
structure BrokerExecutionContext where
  executionId : String
  idempotencyKey : String
  riskDecisionId : String
  broker : BrokerName
  market : Market
  issuedAt : ℤ
  expiresAt : ℤ
  issuerToken : String
deriving DecidableEq

end AlphaAgent
