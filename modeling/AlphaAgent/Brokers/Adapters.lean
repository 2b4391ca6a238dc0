import AlphaAgent.Execution.Environment
import AlphaAgent.Foundation.Fallible
import AlphaAgent.Shadow.Providers

/-!
# The broker adapters

`app/brokers/base.py` and `place_order` of the Zerodha and the Alpaca adapter.
Both adapters run the same statements on their own constants, so they are one
definition over an `Adapter`. A request is recorded when it is posted. Python's
`str` of a number or of a decoded value is a parameter.
-/

namespace AlphaAgent.Brokers

open Foundation

/-- Raise `FailClosedError` when a check failed. -/
def failWhen (failed : Bool) (message : String) : Except RaisedError Unit :=
  if failed then .error (.failClosed message) else .ok ()

theorem failWhen_eq_ok {failed : Bool} {message : String} :
    failWhen failed message = .ok () ↔ failed = false := by
  cases failed <;> simp [failWhen]

theorem failWhen_bind_eq_ok {α : Type} {failed : Bool} {message : String}
    {rest : Unit → Except RaisedError α} {value : α} :
    (failWhen failed message >>= rest) = .ok value ↔ failed = false ∧ rest () = .ok value := by
  cases failed <;> simp [failWhen, bind, Except.bind]

/-- `_issue_broker_execution_context`. -/
def issueBrokerExecutionContext (issuerToken executionId : String) (now ttlSeconds : ℤ)
    (orderIntent : OrderIntent) : Except RaisedError BrokerExecutionContext :=
  match orderIntent.riskDecisionId.filter (· ≠ "") with
  | none => .error (.failClosed "broker_execution_context_requires_risk_decision")
  | some riskDecisionId =>
    .ok {
      executionId
      idempotencyKey := orderIntent.idempotencyKey
      riskDecisionId
      broker := orderIntent.broker
      market := orderIntent.market
      issuedAt := now
      expiresAt := now + ttlSeconds * 1000000
      issuerToken }

/-- The permit which the execution agent asks for is this one, with its default lifetime. -/
theorem issueBrokerExecutionContext_eq (environment : Execution.Environment)
    (database : Execution.Database) (issuerToken : String) (orderIntent : OrderIntent) :
    ((Execution.issueBrokerExecutionContext issuerToken orderIntent).run.run
        (Execution.performer environment) database).result =
      issueBrokerExecutionContext issuerToken environment.executionToken environment.utcNow 30
        orderIntent := by
  unfold issueBrokerExecutionContext Execution.issueBrokerExecutionContext
  cases orderIntent.riskDecisionId.filter (· ≠ "") <;> rfl

/-- `BrokerExecutionContext.validate_for`, at a reading of the clock. -/
def validateFor (issuerToken : String) (now : ℤ) (context : BrokerExecutionContext)
    (orderIntent : OrderIntent) (brokerName : BrokerName) : Except RaisedError Unit := do
  failWhen (context.issuerToken ≠ issuerToken) "invalid_broker_execution_context"
  failWhen (now > context.expiresAt) "broker_execution_context_expired"
  failWhen (context.idempotencyKey ≠ orderIntent.idempotencyKey)
    "broker_execution_context_idempotency_mismatch"
  failWhen (some context.riskDecisionId ≠ orderIntent.riskDecisionId)
    "broker_execution_context_risk_decision_mismatch"
  failWhen (context.broker ≠ orderIntent.broker) "broker_execution_context_broker_mismatch"
  failWhen (context.broker ≠ brokerName) "broker_execution_context_adapter_mismatch"
  failWhen (context.market ≠ orderIntent.market) "broker_execution_context_market_mismatch"

/-- What `client.post` is called with. -/
structure OrderRequest where
  url : String
  headers : List (String × String)
  payload : Mapping

/-- What an adapter adds to the statements of `place_order`. `headers` raises
where credentials are missing, and `orderId` reads the id out of an answer. -/
structure Adapter where
  brokerName : BrokerName
  market : Market
  marketNotSupported : String
  orderTypeNotSupported : String
  url : String
  headers : Except RaisedError (List (String × String))
  payload : OrderIntent → Mapping
  orderId : Json → Except RaisedError String

namespace Adapter

variable (adapter : Adapter)

/-- `_validate_execution_context`. -/
def validateExecutionContext (issuerToken : String) (now : ℤ) (orderIntent : OrderIntent) :
    Option BrokerExecutionContext → Except RaisedError Unit
  | none => .error (.failClosed "broker_execution_context_required")
  | some context => validateFor issuerToken now context orderIntent adapter.brokerName

/-- The statements of `place_order` up to its request. -/
def orderRequest (issuerToken : String) (now : ℤ) (orderIntent : OrderIntent)
    (executionContext : Option BrokerExecutionContext) : Except RaisedError OrderRequest := do
  adapter.validateExecutionContext issuerToken now orderIntent executionContext
  failWhen (orderIntent.broker ≠ adapter.brokerName) "order_intent_broker_mismatch"
  failWhen (orderIntent.market ≠ adapter.market) adapter.marketNotSupported
  failWhen (orderIntent.orderType ≠ .market ∧ orderIntent.orderType ≠ .limit)
    adapter.orderTypeNotSupported
  let headers ← adapter.headers
  return ⟨adapter.url, headers, adapter.payload orderIntent⟩

/-- A decoded body as a `raw_response`, each value as its text. -/
def rawResponse (str : Json → String) : Json → Except RaisedError JsonObject
  | .object fields => .ok (fields.map fun field => (field.1, str field.2))
  | _ => .error ⟨"ValidationError", "Input should be a valid dictionary"⟩

/-- The statements of `place_order` after its request. An answer without content
has an empty object for its body. -/
def orderResult (str : Json → String) :
    Shadow.HttpResult → Except RaisedError BrokerOrderResult
  | .failed error message => .error ⟨error.errorType, message⟩
  | .answered statusCode body => do
    let raw ← Shadow.decodeBody body
    if 400 ≤ statusCode then return { status := .rejected, rawResponse := ← rawResponse str raw }
    else
      let brokerOrderId ← adapter.orderId raw
      if brokerOrderId = "" then
        return { status := .unknownRequiresReconciliation, rawResponse := ← rawResponse str raw }
      else
        return {
          brokerOrderId := some brokerOrderId
          status := .submitted
          rawResponse := ← rawResponse str raw }

/-- `place_order`, over the requests which were posted. -/
def placeOrder (str : Json → String) (issuerToken : String) (now : ℤ)
    (post : OrderRequest → Shadow.HttpResult) (orderIntent : OrderIntent)
    (executionContext : Option BrokerExecutionContext) :
    Fallible RaisedError (List OrderRequest) BrokerOrderResult := do
  let request ← Fallible.ofExcept
    (adapter.orderRequest issuerToken now orderIntent executionContext)
  modify (· ++ [request])
  Fallible.ofExcept (adapter.orderResult str (post request))

end Adapter

section Zerodha

/-- The credentials of the settings, and what `load_access_token` returns. -/
structure ZerodhaCredentials where
  apiKey : String
  apiSecret : String
  accessToken : Option String

/-- `ZerodhaBroker._headers`. -/
def ZerodhaCredentials.headers (credentials : ZerodhaCredentials) :
    Except RaisedError (List (String × String)) :=
  match credentials.accessToken.filter (· ≠ "") with
  | none => .error (Shadow.missingCredentials "zerodha_credentials_missing")
  | some accessToken =>
    if credentials.apiKey = "" ∨ credentials.apiSecret = "" then
      .error (Shadow.missingCredentials "zerodha_credentials_missing")
    else
      .ok [("Authorization", "token " ++ credentials.apiKey ++ ":" ++ accessToken),
        ("X-Kite-Version", "3")]

/-- The first characters of a text. -/
def firstCharacters (count : ℕ) (text : String) : String := String.ofList (text.toList.take count)

def zerodhaPayload (orderIntent : OrderIntent) : Mapping :=
  [("tradingsymbol", .text orderIntent.symbol),
    ("exchange", .text "NSE"),
    ("transaction_type", .text (if orderIntent.side = .buy then "BUY" else "SELL")),
    ("quantity", .number orderIntent.quantity.val),
    ("product", .text "CNC"),
    ("order_type", .text (match orderIntent.orderType with
      | .market => "MARKET"
      | .limit => "LIMIT")),
    ("validity", .text "DAY"),
    ("tag", .text (firstCharacters 20 orderIntent.idempotencyKey))] ++
  orderIntent.limitPrice.toList.map fun price => ("price", .number price.val)

/-- `raw.get("data", ...).get("order_id", "")`, as its text. -/
def zerodhaOrderId (str : Json → String) (raw : Json) : Except RaisedError String := do
  let fields ← Shadow.attributeGet raw
  let data ← Shadow.attributeGet ((fields.lookup "data").getD (.object []))
  return str ((data.lookup "order_id").getD (.text ""))

def zerodhaBroker (str : Json → String) (credentials : ZerodhaCredentials) : Adapter where
  brokerName := .zerodha
  market := .india
  marketNotSupported := "zerodha_market_not_supported"
  orderTypeNotSupported := "zerodha_order_type_not_supported"
  url := "https://api.kite.trade/orders/regular"
  headers := credentials.headers
  payload := zerodhaPayload
  orderId := zerodhaOrderId str

end Zerodha

section Alpaca

structure AlpacaCredentials where
  apiKey : String
  secretKey : String
  baseUrl : String := "https://paper-api.alpaca.markets"

/-- `AlpacaBroker._headers`. -/
def AlpacaCredentials.headers (credentials : AlpacaCredentials) :
    Except RaisedError (List (String × String)) :=
  if credentials.apiKey = "" ∨ credentials.secretKey = "" then
    .error (Shadow.missingCredentials "alpaca_credentials_missing")
  else
    .ok [("APCA-API-KEY-ID", credentials.apiKey), ("APCA-API-SECRET-KEY", credentials.secretKey)]

def alpacaPayload (str : Json → String) (orderIntent : OrderIntent) : Mapping :=
  [("symbol", .text orderIntent.symbol),
    ("qty", .text (toString orderIntent.quantity.val)),
    ("side", .text (if orderIntent.side = .buy then "buy" else "sell")),
    ("type", .text (match orderIntent.orderType with | .market => "market" | .limit => "limit")),
    ("time_in_force", .text "day"),
    ("client_order_id", .text (firstCharacters 48 orderIntent.idempotencyKey))] ++
  orderIntent.limitPrice.toList.map fun price => ("limit_price", .text (str (.number price.val)))

/-- `raw.get("id", "")`, as its text. -/
def alpacaOrderId (str : Json → String) (raw : Json) : Except RaisedError String := do
  let fields ← Shadow.attributeGet raw
  return str ((fields.lookup "id").getD (.text ""))

def alpacaBroker (str : Json → String) (credentials : AlpacaCredentials) : Adapter where
  brokerName := .alpaca
  market := .us
  marketNotSupported := "alpaca_market_not_supported"
  orderTypeNotSupported := "alpaca_order_type_not_supported"
  url := credentials.baseUrl ++ "/v2/orders"
  headers := credentials.headers
  payload := alpacaPayload str
  orderId := alpacaOrderId str

end Alpaca
end AlphaAgent.Brokers
