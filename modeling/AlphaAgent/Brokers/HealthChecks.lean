import AlphaAgent.Brokers.Adapters
import AlphaAgent.Foundation.Expiry

/-!
# Broker health checks

`BrokerHealthChecker.check` and what it asks of the Zerodha and the Alpaca adapter:
credentials, session, account and positions. A check loads the access token, sends
requests and reads the clock. It never raises: what an adapter raises becomes a health
which is not healthy.
-/

namespace AlphaAgent.Brokers

open Foundation Shadow

section Operations

/-- What a health check asks of the world. -/
inductive HealthOp where
  | loadAccessToken
  | get (url : String) (headers : List (String × String))

/-- A file or a client can raise what is no error of a request. -/
def HealthReply : HealthOp → Type
  | .loadAccessToken => Except RaisedError (Option String)
  | .get _ _ => Except RaisedError HttpResult

/-- The statements of a health check. -/
abbrev HealthM := Work RaisedError PUnit (TimedReply HealthReply)

/-- What a health check was answered so far. -/
abbrev HealthTranscript := List (Event (TimedReply HealthReply))

def loadAccessToken : HealthM (Option String) := do
  let loaded : Except RaisedError (Option String) ←
    Work.ask (TimedOp.other HealthOp.loadAccessToken)
  Work.ofExcept loaded

def get (url : String) (headers : List (String × String)) : HealthM HttpResult := do
  let requested : Except RaisedError HttpResult ←
    Work.ask (TimedOp.other (HealthOp.get url headers))
  Work.ofExcept requested

def utcNow : HealthM ℤ := Work.ask TimedOp.clock

/-- Python's `str` of a decoded value, `str.upper` and `str.lower`. -/
structure HealthTexts where
  str : Json → String
  upper : String → String
  lower : String → String

end Operations

section Values

/-- The values over which `list(value)` or `set(value)` goes. -/
def iterate : Json → Except RaisedError (List Json)
  | .list items => .ok items
  | .text value => .ok (value.toList.map fun char => .text (String.singleton char))
  | .object fields => .ok (fields.map fun field => .text field.1)
  | .null => .error (.typeError "'NoneType' object is not iterable")
  | .bool _ => .error (.typeError "'bool' object is not iterable")
  | .number _ => .error (.typeError "'float' object is not iterable")

/-- The elements of `set(value)`; a list or a mapping cannot be one. -/
def elements (value : Json) : Except RaisedError (List Json) := do
  let items ← iterate value
  items.forM fun
    | .list _ => throw (.typeError "unhashable type: 'list'")
    | .object _ => throw (.typeError "unhashable type: 'dict'")
    | _ => pure ()
  return items

/-- A text is one of the values. -/
def contains (items : List Json) (text : String) : Bool :=
  items.any fun
    | .text value => value = text
    | _ => false

/-- `mapping.get(key, {})`. -/
def getOrEmpty (mapping : Mapping) (key : String) : Json := (mapping.lookup key).getD (.object [])

/-- `value.get(key, {}) if isinstance(value, dict) else {}`. -/
def nestedOrEmpty (value : Json) (key : String) : Json :=
  match value with
  | .object fields => getOrEmpty fields key
  | _ => .object []

/-- `BrokerAccount`; `raw_response` is not kept. -/
structure BrokerAccount where
  accountId : String
  status : String
  tradingEnabled : Bool
  buyingPower : ℚ := 0
  cash : ℚ := 0

/-- What `BrokerHealthChecker.check` asks of an adapter. -/
structure CheckedBroker where
  brokerName : BrokerName
  validateCredentials : HealthM Unit
  checkSession : HealthM Bool
  getAccount : HealthM BrokerAccount
  getPositions : HealthM (List Json)

/-- `reconcile_positions`: the positions can be read. -/
def CheckedBroker.reconcilePositions (broker : CheckedBroker) : HealthM Bool := do
  let _ ← broker.getPositions
  return true

/-- The body of an answer with status 200. -/
def okBody (unavailable : String) : HttpResult → Except RaisedError (Option Json)
  | .failed error message => .error ⟨error.errorType, message⟩
  | .answered statusCode body =>
    if statusCode ≠ 200 then .error (.failClosed unavailable) else .ok body

/-- `except httpx.HTTPError`: a failed request becomes a platform error. -/
def orFailClosed (message : String) : HttpResult → Except RaisedError HttpResult
  | .failed _ _ => .error (.failClosed message)
  | requested => .ok requested

end Values

namespace Zerodha

/-- The keys of the settings. -/
structure Keys where
  apiKey : String
  apiSecret : String

variable (texts : HealthTexts) (keys : Keys)

def baseUrl : String := "https://api.kite.trade"

/-- `_require_credentials`; the token is loaded only when both keys are there. -/
def requireCredentials : HealthM Unit :=
  if keys.apiKey = "" ∨ keys.apiSecret = "" then
    throw (missingCredentials "zerodha_credentials_missing")
  else do
    match (← loadAccessToken).filter (· ≠ "") with
    | none => throw (missingCredentials "zerodha_credentials_missing")
    | some _ => return ()

/-- `_headers`; the token is loaded a second time. -/
def headers : HealthM (List (String × String)) := do
  requireCredentials keys
  let accessToken ← loadAccessToken
  return [("Authorization", "token " ++ keys.apiKey ++ ":" ++ accessToken.getD "None"),
    ("X-Kite-Version", "3")]

def request (path : String) : HealthM HttpResult := do
  get (baseUrl ++ path) (← headers keys)

def checkSession : HealthM Bool := do
  match ← request keys "/user/profile" with
  | .failed _ _ => throw (.failClosed "zerodha_session_check_failed")
  | .answered statusCode _ => return statusCode = 200

/-- The account which the bodies of a profile and of the margins describe. -/
def account (profile margins : Option Json) : Except RaisedError BrokerAccount := do
  let data := getOrEmpty (← attributeGet (← decodeBody profile)) "data"
  let equity := nestedOrEmpty (getOrEmpty (← attributeGet (← decodeBody margins)) "data") "equity"
  let available := nestedOrEmpty equity "available"
  let fields ← attributeGet data
  let exchanges ← elements ((Mapping.get fields "exchanges").orElse (.list []))
  let products ← elements ((Mapping.get fields "products").orElse (.list []))
  let cash ← ((Mapping.get (← attributeGet available) "cash").orElse (.number 0)).toFloat
  let segment ← attributeGet equity
  let buyingPower ← ((Mapping.get segment "net").orElse (.number cash)).toFloat
  let cncEquityEnabled := !(Mapping.get segment "enabled").isFalsy && contains exchanges "NSE" &&
    contains products "CNC"
  return {
    accountId := texts.str ((List.lookup "user_id" fields).getD (.text ""))
    status := if !data.isFalsy && cncEquityEnabled then "ACTIVE" else "UNKNOWN"
    tradingEnabled := cncEquityEnabled
    buyingPower
    cash }

def accountBody (path unavailable : String) : HealthM (Option Json) := do
  let requested ← Work.ofExcept (orFailClosed "zerodha_account_request_failed"
    (← request keys path))
  Work.ofExcept (okBody unavailable requested)

def getAccount : HealthM BrokerAccount := do
  let profile ← accountBody keys "/user/profile" "zerodha_account_unavailable"
  let margins ← accountBody keys "/user/margins" "zerodha_margins_unavailable"
  Work.ofExcept (account texts profile margins)

/-- The net positions of a body. -/
def positions (body : Option Json) : Except RaisedError (List Json) := do
  let data ← attributeGet (getOrEmpty (← attributeGet (← decodeBody body)) "data")
  iterate ((data.lookup "net").getD (.list []))

def getPositions : HealthM (List Json) := do
  let requested ← request keys "/portfolio/positions"
  let body ← Work.ofExcept (okBody "zerodha_positions_unavailable" requested)
  Work.ofExcept (positions body)

def broker : CheckedBroker where
  brokerName := .zerodha
  validateCredentials := requireCredentials keys
  checkSession := checkSession keys
  getAccount := getAccount texts keys
  getPositions := getPositions keys

end Zerodha

namespace Alpaca

variable (texts : HealthTexts) (credentials : AlpacaCredentials)

def request (path : String) : HealthM HttpResult := do
  get (credentials.baseUrl ++ path) (← Work.ofExcept credentials.headers)

/-- The account which a body describes. -/
def account (body : Option Json) : Except RaisedError BrokerAccount := do
  let data ← attributeGet (← decodeBody body)
  let buyingPower ← ((Mapping.get data "buying_power").orElse (.number 0)).toFloat
  let cash ← ((Mapping.get data "cash").orElse (.number 0)).toFloat
  return {
    accountId := texts.str ((List.lookup "id" data).getD (.text ""))
    status := texts.str ((List.lookup "status" data).getD (.text "UNKNOWN"))
    tradingEnabled := match Mapping.get data "trading_blocked" with
      | .bool blocked => !blocked
      | _ => false
    buyingPower
    cash }

def getAccount : HealthM BrokerAccount := do
  let requested ← Work.ofExcept (orFailClosed "alpaca_account_request_failed"
    (← request credentials "/v2/account"))
  let body ← Work.ofExcept (okBody "alpaca_account_unavailable" requested)
  Work.ofExcept (account texts body)

def checkSession : HealthM Bool := do
  let account ← getAccount texts credentials
  return texts.lower account.status = "active" && account.tradingEnabled

def getPositions : HealthM (List Json) := do
  let requested ← request credentials "/v2/positions"
  let body ← Work.ofExcept (okBody "alpaca_positions_unavailable" requested)
  Work.ofExcept (decodeBody body >>= iterate)

def broker : CheckedBroker where
  brokerName := .alpaca
  validateCredentials := do
    let _ ← Work.ofExcept credentials.headers
    return ()
  checkSession := checkSession texts credentials
  getAccount := getAccount texts credentials
  getPositions := getPositions credentials

end Alpaca

section Checker

/-- `BrokerHealth` with all its fields. -/
structure CheckedBrokerHealth extends BrokerHealth where
  brokerName : BrokerName
  buyingPower : NonNegative := .zero
  cash : NonNegative := .zero
  lastCheckedAt : ℤ
  rejectionReasons : List String := []

/-- `Field(ge=0)`. -/
def notNegative (value : ℚ) : Except RaisedError NonNegative :=
  if nonNegative : 0 ≤ value then .ok ⟨value, nonNegative⟩
  else .error ⟨"ValidationError", "Input should be greater than or equal to 0"⟩

variable (texts : HealthTexts) (broker : CheckedBroker) (market : Market)

def rejectionReasons (sessionValid : Bool) (account : BrokerAccount) (reconciled : Bool) :
    List String :=
  (if sessionValid then [] else ["broker_session_invalid"]) ++
  (if texts.upper account.status = "ACTIVE" then [] else ["broker_account_not_active"]) ++
  (if account.tradingEnabled then [] else ["broker_trading_disabled"]) ++
  (if reconciled then [] else ["portfolio_reconciliation_required"])

/-- The health of an account which could be read. -/
def accountHealth (sessionValid : Bool) (account : BrokerAccount) (reconciled : Bool)
    (lastCheckedAt : ℤ) (buyingPower cash : NonNegative) : CheckedBrokerHealth where
  brokerName := broker.brokerName
  market := market
  authStatus := if sessionValid then .valid else .expired
  accountStatus := if texts.upper account.status = "ACTIVE" then .active else .unknown
  tradingEnabled := account.tradingEnabled
  buyingPower := buyingPower
  cash := cash
  positionsReconciled := reconciled
  lastCheckedAt := lastCheckedAt
  rejectionReasons := rejectionReasons texts sessionValid account reconciled

/-- The statements of `check` which can raise. -/
def checkedHealth : HealthM CheckedBrokerHealth := do
  broker.validateCredentials
  let sessionValid ← broker.checkSession
  let account ← broker.getAccount
  let reconciled ← broker.reconcilePositions
  let lastCheckedAt ← utcNow
  let buyingPower ← Work.ofExcept (notNegative account.buyingPower)
  let cash ← Work.ofExcept (notNegative account.cash)
  return accountHealth texts broker market sessionValid account reconciled lastCheckedAt
    buyingPower cash

/-- The health of a check which raised. -/
def raisedHealth (raised : RaisedError) (lastCheckedAt : ℤ) : CheckedBrokerHealth where
  brokerName := broker.brokerName
  market := market
  authStatus :=
    if raised.errorType = "MissingCredentialsError" then .missingCredentials else .invalid
  lastCheckedAt := lastCheckedAt
  rejectionReasons :=
    if raised.errorType = "MissingCredentialsError" then ["broker_credentials_missing"]
    else if isTradingAlpha raised then [raised.message]
    else ["broker_health_exception:" ++ raised.errorType]

/-- `check`, which raises nothing. -/
def BrokerHealthChecker.check : Program (TimedReply HealthReply) CheckedBrokerHealth := do
  let (ended, _) ← StateT.run (ExceptT.run (checkedHealth texts broker market)) ⟨⟩
  match ended with
  | .ok health => return health
  | .error raised =>
    let lastCheckedAt : ℤ ← Program.perform TimedOp.clock
    return raisedHealth broker market raised lastCheckedAt

end Checker

end AlphaAgent.Brokers
