import AlphaAgent.Execution.Idempotency
import AlphaAgent.Foundation.Program
import AlphaAgent.Schemas.Risk
import AlphaAgent.Schemas.Status

/-!
# The execution agent

`ExecutionAgent.execute` as a program over the atomic operations it asks for:
the three store transactions, the two broker calls, and the values it draws
from outside (a record id, the clock, a token). Everything between two
operations is local to one call, so an interleaving of calls is an interleaving
of their operations.
-/

namespace AlphaAgent.Execution

open Foundation

/-- What a call to `execute` asks of its surroundings. -/
inductive Operation where
  | getRecord (idempotencyKey : String)
  | newId
  | reserve (idempotencyKey : String) (record : OrderRecord)
  | utcNow
  | executionToken
  | placeOrder (intent : OrderIntent) (context : BrokerExecutionContext)
  | reconcileOrder (brokerOrderId : String)
  | upsert (idempotencyKey : String) (record : OrderRecord)
deriving DecidableEq

/-- What each operation is answered with; a store or a broker can raise. -/
def Reply : Operation → Type
  | .getRecord _ => Except RaisedError (Option OrderRecord)
  | .newId => String
  | .reserve _ _ => Except RaisedError Unit
  | .utcNow => ℤ
  | .executionToken => String
  | .placeOrder _ _ => Except RaisedError BrokerOrderResult
  | .reconcileOrder _ => Except RaisedError BrokerOrderResult
  | .upsert _ _ => Except RaisedError Unit

/-- A computation which performs operations and can raise. -/
abbrev ExecutionM (α : Type) := ExceptT RaisedError (Program Reply) α

namespace ExecutionM

def getRecord (idempotencyKey : String) : ExecutionM (Option OrderRecord) :=
  ExceptT.mk (Program.perform (Operation.getRecord idempotencyKey))

def newId : ExecutionM String := ExceptT.lift (Program.perform Operation.newId)

def reserve (idempotencyKey : String) (record : OrderRecord) : ExecutionM Unit :=
  ExceptT.mk (Program.perform (Operation.reserve idempotencyKey record))

def utcNow : ExecutionM ℤ := ExceptT.lift (Program.perform Operation.utcNow)

def executionToken : ExecutionM String := ExceptT.lift (Program.perform Operation.executionToken)

def placeOrder (intent : OrderIntent) (context : BrokerExecutionContext) :
    ExecutionM BrokerOrderResult :=
  ExceptT.mk (Program.perform (Operation.placeOrder intent context))

def reconcileOrder (brokerOrderId : String) : ExecutionM BrokerOrderResult :=
  ExceptT.mk (Program.perform (Operation.reconcileOrder brokerOrderId))

def upsert (idempotencyKey : String) (record : OrderRecord) : ExecutionM Unit :=
  ExceptT.mk (Program.perform (Operation.upsert idempotencyKey record))

end ExecutionM

/-- An agent with its settings, and the issuer token of its process. -/
structure ExecutionAgent where
  settings : Settings
  issuerToken : String

/-- The arguments of `execute`; the broker answers its operations instead. -/
structure ExecuteCall where
  intent : OrderIntent
  riskDecision : RiskDecision
  brokerHealth : BrokerHealth
  complianceStatus : Option ComplianceStatus
  systemState : Option SystemStateSnapshot := none

/-- Python truth of an optional string. -/
def isGiven (value : Option String) : Bool := value.any (· ≠ "")

/-- Raise `RiskRejectedError` when a check failed. -/
def rejectWhen (failed : Bool) (message : String) : Except RaisedError Unit :=
  if failed then .error (.riskRejected message) else .ok ()

def validateCompliance (intent : OrderIntent) (complianceStatus : Option ComplianceStatus) :
    Except RaisedError Unit :=
  if intent.market = .india then do
    rejectWhen (!complianceStatus.any ComplianceStatus.approved) "india_compliance_not_approved"
    rejectWhen (!complianceStatus.any fun status => status.market = intent.market)
      "india_compliance_market_mismatch"
  else .ok ()

def validatePreTrade (settings : Settings) (intent : OrderIntent) (riskDecision : RiskDecision)
    (brokerHealth : BrokerHealth) (complianceStatus : Option ComplianceStatus)
    (state : SystemStateSnapshot) : Except RaisedError Unit := do
  rejectWhen (!isGiven intent.riskDecisionId) "risk_decision_id_required"
  rejectWhen (intent.riskDecisionId ≠ some riskDecision.id) "risk_decision_id_mismatch"
  rejectWhen (!riskDecision.isApprovedForExecution) "risk_decision_not_approved"
  rejectWhen (!state.tradingMode.isLiveCapable) "trading_mode_not_live_capable"
  rejectWhen (!state.liveTradingEnabled) "live_trading_enabled_false"
  rejectWhen (!settings.liveOrdersEnabled) "live_orders_enabled_false"
  rejectWhen state.killSwitch "kill_switch_enabled"
  rejectWhen (brokerHealth.market ≠ intent.market) "broker_market_mismatch"
  rejectWhen (!brokerHealth.isHealthyForLive) "broker_health_not_live_ready"
  validateCompliance intent complianceStatus
  rejectWhen (intent.idempotencyKey = "") "idempotency_key_required"

/-- Microseconds for which a permit is valid. -/
def contextLifetime : ℤ := 30 * 1000000

/-- `_issue_broker_execution_context` with its default lifetime. -/
def issueBrokerExecutionContext (issuerToken : String) (intent : OrderIntent) :
    ExecutionM BrokerExecutionContext :=
  match intent.riskDecisionId.filter (· ≠ "") with
  | none => throw (.failClosed "broker_execution_context_requires_risk_decision")
  | some riskDecisionId => do
    let issuedAt ← ExecutionM.utcNow
    let executionId ← ExecutionM.executionToken
    return {
      executionId
      idempotencyKey := intent.idempotencyKey
      riskDecisionId
      broker := intent.broker
      market := intent.market
      issuedAt
      expiresAt := issuedAt + contextLifetime
      issuerToken }

/-- `OrderReconciler.reconcile`: without a broker order id nobody is asked. -/
def reconcile (brokerOrderId : Option String) : ExecutionM BrokerOrderResult :=
  match brokerOrderId.filter (· ≠ "") with
  | none => return { status := .unknownRequiresReconciliation }
  | some brokerOrderId => ExecutionM.reconcileOrder brokerOrderId

/-- The record of an order whose placement raised. -/
def unplacedRecord (record : OrderRecord) (raised : RaisedError) : OrderRecord :=
  { record with
    status := .unknownRequiresReconciliation
    reconciliationState := .blockingDuplicates
    brokerResponse := [("error", raised.message), ("error_type", raised.errorType),
      ("stage", "place_order")] }

/-- The record of a placed order after its reconciliation. -/
def reconciledRecord (record : OrderRecord) (brokerResult reconciliation : BrokerOrderResult) :
    OrderRecord :=
  { record with
    status := reconciliation.status
    reconciliationState :=
      if reconciliation.status = .unknownRequiresReconciliation then .blockingDuplicates
      else .reconciled
    brokerOrderId := brokerResult.brokerOrderId
    brokerResponse := brokerResult.rawResponse
    finalReconciliation := reconciliation.rawResponse }

/-- The part of `execute` which follows an order the broker answered. -/
def executePlaced (intent : OrderIntent) (record : OrderRecord)
    (brokerResult : BrokerOrderResult) : ExecutionM OrderRecord := do
  let reconciliation ← reconcile brokerResult.brokerOrderId
  let record := reconciledRecord record brokerResult reconciliation
  ExecutionM.upsert intent.idempotencyKey record
  return record

/-- The `except` branch around the broker's `place_order`. -/
def executeUnplaced (intent : OrderIntent) (record : OrderRecord) (raised : RaisedError) :
    ExecutionM BrokerOrderResult := do
  ExecutionM.upsert intent.idempotencyKey (unplacedRecord record raised)
  throw raised

namespace ExecutionAgent

/-- The part of `execute` which follows a successful reservation. -/
def executeReserved (agent : ExecutionAgent) (intent : OrderIntent) (record : OrderRecord) :
    ExecutionM OrderRecord := do
  let executionContext ← issueBrokerExecutionContext agent.issuerToken intent
  let brokerResult ←
    tryCatch (ExecutionM.placeOrder intent executionContext) (executeUnplaced intent record)
  executePlaced intent record brokerResult

/-- The state a call is checked against. -/
def state (agent : ExecutionAgent) (call : ExecuteCall) : SystemStateSnapshot :=
  call.systemState.getD (.fromSettings agent.settings)

/-- The pre-trade checks of one call. -/
def validate (agent : ExecutionAgent) (call : ExecuteCall) : Except RaisedError Unit :=
  validatePreTrade agent.settings call.intent call.riskDecision call.brokerHealth
    call.complianceStatus (agent.state call)

def execute (agent : ExecutionAgent) (call : ExecuteCall) : ExecutionM OrderRecord := do
  ExceptT.mk (pure (agent.validate call))
  match ← ExecutionM.getRecord call.intent.idempotencyKey with
  | some existing => return existing
  | none =>
    let record : OrderRecord := { id := ← ExecutionM.newId, intent := call.intent }
    ExecutionM.reserve call.intent.idempotencyKey record
    agent.executeReserved call.intent record

end ExecutionAgent

theorem rejectWhen_bind_eq_ok {α : Type} {failed : Bool} {message : String}
    {rest : Unit → Except RaisedError α} {value : α} :
    (rejectWhen failed message >>= rest) = .ok value ↔ failed = false ∧ rest () = .ok value := by
  cases failed <;> simp [rejectWhen, bind, Except.bind]

/-- Accepted calls name the decision they carry. -/
theorem ExecutionAgent.validate_named {agent : ExecutionAgent} {call : ExecuteCall}
    (accepted : agent.validate call = .ok ()) :
    call.intent.riskDecisionId = some call.riskDecision.id ∧ call.riskDecision.id ≠ "" := by
  rw [validate, validatePreTrade, rejectWhen_bind_eq_ok, rejectWhen_bind_eq_ok] at accepted
  obtain ⟨given, named, -⟩ := accepted
  simp only [ne_eq, decide_not, Bool.not_eq_false', decide_eq_true_eq] at named
  refine ⟨named, ?_⟩
  simpa [isGiven, named] using given

/-- The permit which a call receives for its broker. -/
def contextFor (issuerToken : String) (intent : OrderIntent) (riskDecisionId : String)
    (issuedAt : ℤ) (executionId : String) : BrokerExecutionContext where
  executionId
  idempotencyKey := intent.idempotencyKey
  riskDecisionId
  broker := intent.broker
  market := intent.market
  issuedAt
  expiresAt := issuedAt + contextLifetime
  issuerToken

/-- Without a broker order id the record is stored unreconciled. -/
theorem executePlaced_unidentified (intent : OrderIntent) (record : OrderRecord)
    {brokerResult : BrokerOrderResult}
    (unidentified : brokerResult.brokerOrderId.filter (· ≠ "") = none) :
    (executePlaced intent record brokerResult).run =
      .request (.upsert intent.idempotencyKey
        (reconciledRecord record brokerResult { status := .unknownRequiresReconciliation })) fun
        | .error lost => .done (.error lost)
        | .ok () => .done (.ok
          (reconciledRecord record brokerResult { status := .unknownRequiresReconciliation })) := by
  unfold executePlaced reconcile
  rw [unidentified]
  refine Program.request_congr fun reply => ?_
  match reply with
  | .error lost => rfl
  | .ok () => rfl

/-- With a broker order id the record is stored only after a reconciliation which returns. -/
theorem executePlaced_identified (intent : OrderIntent) (record : OrderRecord)
    {brokerResult : BrokerOrderResult} {brokerOrderId : String}
    (identified : brokerResult.brokerOrderId.filter (· ≠ "") = some brokerOrderId) :
    (executePlaced intent record brokerResult).run =
      .request (.reconcileOrder brokerOrderId) fun
        | .error raised => .done (.error raised)
        | .ok reconciliation =>
          .request (.upsert intent.idempotencyKey
            (reconciledRecord record brokerResult reconciliation)) fun
            | .error lost => .done (.error lost)
            | .ok () => .done (.ok (reconciledRecord record brokerResult reconciliation)) := by
  unfold executePlaced reconcile
  rw [identified]
  refine Program.request_congr fun reply => ?_
  match reply with
  | .error raised => rfl
  | .ok reconciliation =>
    refine Program.request_congr fun reply => ?_
    match reply with
    | .error lost => rfl
    | .ok () => rfl

namespace ExecutionAgent

/-- `execute` as the tree of its operations, up to the reservation. -/
theorem execute_eq (agent : ExecutionAgent) (call : ExecuteCall) :
    (agent.execute call).run =
      match agent.validate call with
      | .error raised => .done (.error raised)
      | .ok () => .request (.getRecord call.intent.idempotencyKey) fun
        | .error raised => .done (.error raised)
        | .ok (some existing) => .done (.ok existing)
        | .ok none => .request .newId fun id =>
          .request (.reserve call.intent.idempotencyKey { id := id, intent := call.intent }) fun
            | .error raised => .done (.error raised)
            | .ok () =>
              (agent.executeReserved call.intent { id := id, intent := call.intent }).run := by
  unfold execute
  cases agent.validate call with
  | error raised => rfl
  | ok accepted =>
    refine Program.request_congr fun reply => ?_
    match reply with
    | .error raised => rfl
    | .ok (some existing) => rfl
    | .ok none =>
      refine Program.request_congr fun id => Program.request_congr fun reply => ?_
      match reply with
      | .error raised => rfl
      | .ok () => rfl

/-- The part after the reservation as the tree of its operations. -/
theorem executeReserved_eq (agent : ExecutionAgent) {intent : OrderIntent}
    {riskDecisionId : String} (named : intent.riskDecisionId = some riskDecisionId)
    (given : riskDecisionId ≠ "") (record : OrderRecord) :
    (agent.executeReserved intent record).run =
      .request .utcNow fun issuedAt => .request .executionToken fun executionId =>
        .request (.placeOrder intent
          (contextFor agent.issuerToken intent riskDecisionId issuedAt executionId)) fun
          | .error raised =>
            .request (.upsert intent.idempotencyKey (unplacedRecord record raised)) fun
              | .error lost => .done (.error lost)
              | .ok () => .done (.error raised)
          | .ok brokerResult => (executePlaced intent record brokerResult).run := by
  have found : intent.riskDecisionId.filter (· ≠ "") = some riskDecisionId := by
    simp [named, Option.filter, given]
  unfold executeReserved issueBrokerExecutionContext
  rw [found]
  refine Program.request_congr fun issuedAt => Program.request_congr fun executionId =>
    Program.request_congr fun reply => ?_
  match reply with
  | .ok brokerResult => rfl
  | .error raised =>
    refine Program.request_congr fun reply => ?_
    match reply with
    | .error lost => rfl
    | .ok () => rfl

end ExecutionAgent
end AlphaAgent.Execution
