import AlphaAgent.Execution.Environment
import AlphaAgent.Risk.RiskEngine

/-!
# What one call leaves behind

One uninterrupted call of `execute`: which orders it hands to the broker and
what it leaves in the store. A call which is not admitted places nothing; an
admitted one reserves its key, places its intent exactly once, and afterwards
writes only its own record: `Wrote` says what its last upsert leaves.
-/

namespace AlphaAgent.Execution

open Foundation

/-- The intent and the answer of an event, if it is a call of `place_order`. -/
def placement : Event Reply → Option (OrderIntent × Except RaisedError BrokerOrderResult)
  | ⟨.placeOrder intent _, answer⟩ => some (intent, answer)
  | _ => none

/-- The calls of `place_order` with their answers, in order. -/
def placements (events : List (Event Reply)) :
    List (OrderIntent × Except RaisedError BrokerOrderResult) :=
  events.filterMap placement

/-- The id and the answer of an event, if it is a call of `reconcile_order`. -/
def reconciliation : Event Reply → Option (String × Except RaisedError BrokerOrderResult)
  | ⟨.reconcileOrder brokerOrderId, answer⟩ => some (brokerOrderId, answer)
  | _ => none

/-- The calls of `reconcile_order` with their answers, in order. -/
def reconciliations (events : List (Event Reply)) :
    List (String × Except RaisedError BrokerOrderResult) :=
  events.filterMap reconciliation

/-- What an upsert at the end of a call can leave behind. -/
def Upserted (intent : OrderIntent) (record : OrderRecord) (database next : Database) : Prop :=
  next = database ∨ ∃ written : OrderRecord, written.id = record.id ∧
    OrderIdempotencyStore.upsert database intent.idempotencyKey written = .ok next

theorem upserted_commit {intent : OrderIntent} {record written : OrderRecord}
    (same : written.id = record.id) (fault : Option StoreFault) (database : Database) :
    Upserted intent record database
      (commit fault (OrderIdempotencyStore.upsert database intent.idempotencyKey written)
        database).2 := by
  rcases commit_atomic fault (OrderIdempotencyStore.upsert database intent.idempotencyKey written)
    database with untouched | committed
  · exact .inl untouched
  · exact .inr ⟨written, same, committed⟩

/-- After the broker has answered, a call places nothing and only updates its own record. -/
theorem executePlaced_run (environment : Environment) (intent : OrderIntent)
    (record : OrderRecord) (brokerResult : BrokerOrderResult) (database : Database) :
    placements ((executePlaced intent record brokerResult).run.run (performer environment)
        database).events = [] ∧
      Upserted intent record database ((executePlaced intent record brokerResult).run.run
        (performer environment) database).shared := by
  have stored : ∀ reconciliation, Upserted intent record database
      (commit environment.upsertFault (OrderIdempotencyStore.upsert database intent.idempotencyKey
        (reconciledRecord record brokerResult reconciliation)) database).2 :=
    fun reconciliation => upserted_commit rfl environment.upsertFault database
  cases found : brokerResult.brokerOrderId.filter (· ≠ "") with
  | none =>
    rw [executePlaced_unidentified intent record found, Program.run_request]
    simp only [performer]
    cases reported : (commit environment.upsertFault (OrderIdempotencyStore.upsert database
      intent.idempotencyKey (reconciledRecord record brokerResult
        { status := .unknownRequiresReconciliation })) database).1 <;> exact ⟨rfl, stored _⟩
  | some brokerOrderId =>
    rw [executePlaced_identified intent record found, Program.run_request]
    simp only [performer]
    cases environment.broker.reconcileOrder brokerOrderId with
    | error raised => exact ⟨rfl, .inl rfl⟩
    | ok reconciliation =>
      simp only [Program.run_request]
      simp only [performer]
      cases reported : (commit environment.upsertFault (OrderIdempotencyStore.upsert database
        intent.idempotencyKey (reconciledRecord record brokerResult reconciliation)) database).1 <;>
          exact ⟨rfl, stored _⟩

namespace ExecutionAgent

/-- After a reservation a call places its intent once and only updates its own record. -/
theorem executeReserved_run (agent : ExecutionAgent) (environment : Environment)
    {intent : OrderIntent} {riskDecisionId : String}
    (named : intent.riskDecisionId = some riskDecisionId) (given : riskDecisionId ≠ "")
    (record : OrderRecord) (database : Database) :
    placements ((agent.executeReserved intent record).run.run (performer environment)
        database).events = [(intent, environment.broker.placeOrder intent
          (contextFor agent.issuerToken intent riskDecisionId environment.utcNow
            environment.executionToken))] ∧
      Upserted intent record database ((agent.executeReserved intent record).run.run
        (performer environment) database).shared := by
  rw [agent.executeReserved_eq named given]
  simp only [Program.run_request, performer]
  cases environment.broker.placeOrder intent (contextFor agent.issuerToken intent riskDecisionId
      environment.utcNow environment.executionToken) with
  | ok brokerResult =>
    obtain ⟨silent, stored⟩ := executePlaced_run environment intent record brokerResult database
    exact ⟨congrArg (_ :: ·) silent, stored⟩
  | error raised =>
    simp only [Program.run_request, performer]
    have stored : Upserted intent record database (commit environment.upsertFault
        (OrderIdempotencyStore.upsert database intent.idempotencyKey
          (unplacedRecord record raised)) database).2 :=
      upserted_commit rfl environment.upsertFault database
    cases reported : (commit environment.upsertFault (OrderIdempotencyStore.upsert database
      intent.idempotencyKey (unplacedRecord record raised)) database).1 <;>
        exact ⟨rfl, stored⟩

/-- An order which the broker answers is handed on to its reconciliation. -/
theorem executeReserved_placed (agent : ExecutionAgent) (environment : Environment)
    {intent : OrderIntent} {riskDecisionId : String}
    (named : intent.riskDecisionId = some riskDecisionId) (given : riskDecisionId ≠ "")
    (record : OrderRecord) (database : Database) {brokerResult : BrokerOrderResult}
    (placed : environment.broker.placeOrder intent (contextFor agent.issuerToken intent
      riskDecisionId environment.utcNow environment.executionToken) = .ok brokerResult) :
    ((agent.executeReserved intent record).run.run (performer environment) database).shared =
      ((executePlaced intent record brokerResult).run.run (performer environment)
        database).shared := by
  rw [agent.executeReserved_eq named given]
  simp only [Program.run_request, performer, placed]

/-- One uninterrupted call. -/
def outcome (agent : ExecutionAgent) (call : ExecuteCall) (environment : Environment)
    (database : Database) : Program.Outcome Reply (Except RaisedError OrderRecord) Database :=
  (agent.execute call).run.run (performer environment) database

/-- The record under which a call reserves its key. -/
def newRecord (call : ExecuteCall) (environment : Environment) : OrderRecord :=
  { id := environment.newId, intent := call.intent }

/-- The permit a call receives for its broker. -/
def permit (agent : ExecutionAgent) (call : ExecuteCall) (environment : Environment) :
    BrokerExecutionContext :=
  contextFor agent.issuerToken call.intent call.riskDecision.id environment.utcNow
    environment.executionToken

/-- The call passes its checks and its key is new to the store. -/
structure Admitted (agent : ExecutionAgent) (call : ExecuteCall) (environment : Environment)
    (database : Database) : Prop where
  validated : agent.validate call = .ok ()
  readable : environment.getFault = none
  unknown : OrderIdempotencyStore.get database call.intent.idempotencyKey = none
  unused : OrderIdempotencyStore.Unused database call.intent.idempotencyKey
    (newRecord call environment)

variable {agent : ExecutionAgent} {call : ExecuteCall} {environment : Environment}
  {database : Database}

/-- A call which is not admitted places no order and leaves the store alone. -/
theorem outcome_of_not_admitted (refused : ¬Admitted agent call environment database) :
    placements (agent.outcome call environment database).events = [] ∧
      (agent.outcome call environment database).shared = database := by
  unfold outcome
  rw [agent.execute_eq call]
  cases validated : agent.validate call with
  | error raised => exact ⟨rfl, rfl⟩
  | ok accepted =>
    simp only [Program.run_request]
    cases readable : environment.getFault with
    | some raised =>
      simp only [performer, readable]
      exact ⟨rfl, rfl⟩
    | none =>
      cases unknown : OrderIdempotencyStore.get database call.intent.idempotencyKey with
      | some existing =>
        simp only [performer, readable, unknown]
        exact ⟨rfl, rfl⟩
      | none =>
        cases written : OrderIdempotencyStore.reserve database call.intent.idempotencyKey
            { id := environment.newId, intent := call.intent } with
        | error raised =>
          simp only [performer, readable, unknown, Program.run_request, written]
          cases environment.reserveFault <;> exact ⟨rfl, rfl⟩
        | ok next =>
          obtain ⟨unused, -⟩ := OrderIdempotencyStore.reserve_ok written
          exact absurd ⟨validated, readable, unknown, unused⟩ refused

/-- An admitted call whose reservation is lost places no order. -/
theorem outcome_of_reserve_fault (admitted : Admitted agent call environment database)
    {fault : StoreFault} (faulty : environment.reserveFault = some fault) :
    placements (agent.outcome call environment database).events = [] ∧
      ∃ reserved, OrderIdempotencyStore.reserve database call.intent.idempotencyKey
          (newRecord call environment) = .ok reserved ∧
        (agent.outcome call environment database).shared =
          if fault.committed then reserved else database := by
  obtain ⟨validated, readable, unknown, unused⟩ := admitted
  obtain ⟨reserved, written⟩ := OrderIdempotencyStore.reserve_of_unused
    (validate_named validated).1 unused
  unfold outcome
  unfold newRecord at written ⊢
  rw [agent.execute_eq call, validated]
  simp only [Program.run_request, performer, readable, unknown, faulty, commit, written]
  exact ⟨rfl, reserved, rfl, rfl⟩

/-- An admitted call reserves its key and places its intent once. -/
theorem outcome_of_admitted (admitted : Admitted agent call environment database)
    (noFault : environment.reserveFault = none) :
    ∃ reserved, OrderIdempotencyStore.reserve database call.intent.idempotencyKey
        (newRecord call environment) = .ok reserved ∧
      placements (agent.outcome call environment database).events =
        [(call.intent, environment.broker.placeOrder call.intent (agent.permit call environment))] ∧
      (agent.outcome call environment database).shared =
        ((agent.executeReserved call.intent (newRecord call environment)).run.run
          (performer environment) reserved).shared := by
  obtain ⟨validated, readable, unknown, unused⟩ := admitted
  obtain ⟨reserved, written⟩ := OrderIdempotencyStore.reserve_of_unused
    (validate_named validated).1 unused
  refine ⟨reserved, written, ?_⟩
  obtain ⟨named, given⟩ := validate_named validated
  obtain ⟨placed, -⟩ := agent.executeReserved_run environment named given
    (newRecord call environment) reserved
  unfold outcome
  unfold newRecord at written placed ⊢
  rw [agent.execute_eq call, validated]
  simp only [Program.run_request, performer, readable, unknown, noFault, commit, written]
  exact ⟨placed, trivial⟩

end ExecutionAgent

/-- The upsert of an environment takes effect. -/
def Environment.upserts (environment : Environment) : Bool :=
  environment.upsertFault.all StoreFault.committed

/-- What the last upsert of a call leaves: the record is stored and returned; it
is stored and its report is lost; or it is lost. -/
inductive Wrote (environment : Environment) (key : String) (written : OrderRecord)
    (database : Database)
    (outcome : Program.Outcome Reply (Except RaisedError OrderRecord) Database) : Prop where
  | reported (effective : environment.upserts = true) (result : outcome.result = .ok written)
      (stored : OrderIdempotencyStore.get outcome.shared key = some written)
  | unreported (raised : RaisedError) (effective : environment.upserts = true)
      (result : outcome.result = .error raised)
      (stored : OrderIdempotencyStore.get outcome.shared key = some written)
  | lost (raised : RaisedError) (faulty : environment.upserts = false)
      (result : outcome.result = .error raised) (unchanged : outcome.shared = database)

/-- What an upsert of a stored order leaves, by what its commit does. -/
theorem wrote_of_commit {environment : Environment} {key : String} {written : OrderRecord}
    {database next : Database}
    {outcome : Program.Outcome Reply (Except RaisedError OrderRecord) Database}
    (upserted : OrderIdempotencyStore.upsert database key written = .ok next)
    (result : outcome.result =
      (commit environment.upsertFault (.ok next) database).1.map fun _ => written)
    (shared : outcome.shared = (commit environment.upsertFault (.ok next) database).2) :
    Wrote environment key written database outcome := by
  have stored := OrderIdempotencyStore.get_of_upsert upserted
  cases faulty : environment.upsertFault with
  | none =>
    rw [faulty] at result shared
    refine .reported ?_ result (by rw [shared]; exact stored)
    rw [Environment.upserts, faulty]
    rfl
  | some fault =>
    rw [faulty] at result shared
    cases committed : fault.committed with
    | true =>
      rw [commit, committed] at shared
      refine .unreported fault.raised ?_ result (by rw [shared]; exact stored)
      rw [Environment.upserts, faulty]
      exact committed
    | false =>
      rw [commit, committed] at shared
      refine .lost fault.raised ?_ result shared
      rw [Environment.upserts, faulty]
      exact committed

/-- The written record can be read back where the upsert takes effect. -/
theorem Wrote.stored {environment : Environment} {key : String} {written : OrderRecord}
    {database : Database}
    {outcome : Program.Outcome Reply (Except RaisedError OrderRecord) Database}
    (wrote : Wrote environment key written database outcome)
    (upserts : environment.upserts = true) :
    OrderIdempotencyStore.get outcome.shared key = some written := by
  cases wrote with
  | reported _ _ stored => exact stored
  | unreported _ _ _ stored => exact stored
  | lost raised faulty result unchanged =>
    rw [upserts] at faulty
    cases faulty

section Placed

variable (environment : Environment) (intent : OrderIntent) {record : OrderRecord}
  {brokerResult : BrokerOrderResult} {database : Database} {row : OrderRow}
  (bound : database.orders.get? record.id = some row)

include bound

/-- Without a broker order id nobody is asked, and the record is written as unknown. -/
theorem executePlaced_wrote_unidentified
    (unidentified : brokerResult.brokerOrderId.filter (· ≠ "") = none) :
    Wrote environment intent.idempotencyKey
        (reconciledRecord record brokerResult { status := .unknownRequiresReconciliation }) database
        ((executePlaced intent record brokerResult).run.run (performer environment) database) ∧
      reconciliations ((executePlaced intent record brokerResult).run.run (performer environment)
        database).events = [] := by
  obtain ⟨next, upserted, -⟩ := OrderIdempotencyStore.upsert_of_bound intent.idempotencyKey
    (reconciledRecord record brokerResult { status := .unknownRequiresReconciliation }) bound
  rw [executePlaced_unidentified intent record unidentified]
  constructor
  · apply wrote_of_commit upserted
    all_goals
      simp only [Program.run_request, performer, upserted]
      cases (commit environment.upsertFault (.ok next) database).1 <;> rfl
  · simp only [Program.run_request, performer, upserted]
    cases (commit environment.upsertFault (.ok next) database).1 <;> rfl

/-- With an id the broker is asked about it, and what it answers is written. -/
theorem executePlaced_wrote_reconciled {brokerOrderId : String} {answer : BrokerOrderResult}
    (identified : brokerResult.brokerOrderId.filter (· ≠ "") = some brokerOrderId)
    (answered : environment.broker.reconcileOrder brokerOrderId = .ok answer) :
    Wrote environment intent.idempotencyKey (reconciledRecord record brokerResult answer) database
        ((executePlaced intent record brokerResult).run.run (performer environment) database) ∧
      (brokerOrderId, .ok answer) ∈ reconciliations
        ((executePlaced intent record brokerResult).run.run (performer environment)
          database).events := by
  obtain ⟨next, upserted, -⟩ := OrderIdempotencyStore.upsert_of_bound intent.idempotencyKey
    (reconciledRecord record brokerResult answer) bound
  rw [executePlaced_identified intent record identified]
  constructor
  · apply wrote_of_commit upserted
    all_goals
      simp only [Program.run_request, performer, answered, upserted]
      cases (commit environment.upsertFault (.ok next) database).1 <;> rfl
  · simp only [Program.run_request, performer, answered]
    exact List.mem_cons_self

omit bound in
/-- A reconciliation which raises writes nothing. -/
theorem executePlaced_unreconciled (record : OrderRecord) (database : Database)
    {brokerOrderId : String} {raised : RaisedError}
    (identified : brokerResult.brokerOrderId.filter (· ≠ "") = some brokerOrderId)
    (failed : environment.broker.reconcileOrder brokerOrderId = .error raised) :
    ((executePlaced intent record brokerResult).run.run (performer environment) database).result =
        .error raised ∧
      ((executePlaced intent record brokerResult).run.run (performer environment)
        database).shared = database := by
  rw [executePlaced_identified intent record identified]
  simp only [Program.run_request, performer, failed]
  exact ⟨rfl, rfl⟩

end Placed

/-- An agent under the settings of `relianceDecision`. -/
def liveAgent : ExecutionAgent where
  settings := Risk.liveSettings
  issuerToken := "issuer-token"

/-- An order under `relianceDecision`, with every status in order. -/
def relianceCall (quantity : AtLeastOne) (idempotencyKey : String) : ExecuteCall where
  intent :=
    { market := .india
      broker := .zerodha
      symbol := "RELIANCE"
      side := .buy
      quantity
      orderType := .limit
      limitPrice := some Risk.relianceBuy.candidate.entryPrice
      stopLoss := Risk.relianceBuy.candidate.stopLoss
      strategyId := some "strategy-1"
      signalId := some "signal-1"
      riskDecisionId := some "risk-1"
      idempotencyKey }
  riskDecision := Risk.relianceDecision
  brokerHealth :=
    { market := .india
      authStatus := .valid
      accountStatus := .active
      tradingEnabled := true
      positionsReconciled := true }
  complianceStatus := Risk.relianceBuy.complianceStatus
  systemState := Risk.relianceBuy.systemState

end AlphaAgent.Execution
