import AlphaAgent.Execution.OrderManager

/-!
# The surroundings of a call

What answers the operations of `execute`: a broker, a source of ids, tokens and
clock readings, and the durable store. A broker is any pair of functions, so it
can answer anything and raise anywhere. A store transaction is atomic: it
commits or leaves the database alone, and a fault can be raised in either case.
-/

namespace AlphaAgent.Execution

open Foundation

structure Broker where
  placeOrder : OrderIntent → BrokerExecutionContext → Except RaisedError BrokerOrderResult
  reconcileOrder : String → Except RaisedError BrokerOrderResult

/-- A failure of a store transaction, before or after it committed. -/
structure StoreFault where
  raised : RaisedError
  committed : Bool
deriving DecidableEq

structure Environment where
  newId : String
  executionToken : String
  utcNow : ℤ
  broker : Broker
  getFault : Option RaisedError := none
  reserveFault : Option StoreFault := none
  upsertFault : Option StoreFault := none

/-- The same surroundings with a store whose transactions succeed. -/
def Environment.withReliableStore (environment : Environment) : Environment :=
  { environment with getFault := none, reserveFault := none, upsertFault := none }

/-- Run one transaction: its constraints and its fault decide what is committed. -/
def commit (fault : Option StoreFault) (transaction : Except RaisedError Database)
    (database : Database) : Except RaisedError Unit × Database :=
  match fault, transaction with
  | none, .ok next => (.ok (), next)
  | none, .error raised => (.error raised, database)
  | some fault, .ok next => (.error fault.raised, if fault.committed then next else database)
  | some fault, .error _ => (.error fault.raised, database)

/-- How an environment answers each operation over the database. -/
def performer (environment : Environment) : Performer Reply Database
  | .getRecord idempotencyKey, database =>
    (match environment.getFault with
      | none => .ok (OrderIdempotencyStore.get database idempotencyKey)
      | some raised => .error raised, database)
  | .newId, database => (environment.newId, database)
  | .reserve idempotencyKey record, database =>
    commit environment.reserveFault
      (OrderIdempotencyStore.reserve database idempotencyKey record) database
  | .utcNow, database => (environment.utcNow, database)
  | .executionToken, database => (environment.executionToken, database)
  | .placeOrder intent context, database => (environment.broker.placeOrder intent context, database)
  | .reconcileOrder brokerOrderId, database =>
    (environment.broker.reconcileOrder brokerOrderId, database)
  | .upsert idempotencyKey record, database =>
    commit environment.upsertFault
      (OrderIdempotencyStore.upsert database idempotencyKey record) database

/-- A transaction which reports success has committed without a fault. -/
theorem commit_ok {fault : Option StoreFault} {transaction : Except RaisedError Database}
    {database : Database} (reported : (commit fault transaction database).1 = .ok ()) :
    fault = none ∧ transaction = .ok (commit fault transaction database).2 := by
  cases fault with
  | some fault => cases transaction <;> simp [commit] at reported
  | none =>
    cases transaction with
    | error raised => simp [commit] at reported
    | ok next => exact ⟨rfl, rfl⟩

/-- Whatever a transaction reports, it has committed or left the database alone. -/
theorem commit_atomic (fault : Option StoreFault) (transaction : Except RaisedError Database)
    (database : Database) :
    (commit fault transaction database).2 = database ∨
      transaction = .ok (commit fault transaction database).2 := by
  cases fault with
  | none => cases transaction <;> simp [commit]
  | some fault =>
    cases transaction with
    | error raised => exact .inl rfl
    | ok next => cases committed : fault.committed <;> simp [commit, committed]

/-- No operation unbinds an idempotency key. -/
theorem performer_keeps_key (environment : Environment) (operation : Operation)
    (database : Database) (idempotencyKey : String)
    (unbound : (performer environment operation database).2.idempotencyKeys.get?
      idempotencyKey = none) :
    database.idempotencyKeys.get? idempotencyKey = none := by
  have bound_of_set : ∀ {key record}, (database.idempotencyKeys.set key
      (keyFromRecord record)).get? idempotencyKey = none →
        database.idempotencyKeys.get? idempotencyKey = none := by
    intro key record missing
    rw [Dict.get?_set] at missing
    split at missing
    · cases missing
    · exact missing
  cases operation with
  | reserve key record =>
    rcases commit_atomic environment.reserveFault
      (OrderIdempotencyStore.reserve database key record) database with same | committed
    · rwa [performer, same] at unbound
    · obtain ⟨-, -, -, -, written⟩ := OrderIdempotencyStore.reserve_ok committed
      exact bound_of_set (written ▸ unbound)
  | upsert key record =>
    rcases commit_atomic environment.upsertFault
      (OrderIdempotencyStore.upsert database key record) database with same | committed
    · rwa [performer, same] at unbound
    · exact bound_of_set (OrderIdempotencyStore.upsert_ok committed ▸ unbound)
  | _ => exact unbound

/-- A reservation which reports success binds a key which was unbound. -/
theorem performer_reserve {environment : Environment} {database : Database}
    {idempotencyKey : String} {record : OrderRecord}
    (reported : (performer environment (.reserve idempotencyKey record) database).1 = .ok ()) :
    database.idempotencyKeys.get? idempotencyKey = none ∧
      (performer environment (.reserve idempotencyKey record) database).2.idempotencyKeys.get?
        idempotencyKey ≠ none := by
  obtain ⟨-, committed⟩ := commit_ok reported
  obtain ⟨unused, -, -, -, written⟩ := OrderIdempotencyStore.reserve_ok committed
  refine ⟨unused.key, ?_⟩
  change (commit _ _ _).2.idempotencyKeys.get? idempotencyKey ≠ none
  rw [written, Dict.get?_set_self]
  exact Option.some_ne_none _

end AlphaAgent.Execution
