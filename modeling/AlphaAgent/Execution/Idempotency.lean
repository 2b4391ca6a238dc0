import AlphaAgent.Foundation.Dict
import AlphaAgent.Schemas.Order

/-!
# The durable idempotency store

The two tables behind `OrderIdempotencyStore` and its three transactions. Both
tables are dictionaries, so their primary and unique keys cannot be broken; the
unique key of `orders` which is not its primary key is a field of `Database`.
A violated constraint rolls the transaction back, so a failed transaction has
no next database at all.
-/

namespace AlphaAgent.Execution

open Foundation

/-- A row of `orders`, which is keyed by its `id`. -/
structure OrderRow where
  brokerOrderId : Option String
  idempotencyKey : String
  market : Market
  broker : BrokerName
  symbol : String
  side : OrderSide
  quantity : AtLeastOne
  orderType : OrderType
  limitPrice : Option Positive
  stopLoss : Option Positive
  strategyId : Option String
  signalId : Option String
  riskDecisionId : String
  status : OrderStatus
  reconciliationState : ReconciliationState
  brokerResponse : JsonObject
  finalReconciliation : JsonObject
deriving DecidableEq

/-- A row of `order_idempotency_keys`, which is keyed by its idempotency key.
The empty payload is `none`. -/
structure OrderIdempotencyRecord where
  orderRecordId : Option String
  brokerOrderId : Option String
  status : OrderStatus
  reconciliationState : ReconciliationState
  blocksDuplicates : Bool
  payload : Option OrderRecord
deriving DecidableEq

structure Database where
  orders : Dict String OrderRow
  idempotencyKeys : Dict String OrderIdempotencyRecord
  /-- `uq_orders_idempotency_key`. -/
  orderKeysDistinct : (orders.values.map OrderRow.idempotencyKey).Nodup

namespace Database

/-- The tables without rows. -/
def empty : Database := ⟨.empty, .empty, List.nodup_nil⟩

/-- The idempotency keys of the rows of `orders`. -/
def orderKeys (database : Database) : List String :=
  database.orders.values.map OrderRow.idempotencyKey

end Database

/-- What an `IntegrityError` is raised as. -/
def keyAlreadyExists : RaisedError := .orderIdempotency "order_idempotency_key_already_exists"

def applyOrderRecord (row : OrderRow) (record : OrderRecord) : OrderRow :=
  { row with
    brokerOrderId := record.brokerOrderId
    status := record.status
    reconciliationState := record.reconciliationState
    brokerResponse := record.brokerResponse
    finalReconciliation := record.finalReconciliation }

/-- The row of a record; `risk_decision_id` is not nullable. -/
def orderFromRecord (record : OrderRecord) : Option OrderRow :=
  record.intent.riskDecisionId.map fun riskDecisionId =>
    { brokerOrderId := record.brokerOrderId
      idempotencyKey := record.intent.idempotencyKey
      market := record.intent.market
      broker := record.intent.broker
      symbol := record.intent.symbol
      side := record.intent.side
      quantity := record.intent.quantity
      orderType := record.intent.orderType
      limitPrice := record.intent.limitPrice
      stopLoss := record.intent.stopLoss
      strategyId := record.intent.strategyId
      signalId := record.intent.signalId
      riskDecisionId
      status := record.status
      reconciliationState := record.reconciliationState
      brokerResponse := record.brokerResponse
      finalReconciliation := record.finalReconciliation }

/-- The key row which both `reserve` and `upsert` write for a record. -/
def keyFromRecord (record : OrderRecord) : OrderIdempotencyRecord where
  orderRecordId := some record.id
  brokerOrderId := record.brokerOrderId
  status := record.status
  reconciliationState := record.reconciliationState
  blocksDuplicates := true
  payload := some record

namespace Database

/-- Insert the order of a record under all constraints of `orders`. -/
def insertOrder (database : Database) (record : OrderRecord) : Except RaisedError Database :=
  match orderFromRecord record with
  | none => .error keyAlreadyExists
  | some row =>
    if unused : database.orders.get? record.id = none ∧
        row.idempotencyKey ∉ database.orderKeys then
      .ok { database with
        orders := database.orders.set record.id row
        orderKeysDistinct := by
          rw [Dict.map_values_set_of_unbound row _ unused.1, ← List.concat_eq_append]
          exact database.orderKeysDistinct.concat unused.2 }
    else .error keyAlreadyExists

/-- Write the columns of a record into its order row. -/
def updateOrder (database : Database) (record : OrderRecord) (row : OrderRow)
    (bound : database.orders.get? record.id = some row) : Database :=
  { database with
    orders := database.orders.set record.id (applyOrderRecord row record)
    orderKeysDistinct := by
      rw [Dict.map_values_set_of_bound (applyOrderRecord row record) _ bound rfl]
      exact database.orderKeysDistinct }

/-- Write a record's key row, whatever the key is bound to. -/
def putKey (database : Database) (idempotencyKey : String) (record : OrderRecord) : Database :=
  { database with
    idempotencyKeys := database.idempotencyKeys.set idempotencyKey (keyFromRecord record) }

end Database

namespace OrderIdempotencyStore

/-- The record stored under a key; an empty payload reads as no record. -/
def get (database : Database) (idempotencyKey : String) : Option OrderRecord :=
  (database.idempotencyKeys.get? idempotencyKey).bind OrderIdempotencyRecord.payload

/-- Insert the order and its key in one transaction. -/
def reserve (database : Database) (idempotencyKey : String) (record : OrderRecord) :
    Except RaisedError Database := do
  let inserted ← database.insertOrder record
  if inserted.idempotencyKeys.get? idempotencyKey = none then
    return inserted.putKey idempotencyKey record
  else throw keyAlreadyExists

/-- Update or insert the order and its key in one transaction. -/
def upsert (database : Database) (idempotencyKey : String) (record : OrderRecord) :
    Except RaisedError Database := do
  let written ←
    match bound : database.orders.get? record.id with
    | none => database.insertOrder record
    | some row => pure (database.updateOrder record row bound)
  return written.putKey idempotencyKey record

/-- Neither table binds the record or its key. -/
structure Unused (database : Database) (idempotencyKey : String) (record : OrderRecord) :
    Prop where
  order : database.orders.get? record.id = none
  orderKey : record.intent.idempotencyKey ∉ database.orderKeys
  key : database.idempotencyKeys.get? idempotencyKey = none

variable {database next : Database} {idempotencyKey : String} {record : OrderRecord}

theorem orderFromRecord_key {row : OrderRow} (made : orderFromRecord record = some row) :
    row.idempotencyKey = record.intent.idempotencyKey := by
  obtain ⟨riskDecisionId, _, rfl⟩ := Option.map_eq_some_iff.mp made
  rfl

/-- An insertion adds one row under an id and a key which were unused. -/
theorem insertOrder_ok (inserted : database.insertOrder record = .ok next) :
    ∃ row, orderFromRecord record = some row ∧ database.orders.get? record.id = none ∧
      record.intent.idempotencyKey ∉ database.orderKeys ∧
      next.orders = database.orders.set record.id row ∧
      next.idempotencyKeys = database.idempotencyKeys := by
  unfold Database.insertOrder at inserted
  split at inserted
  · cases inserted
  · next row made =>
    split at inserted
    · next unused =>
      cases inserted
      exact ⟨row, made, unused.1, orderFromRecord_key made ▸ unused.2, rfl, rfl⟩
    · cases inserted

theorem insertOrder_of_unused {riskDecisionId : String}
    (named : record.intent.riskDecisionId = some riskDecisionId)
    (order : database.orders.get? record.id = none)
    (orderKey : record.intent.idempotencyKey ∉ database.orderKeys) :
    ∃ next, database.insertOrder record = .ok next := by
  unfold Database.insertOrder
  split
  · next missing => simp [orderFromRecord, named] at missing
  · next row made =>
    rw [dif_pos ⟨order, (orderFromRecord_key made).symm ▸ orderKey⟩]
    exact ⟨_, rfl⟩

/-- A reservation adds one order and one key, both unused before it. -/
theorem reserve_ok (reserved : reserve database idempotencyKey record = .ok next) :
    Unused database idempotencyKey record ∧
      ∃ row, orderFromRecord record = some row ∧
        next.orders = database.orders.set record.id row ∧
        next.idempotencyKeys =
          database.idempotencyKeys.set idempotencyKey (keyFromRecord record) := by
  unfold reserve at reserved
  cases inserted : database.insertOrder record with
  | error raised => simp [inserted, bind, Except.bind] at reserved
  | ok written =>
    obtain ⟨row, made, order, orderKey, orders, keys⟩ := insertOrder_ok inserted
    simp only [inserted, bind, Except.bind, keys] at reserved
    split at reserved
    · next unbound =>
      cases reserved
      refine ⟨⟨order, orderKey, unbound⟩, row, made, orders, ?_⟩
      simp only [Database.putKey, keys]
    · cases reserved

/-- A record which names a risk decision is reserved exactly when it is unused. -/
theorem reserve_of_unused {riskDecisionId : String}
    (named : record.intent.riskDecisionId = some riskDecisionId)
    (unused : Unused database idempotencyKey record) :
    ∃ next, reserve database idempotencyKey record = .ok next := by
  obtain ⟨written, inserted⟩ := insertOrder_of_unused named unused.order unused.orderKey
  obtain ⟨row, _, _, _, _, keys⟩ := insertOrder_ok inserted
  refine ⟨written.putKey idempotencyKey record, ?_⟩
  simp only [reserve, inserted, bind, Except.bind, keys, unused.key, if_true, pure, Except.pure]

/-- Whatever an upsert does to `orders`, it binds the key to the record. -/
theorem upsert_ok (upserted : upsert database idempotencyKey record = .ok next) :
    next.idempotencyKeys =
      database.idempotencyKeys.set idempotencyKey (keyFromRecord record) := by
  unfold upsert at upserted
  split at upserted
  · cases inserted : database.insertOrder record with
    | error raised => simp [inserted, bind, Except.bind] at upserted
    | ok written =>
      obtain ⟨_, _, _, _, _, keys⟩ := insertOrder_ok inserted
      simp only [inserted, bind, Except.bind, pure, Except.pure, Except.ok.injEq] at upserted
      rw [← upserted, Database.putKey, keys]
  · cases upserted
    rfl

/-- Upserting a record whose order exists succeeds and changes no key of `orders`. -/
theorem upsert_of_bound (idempotencyKey : String) (record : OrderRecord) {row : OrderRow}
    (bound : database.orders.get? record.id = some row) :
    ∃ next, upsert database idempotencyKey record = .ok next ∧
      next.orders = database.orders.set record.id (applyOrderRecord row record) ∧
      next.orderKeys = database.orderKeys := by
  unfold upsert
  split
  · next unbound =>
    rw [bound] at unbound
    cases unbound
  · next found located =>
    rw [bound, Option.some.injEq] at located
    subst located
    exact ⟨_, rfl, rfl, Dict.map_values_set_of_bound (applyOrderRecord row record) _ bound rfl⟩

/-- After a reservation the key reads as the record, whose order exists. -/
theorem get_of_reserve (reserved : reserve database idempotencyKey record = .ok next) :
    get next idempotencyKey = some record ∧ ∃ row, next.orders.get? record.id = some row := by
  obtain ⟨-, row, -, orders, keys⟩ := reserve_ok reserved
  refine ⟨?_, row, ?_⟩
  · rw [get, keys, Dict.get?_set_self]
    rfl
  · rw [orders, Dict.get?_set_self]

/-- After an upsert the key reads as the record. -/
theorem get_of_upsert (upserted : upsert database idempotencyKey record = .ok next) :
    get next idempotencyKey = some record := by
  rw [get, upsert_ok upserted, Dict.get?_set_self]
  rfl

end OrderIdempotencyStore
end AlphaAgent.Execution
