import AlphaAgent.Execution.Environment
import AlphaAgent.Foundation.Watch

/-!
# Two tables, one store

The two tables of `OrderIdempotencyStore` are two images of one map, from each
key to the last record written under it, which is what the in-memory store of
the tests holds. Both are written only with a record whose id and intent were
reserved under its own key, so every transaction which commits moves both
images to those of the next map.
-/

namespace AlphaAgent.Execution

open Foundation

namespace InMemoryOrderIdempotencyStore

def get (records : Dict String OrderRecord) (idempotencyKey : String) : Option OrderRecord :=
  records.get? idempotencyKey

def reserve (records : Dict String OrderRecord) (idempotencyKey : String) (record : OrderRecord) :
    Except RaisedError (Dict String OrderRecord) :=
  if records.contains idempotencyKey then .error keyAlreadyExists
  else .ok (records.set idempotencyKey record)

def upsert (records : Dict String OrderRecord) (idempotencyKey : String) (record : OrderRecord) :
    Dict String OrderRecord :=
  records.set idempotencyKey record

end InMemoryOrderIdempotencyStore

/-- Both tables are the images of the records, each of which is under its own key. -/
structure Represents (database : Database) (records : Dict String OrderRecord) : Prop where
  keyed : ∀ key record, records.get? key = some record → record.intent.idempotencyKey = key
  keys : ∀ key, database.idempotencyKeys.get? key = (records.get? key).map keyFromRecord
  stored : ∀ key record, records.get? key = some record →
    ∃ row, orderFromRecord record = some row ∧ database.orders.get? record.id = some row
  traced : ∀ id row, database.orders.get? id = some row →
    ∃ key record, records.get? key = some record ∧ record.id = id ∧
      orderFromRecord record = some row

/-- The record has the id and the intent of the last one under its key. -/
def Continues (records : Dict String OrderRecord) (record : OrderRecord) : Prop :=
  ∃ last, records.get? record.intent.idempotencyKey = some last ∧ last.id = record.id ∧
    last.intent = record.intent

/-- The row of a record of the same intent is the old row with its columns applied. -/
theorem orderFromRecord_continued {last record : OrderRecord} {row : OrderRow}
    (same : last.intent = record.intent) (made : orderFromRecord last = some row) :
    orderFromRecord record = some (applyOrderRecord row record) := by
  obtain ⟨riskDecisionId, named, rfl⟩ := Option.map_eq_some_iff.mp made
  rw [orderFromRecord, ← same, named]
  rfl

namespace Represents

variable {database next : Database} {records : Dict String OrderRecord} {record : OrderRecord}

theorem empty : Represents .empty .empty where
  keyed _ _ absent := nomatch absent
  keys _ := rfl
  stored _ _ absent := nomatch absent
  traced _ _ absent := nomatch absent

/-- Two records with one id are under one key. -/
theorem key_of_id (represents : Represents database records) {key other : String}
    {first second : OrderRecord} (here : records.get? key = some first)
    (there : records.get? other = some second) (same : first.id = second.id) : key = other := by
  obtain ⟨row, made, bound⟩ := represents.stored key first here
  obtain ⟨otherRow, otherMade, otherBound⟩ := represents.stored other second there
  rw [same, otherBound, Option.some.injEq] at bound
  calc key = first.intent.idempotencyKey := (represents.keyed key first here).symm
    _ = row.idempotencyKey := (OrderIdempotencyStore.orderFromRecord_key made).symm
    _ = otherRow.idempotencyKey := by rw [bound]
    _ = second.intent.idempotencyKey := OrderIdempotencyStore.orderFromRecord_key otherMade
    _ = other := represents.keyed other second there

/-- Writing one record into both tables moves both images, when no other record has its id. -/
theorem set (represents : Represents database records) {row : OrderRow}
    (made : orderFromRecord record = some row)
    (alone : ∀ key other, records.get? key = some other → other.id = record.id →
      key = record.intent.idempotencyKey)
    (orders : next.orders = database.orders.set record.id row)
    (keys : next.idempotencyKeys =
      database.idempotencyKeys.set record.intent.idempotencyKey (keyFromRecord record))
    (replaces : ∀ last, records.get? record.intent.idempotencyKey = some last →
      last.id = record.id) :
    Represents next (records.set record.intent.idempotencyKey record) where
  keyed key other bound := by
    rw [Dict.get?_set] at bound
    split at bound
    · next same => rw [← Option.some.inj bound, same]
    · exact represents.keyed key other bound
  keys key := by
    rw [keys, Dict.get?_set, Dict.get?_set]
    split
    · rfl
    · exact represents.keys key
  stored key other bound := by
    rw [Dict.get?_set] at bound
    split at bound
    · cases bound
      exact ⟨row, made, by rw [orders, Dict.get?_set_self]⟩
    · next different =>
      obtain ⟨otherRow, otherMade, otherBound⟩ := represents.stored key other bound
      have apart : other.id ≠ record.id := fun same => different (alone key other bound same)
      exact ⟨otherRow, otherMade, by rw [orders, Dict.get?_set, if_neg apart, otherBound]⟩
  traced id found bound := by
    rw [orders, Dict.get?_set] at bound
    split at bound
    · next same =>
      cases bound
      exact ⟨record.intent.idempotencyKey, record, Dict.get?_set_self _ _ _, same.symm, made⟩
    · next different =>
      obtain ⟨key, other, present, named, otherMade⟩ := represents.traced id found bound
      refine ⟨key, other, ?_, named, otherMade⟩
      have apart : key ≠ record.intent.idempotencyKey := by
        rintro rfl
        exact different (named ▸ replaces other present)
      rw [Dict.get?_set, if_neg apart, present]

/-- A reservation which commits is one of the in-memory store. -/
theorem reserve (represents : Represents database records)
    (reserved : OrderIdempotencyStore.reserve database record.intent.idempotencyKey record =
      .ok next) :
    InMemoryOrderIdempotencyStore.reserve records record.intent.idempotencyKey record =
        .ok (records.set record.intent.idempotencyKey record) ∧
      Represents next (records.set record.intent.idempotencyKey record) := by
  obtain ⟨unused, row, made, orders, keys⟩ := OrderIdempotencyStore.reserve_ok reserved
  have free : records.get? record.intent.idempotencyKey = none := by
    have unbound := unused.key
    rw [represents.keys, Option.map_eq_none_iff] at unbound
    exact unbound
  constructor
  · rw [InMemoryOrderIdempotencyStore.reserve, Dict.contains, free]
    rfl
  · apply represents.set made _ orders keys
    · intro last present
      rw [free] at present
      cases present
    · intro key other present same
      obtain ⟨otherRow, -, bound⟩ := represents.stored key other present
      rw [same, unused.order] at bound
      cases bound

/-- An upsert of a record which continues the last one commits, as an upsert of
the in-memory store. -/
theorem upsert (represents : Represents database records) (continues : Continues records record) :
    ∃ next, OrderIdempotencyStore.upsert database record.intent.idempotencyKey record = .ok next ∧
      Represents next
        (InMemoryOrderIdempotencyStore.upsert records record.intent.idempotencyKey record) := by
  obtain ⟨last, present, sameId, sameIntent⟩ := continues
  obtain ⟨row, made, bound⟩ := represents.stored _ last present
  rw [sameId] at bound
  obtain ⟨next, upserted, orders, -⟩ := OrderIdempotencyStore.upsert_of_bound
    record.intent.idempotencyKey record bound
  refine ⟨next, upserted, ?_⟩
  apply represents.set (orderFromRecord_continued sameIntent made) _ orders
    (OrderIdempotencyStore.upsert_ok upserted)
  · intro other found
    rw [present, Option.some.injEq] at found
    rw [← found, sameId]
  · intro key other found same
    exact represents.key_of_id found present (same.trans sameId.symm)

/-- Both stores answer alike. -/
theorem get (represents : Represents database records) (key : String) :
    OrderIdempotencyStore.get database key = InMemoryOrderIdempotencyStore.get records key := by
  rw [OrderIdempotencyStore.get, represents.keys, InMemoryOrderIdempotencyStore.get]
  cases records.get? key <;> rfl

end Represents

/-- One order for each key row and one key row for each order, which agree, and
each key reads as the last record written under it. -/
structure TablesMirror (database : Database) (records : Dict String OrderRecord) : Prop where
  order : ∀ key keyRow, database.idempotencyKeys.get? key = some keyRow →
    ∃ id row, database.orders.get? id = some row ∧ row.idempotencyKey = key ∧
      keyRow.orderRecordId = some id ∧ row.status = keyRow.status ∧
      row.reconciliationState = keyRow.reconciliationState ∧
      row.brokerOrderId = keyRow.brokerOrderId ∧
      ∀ otherId other, database.orders.get? otherId = some other → other.idempotencyKey = key →
        otherId = id
  key : ∀ id row, database.orders.get? id = some row →
    ∃ keyRow, database.idempotencyKeys.get? row.idempotencyKey = some keyRow ∧
      keyRow.orderRecordId = some id
  payload : ∀ key keyRow, database.idempotencyKeys.get? key = some keyRow →
    ∃ record, records.get? key = some record ∧ keyRow.payload = some record
  bound : ∀ key record, records.get? key = some record →
    OrderIdempotencyStore.get database key = some record

theorem Represents.tablesMirror {database : Database} {records : Dict String OrderRecord}
    (represents : Represents database records) : TablesMirror database records where
  order key keyRow bound := by
    rw [represents.keys, Option.map_eq_some_iff] at bound
    obtain ⟨record, present, rfl⟩ := bound
    obtain ⟨row, made, stored⟩ := represents.stored key record present
    obtain ⟨riskDecisionId, _, rfl⟩ := Option.map_eq_some_iff.mp made
    have keyed := represents.keyed key record present
    refine ⟨record.id, _, stored, keyed, rfl, rfl, rfl, rfl, ?_⟩
    intro otherId other found same
    obtain ⟨otherKey, written, presentToo, named, otherMade⟩ :=
      represents.traced otherId other found
    have sameKey : otherKey = key := by
      rw [← represents.keyed otherKey written presentToo, ← same,
        OrderIdempotencyStore.orderFromRecord_key otherMade]
    rw [sameKey, present, Option.some.injEq] at presentToo
    rw [← named, presentToo]
  key id row bound := by
    obtain ⟨key, record, present, named, made⟩ := represents.traced id row bound
    refine ⟨keyFromRecord record, ?_, congrArg some named⟩
    rw [OrderIdempotencyStore.orderFromRecord_key made, represents.keyed key record present,
      represents.keys, present]
    rfl
  payload key keyRow bound := by
    rw [represents.keys, Option.map_eq_some_iff] at bound
    obtain ⟨record, present, rfl⟩ := bound
    exact ⟨record, present, rfl⟩
  bound key record present := by
    rw [represents.get, InMemoryOrderIdempotencyStore.get, present]

section Issued

/-- What a call asks of the store: one reservation of its record under its own
key, and after it updates which keep the id and the intent of this record. -/
def storeContract : Contract Reply (Option OrderRecord) where
  asks reserved
    | .reserve idempotencyKey record =>
      reserved = none ∧ idempotencyKey = record.intent.idempotencyKey
    | .upsert idempotencyKey record =>
      idempotencyKey = record.intent.idempotencyKey ∧
        ∃ first, reserved = some first ∧ first.id = record.id ∧ first.intent = record.intent
    | _ => True
  answers reserved
    | .reserve _ record, .ok (), after => after = some record
    | _, _, after => after = reserved

theorem executePlaced_meets {intent : OrderIntent} {record : OrderRecord}
    (own : record.intent = intent) (brokerResult : BrokerOrderResult) :
    (executePlaced intent record brokerResult).run.Meets storeContract (fun _ _ => True)
      (some record) := by
  have updates : ∀ reconciliation, storeContract.asks (some record) (.upsert intent.idempotencyKey
      (reconciledRecord record brokerResult reconciliation)) := by
    intro reconciliation
    exact ⟨congrArg OrderIntent.idempotencyKey own.symm, record, rfl, rfl, rfl⟩
  cases found : brokerResult.brokerOrderId.filter (· ≠ "") with
  | none =>
    rw [executePlaced_unidentified intent record found]
    refine ⟨updates _, fun reply after _ => ?_⟩
    cases reply <;> exact trivial
  | some brokerOrderId =>
    rw [executePlaced_identified intent record found]
    refine ⟨trivial, fun reply after answered => ?_⟩
    obtain rfl : after = some record := answered
    cases reply with
    | error raised => exact trivial
    | ok reconciliation =>
      refine ⟨updates reconciliation, fun reply after _ => ?_⟩
      cases reply <;> exact trivial

theorem executeReserved_meets (agent : ExecutionAgent) {intent : OrderIntent}
    {riskDecisionId : String} (named : intent.riskDecisionId = some riskDecisionId)
    (given : riskDecisionId ≠ "") {record : OrderRecord} (own : record.intent = intent) :
    (agent.executeReserved intent record).run.Meets storeContract (fun _ _ => True)
      (some record) := by
  rw [agent.executeReserved_eq named given]
  refine ⟨trivial, fun issuedAt after answered => ?_⟩
  obtain rfl : after = some record := answered
  refine ⟨trivial, fun executionId after answered => ?_⟩
  obtain rfl : after = some record := answered
  refine ⟨trivial, fun reply after answered => ?_⟩
  obtain rfl : after = some record := answered
  cases reply with
  | error raised =>
    refine ⟨⟨congrArg OrderIntent.idempotencyKey own.symm, record, rfl, rfl, rfl⟩, ?_⟩
    intro reply after _
    cases reply <;> exact trivial
  | ok brokerResult => exact executePlaced_meets own brokerResult

/-- Every call meets the contract. -/
theorem execute_meets (agent : ExecutionAgent) (call : ExecuteCall) :
    (agent.execute call).run.Meets storeContract (fun _ _ => True) none := by
  rw [agent.execute_eq call]
  cases accepted : agent.validate call with
  | error raised => exact trivial
  | ok _ =>
    obtain ⟨named, given⟩ := ExecutionAgent.validate_named accepted
    refine ⟨trivial, fun reply after answered => ?_⟩
    obtain rfl : after = none := answered
    match reply with
    | .error raised => exact trivial
    | .ok (some existing) => exact trivial
    | .ok none =>
      refine ⟨trivial, fun id after answered => ?_⟩
      obtain rfl : after = none := answered
      refine ⟨⟨rfl, rfl⟩, fun reply after answered => ?_⟩
      match reply with
      | .error raised => exact trivial
      | .ok () =>
        obtain rfl : after = some { id := id, intent := call.intent } := answered
        exact executeReserved_meets agent named given rfl

end Issued

section Runs

/-- A store transaction which raises has been rolled back. -/
def Environment.Atomic (environment : Environment) : Prop :=
  (∀ fault ∈ environment.reserveFault, fault.committed = false) ∧
    ∀ fault ∈ environment.upsertFault, fault.committed = false

/-- Surroundings whose store is atomic for its caller. -/
abbrev AtomicEnvironment := { environment : Environment // environment.Atomic }

def atomicPerformer (environment : AtomicEnvironment) : Performer Reply Database :=
  performer environment.1

/-- Remember each record which a transaction has written. -/
def written (records : Dict String OrderRecord) (_before : Database) :
    (op : Operation) → Reply op → Dict String OrderRecord
  | .reserve idempotencyKey record, .ok () => records.set idempotencyKey record
  | .upsert idempotencyKey record, .ok () => records.set idempotencyKey record
  | _, _ => records

/-- A transaction without a committed fault raises exactly when it commits nothing. -/
theorem commit_cases {fault : Option StoreFault} (atomic : ∀ found ∈ fault, found.committed = false)
    (transaction : Except RaisedError Database) (database : Database) :
    ((commit fault transaction database).1 = .ok () ∧
        transaction = .ok (commit fault transaction database).2) ∨
      ((∃ raised, (commit fault transaction database).1 = .error raised) ∧
        (commit fault transaction database).2 = database) := by
  cases fault with
  | none => cases transaction <;> simp [commit]
  | some fault =>
    have rolledBack : fault.committed = false := atomic fault rfl
    cases transaction <;> simp [commit, rolledBack]

theorem unchanged_of_raised {fault : Option StoreFault}
    (atomic : ∀ found ∈ fault, found.committed = false)
    (transaction : Except RaisedError Database) (database : Database) {raised : RaisedError}
    (reported : (commit fault transaction database).1 = .error raised) :
    (commit fault transaction database).2 = database := by
  rcases commit_cases atomic transaction database with ⟨returned, -⟩ | ⟨-, same⟩
  · rw [returned] at reported
    cases reported
  · exact same

/-- The records represent the tables, and each call which has reserved continues
the last record under its key. -/
structure Recorded (database : Database) (records : Dict String OrderRecord)
    (reserved : ℕ → Option OrderRecord) : Prop where
  represents : Represents database records
  continues : ∀ index record, reserved index = some record → Continues records record

/-- A write which keeps the id and the intent under its key changes neither under any key. -/
theorem Continues.set {records : Dict String OrderRecord} {record update : OrderRecord}
    (continues : Continues records record)
    (replaces : ∀ last, records.get? update.intent.idempotencyKey = some last →
      last.id = update.id ∧ last.intent = update.intent) :
    Continues (records.set update.intent.idempotencyKey update) record := by
  obtain ⟨last, present, sameId, sameIntent⟩ := continues
  by_cases same : record.intent.idempotencyKey = update.intent.idempotencyKey
  · rw [same] at present
    obtain ⟨updateId, updateIntent⟩ := replaces last present
    refine ⟨update, ?_, updateId.symm.trans sameId, updateIntent.symm.trans sameIntent⟩
    rw [same, Dict.get?_set_self]
  · exact ⟨last, by rw [Dict.get?_set, if_neg same, present], sameId, sameIntent⟩

/-- A call which has just written its record continues it, and so do all others. -/
theorem Recorded.wrote {database next : Database} {records : Dict String OrderRecord}
    {reserved : ℕ → Option OrderRecord} (recorded : Recorded database records reserved)
    {update : OrderRecord}
    (represents : Represents next (records.set update.intent.idempotencyKey update))
    (replaces : ∀ last, records.get? update.intent.idempotencyKey = some last →
      last.id = update.id ∧ last.intent = update.intent)
    {index : ℕ} {first : OrderRecord} (sameId : update.id = first.id)
    (sameIntent : update.intent = first.intent) :
    Recorded next (records.set update.intent.idempotencyKey update)
      (Function.update reserved index (some first)) where
  represents := represents
  continues other record held := by
    by_cases same : other = index
    · rw [same, Function.update_self, Option.some.injEq] at held
      subst held
      exact ⟨update, by rw [← sameIntent, Dict.get?_set_self], sameId, sameIntent⟩
    · rw [Function.update_of_ne same] at held
      exact (recorded.continues other record held).set replaces

/-- Every operation which the contract allows keeps the tables and the records together. -/
theorem recorded_preserves : Watched.Preserves atomicPerformer written (fun _ => storeContract)
    Recorded fun _ _ _ => True := by
  intro index environment op database records reserved recorded asks _
  have idle : Recorded database records (Function.update reserved index (reserved index)) := by
    rw [Function.update_eq_self]
    exact recorded
  cases op with
  | reserve idempotencyKey record =>
    obtain ⟨-, rfl⟩ := asks
    have reply : atomicPerformer environment (.reserve record.intent.idempotencyKey record)
        database = commit environment.1.reserveFault (OrderIdempotencyStore.reserve database
          record.intent.idempotencyKey record) database := rfl
    rw [reply]
    rcases commit_cases environment.2.1 (OrderIdempotencyStore.reserve database
      record.intent.idempotencyKey record) database
      with ⟨reported, committed⟩ | ⟨⟨raised, reported⟩, same⟩
    · rw [reported]
      obtain ⟨free, represents⟩ := recorded.represents.reserve committed
      refine ⟨some record, rfl, recorded.wrote represents ?_ rfl rfl⟩
      intro last present
      simp [InMemoryOrderIdempotencyStore.reserve, Dict.contains, present] at free
    · rw [reported, same]
      exact ⟨reserved index, rfl, idle⟩
  | upsert idempotencyKey record =>
    obtain ⟨rfl, first, held, sameId, sameIntent⟩ := asks
    have reply : atomicPerformer environment (.upsert record.intent.idempotencyKey record)
        database = commit environment.1.upsertFault (OrderIdempotencyStore.upsert database
          record.intent.idempotencyKey record) database := rfl
    rw [reply]
    rcases commit_cases environment.2.2 (OrderIdempotencyStore.upsert database
      record.intent.idempotencyKey record) database
      with ⟨reported, committed⟩ | ⟨⟨raised, reported⟩, same⟩
    · rw [reported]
      obtain ⟨last, present, lastId, lastIntent⟩ := recorded.continues index first held
      rw [sameIntent] at present
      have continues : Continues records record :=
        ⟨last, present, lastId.trans sameId, lastIntent.trans sameIntent⟩
      obtain ⟨next, upserted, represents⟩ := recorded.represents.upsert continues
      obtain rfl : next = _ := Except.ok.inj (upserted.symm.trans committed)
      refine ⟨some first, held.symm, recorded.wrote represents ?_ sameId.symm sameIntent.symm⟩
      intro other found
      rw [present, Option.some.injEq] at found
      subst found
      exact ⟨lastId.trans sameId, lastIntent.trans sameIntent⟩
    · rw [reported, same]
      exact ⟨reserved index, rfl, idle⟩
  | _ => exact ⟨reserved index, rfl, idle⟩

/-- Calls at their start, over empty tables. -/
def startCalls (calls : List (ExecutionAgent × ExecuteCall)) :
    Watched Reply (Except RaisedError OrderRecord) Database (Dict String OrderRecord) :=
  ⟨Pool.start (calls.map fun entry => (entry.1.execute entry.2).run) .empty, .empty⟩

theorem startCalls_holds (calls : List (ExecutionAgent × ExecuteCall)) :
    Watched.Holds (fun _ => storeContract) Recorded (startCalls calls) fun _ => none where
  programs index program located := by
    rw [startCalls, Pool.start, List.getElem?_map, Option.map_eq_some_iff] at located
    obtain ⟨entry, _, rfl⟩ := located
    exact execute_meets entry.1 entry.2
  invariant := ⟨Represents.empty, fun _ _ absent => nomatch absent⟩

/-- In every interleaving of calls over an atomic store the two tables mirror each
other and hold the last record written under each key, and a reservation or an
update which raises leaves both as they are. -/
theorem execute_tablesMirror (calls : List (ExecutionAgent × ExecuteCall))
    (schedule : List (ℕ × AtomicEnvironment)) :
    Throughout (Watched.turn atomicPerformer written)
        (fun watched => TablesMirror watched.pool.shared watched.monitor)
        (startCalls calls) schedule ∧
      ∀ (environment : AtomicEnvironment) (database : Database) (idempotencyKey : String)
        (record : OrderRecord) (raised : RaisedError),
        ((atomicPerformer environment (.reserve idempotencyKey record) database).1 =
            Except.error raised →
          (atomicPerformer environment (.reserve idempotencyKey record) database).2 = database) ∧
        ((atomicPerformer environment (.upsert idempotencyKey record) database).1 =
            Except.error raised →
          (atomicPerformer environment (.upsert idempotencyKey record) database).2 = database) := by
  constructor
  · have permitted : AtEachCall (Watched.turn atomicPerformer written)
        (Watched.Permitted fun _ _ _ => True) (startCalls calls) schedule :=
      atEachCall_of_forall fun _ _ _ _ => trivial
    exact (startCalls_holds calls).throughout recorded_preserves
      (fun _ _ recorded => recorded.represents.tablesMirror) permitted
  · intro environment database idempotencyKey record raised
    exact ⟨unchanged_of_raised environment.2.1 _ _, unchanged_of_raised environment.2.2 _ _⟩

end Runs
end AlphaAgent.Execution
