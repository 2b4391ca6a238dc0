import AlphaAgent.Execution.Outcome

/-!
# What an approval bounds

An order names the decision it was approved under, and the pre-trade checks
compare that name with the decision they are given. Nothing compares the order
with what was approved: `sentIntents_eq_firstOrders` shows that a sequence of
calls sends the intent of every call which opens a new key, whatever its market,
symbol, side and quantity. So an approval bounds what is sent exactly when the
callers themselves keep to it.
-/

namespace AlphaAgent.Execution

open Foundation

/-- One call in a sequence: the agent, its arguments, and what answers it. -/
structure Turn where
  agent : ExecutionAgent
  call : ExecuteCall
  environment : Environment

/-- The intents which a sequence of calls hands to `place_order`, in order. -/
def sentIntents : List Turn → Database → List OrderIntent
  | [], _ => []
  | turn :: rest, database =>
    let outcome := turn.agent.outcome turn.call turn.environment database
    (placements outcome.events).map Prod.fst ++ sentIntents rest outcome.shared

def sameSide : TradeAction → OrderSide → Bool
  | .buy, .buy => true
  | .sell, .sell => true
  | _, _ => false

def namesDecision (decision : RiskDecision) (intent : OrderIntent) : Bool :=
  intent.riskDecisionId = some decision.id

/-- The intents under a decision are orders for its candidate, and together
they stay within the approved quantity. -/
structure ApprovalBounds (candidate : TradeCandidate) (decision : RiskDecision)
    (intents : List OrderIntent) : Prop where
  order : ∀ intent ∈ intents, namesDecision decision intent = true →
    intent.market = candidate.market ∧ intent.symbol = candidate.symbol ∧
      sameSide candidate.action intent.side = true
  quantity : ((intents.filter (namesDecision decision)).map fun intent =>
    intent.quantity.val).sum ≤ decision.approvedQuantity

/-- The call passes the pre-trade checks, with a key and a record id which are
not in use, and the store keeps its reservation. -/
def Turn.opensKey (turn : Turn) (keys ids : List String) : Bool :=
  turn.agent.validate turn.call = .ok () && turn.environment.getFault = none &&
    turn.call.intent.idempotencyKey ∉ keys && turn.environment.newId ∉ ids &&
      turn.environment.reserveFault.all StoreFault.committed

/-- The intents of the calls which open a new key, from the keys and ids in use
at the start. Only a call whose reservation is reported as lost sends nothing. -/
def firstOrders : List Turn → List String → List String → List OrderIntent
  | [], _, _ => []
  | turn :: rest, keys, ids =>
    if turn.opensKey keys ids then
      (if turn.environment.reserveFault = none then [turn.call.intent] else []) ++
        firstOrders rest (turn.call.intent.idempotencyKey :: keys) (turn.environment.newId :: ids)
    else firstOrders rest keys ids

/-- The keys which either table binds. -/
def Database.keysInUse (database : Database) : List String :=
  database.orderKeys ++ database.idempotencyKeys.keys

/-- The lists hold the keys and the order ids in use. -/
structure Tracks (keys ids : List String) (database : Database) : Prop where
  keys : ∀ key, key ∈ keys ↔ key ∈ database.keysInUse
  ids : ∀ id, id ∈ ids ↔ id ∈ database.orders.keys

section Tracks

variable {keys ids : List String} {database next : Database} {turn : Turn} {record : OrderRecord}

theorem Tracks.admitted_iff (tracks : Tracks keys ids database) :
    turn.agent.Admitted turn.call turn.environment database ↔
      turn.agent.validate turn.call = .ok () ∧ turn.environment.getFault = none ∧
        turn.call.intent.idempotencyKey ∉ keys ∧ turn.environment.newId ∉ ids := by
  rw [tracks.keys, tracks.ids, Database.keysInUse, List.mem_append, not_or,
    ← Dict.get?_eq_none_iff, ← Dict.get?_eq_none_iff]
  constructor
  · rintro ⟨validated, readable, unknown, order, orderKey, key⟩
    exact ⟨validated, readable, ⟨orderKey, key⟩, order⟩
  · rintro ⟨validated, readable, ⟨orderKey, key⟩, order⟩
    have unknown : OrderIdempotencyStore.get database turn.call.intent.idempotencyKey = none := by
      rw [OrderIdempotencyStore.get, key]
      rfl
    exact ⟨validated, readable, unknown, order, orderKey, key⟩

/-- A reservation puts one key and one id into use. -/
theorem Tracks.reserve (tracks : Tracks keys ids database)
    (reserved : OrderIdempotencyStore.reserve database record.intent.idempotencyKey record =
      .ok next) :
    Tracks (record.intent.idempotencyKey :: keys) (record.id :: ids) next := by
  obtain ⟨unused, row, made, orders, written⟩ := OrderIdempotencyStore.reserve_ok reserved
  constructor
  · intro key
    have orderKeys : next.orderKeys = database.orderKeys ++ [record.intent.idempotencyKey] := by
      rw [Database.orderKeys, orders, Dict.map_values_set_of_unbound row _ unused.order,
        OrderIdempotencyStore.orderFromRecord_key made]
      rfl
    have tracked := tracks.keys key
    rw [Database.keysInUse, List.mem_append] at tracked
    rw [Database.keysInUse, List.mem_append, orderKeys, written, Dict.mem_keys_set,
      List.mem_append, List.mem_singleton, List.mem_cons, tracked]
    tauto
  · intro id
    rw [orders, Dict.mem_keys_set, List.mem_cons, tracks.ids]

/-- An update of a stored record puts nothing into use. -/
theorem Tracks.upserted (tracks : Tracks keys ids database) {row : OrderRow}
    (bound : database.orders.get? record.id = some row)
    (inUse : record.intent.idempotencyKey ∈ database.idempotencyKeys.keys)
    (upserted : Upserted record.intent record database next) : Tracks keys ids next := by
  rcases upserted with rfl | ⟨written, same, committed⟩
  · exact tracks
  · obtain ⟨other, stored, orders, orderKeys⟩ := OrderIdempotencyStore.upsert_of_bound
      record.intent.idempotencyKey written (same ▸ bound)
    rw [committed, Except.ok.injEq] at stored
    subst stored
    have keyRows := OrderIdempotencyStore.upsert_ok committed
    constructor
    · intro key
      rw [tracks.keys, Database.keysInUse, Database.keysInUse, orderKeys, keyRows,
        List.mem_append, List.mem_append, Dict.mem_keys_set]
      constructor
      · exact fun known => known.imp_right .inr
      · rintro (order | rfl | known)
        · exact .inl order
        · exact .inr inUse
        · exact .inr known
    · intro id
      rw [tracks.ids, orders, Dict.mem_keys_set]
      constructor
      · exact .inr
      · rintro (rfl | known)
        · exact Dict.mem_keys_of_get? (same ▸ bound)
        · exact known

/-- A call which opens a key leaves exactly that key and its record id newly in use. -/
theorem Tracks.opened (tracks : Tracks keys ids database)
    (opens : turn.opensKey keys ids = true) :
    (placements (turn.agent.outcome turn.call turn.environment database).events).map Prod.fst =
        (if turn.environment.reserveFault = none then [turn.call.intent] else []) ∧
      Tracks (turn.call.intent.idempotencyKey :: keys) (turn.environment.newId :: ids)
        (turn.agent.outcome turn.call turn.environment database).shared := by
  simp only [Turn.opensKey, Bool.and_eq_true, decide_eq_true_eq] at opens
  obtain ⟨⟨⟨⟨validated, readable⟩, newKey⟩, newRecord⟩, kept⟩ := opens
  have admitted := tracks.admitted_iff.mpr ⟨validated, readable, newKey, newRecord⟩
  cases faulty : turn.environment.reserveFault with
  | some fault =>
    obtain ⟨silent, reserved, written, shared⟩ :=
      ExecutionAgent.outcome_of_reserve_fault admitted faulty
    have committed : fault.committed = true := by simpa [faulty] using kept
    rw [silent, shared, if_pos committed]
    exact ⟨by simp, tracks.reserve written⟩
  | none =>
    obtain ⟨reserved, written, placed, shared⟩ :=
      ExecutionAgent.outcome_of_admitted admitted faulty
    obtain ⟨named, given⟩ := ExecutionAgent.validate_named validated
    obtain ⟨-, upserted⟩ := turn.agent.executeReserved_run turn.environment named given
      (ExecutionAgent.newRecord turn.call turn.environment) reserved
    obtain ⟨reservation, row, bound⟩ := OrderIdempotencyStore.get_of_reserve written
    obtain ⟨-, -, -, -, keyRows⟩ := OrderIdempotencyStore.reserve_ok written
    have inUse : turn.call.intent.idempotencyKey ∈ reserved.idempotencyKeys.keys := by
      rw [keyRows, Dict.mem_keys_set]
      exact .inl rfl
    rw [placed, shared]
    exact ⟨by simp, (tracks.reserve written).upserted bound inUse upserted⟩

/-- A call which opens no key sends nothing and puts nothing into use. -/
theorem Tracks.unopened (tracks : Tracks keys ids database)
    (refused : turn.opensKey keys ids ≠ true) :
    placements (turn.agent.outcome turn.call turn.environment database).events = [] ∧
      Tracks keys ids (turn.agent.outcome turn.call turn.environment database).shared := by
  by_cases admitted : turn.agent.Admitted turn.call turn.environment database
  · -- Only a reservation which was rolled back is left.
    obtain ⟨validated, readable, newKey, newRecord⟩ := tracks.admitted_iff.mp admitted
    cases faulty : turn.environment.reserveFault with
    | none => simp [Turn.opensKey, validated, readable, newKey, newRecord, faulty] at refused
    | some fault =>
      have lost : fault.committed ≠ true := by
        simpa [Turn.opensKey, validated, readable, newKey, newRecord, faulty] using refused
      obtain ⟨silent, reserved, -, shared⟩ :=
        ExecutionAgent.outcome_of_reserve_fault admitted faulty
      rw [shared, if_neg lost]
      exact ⟨silent, tracks⟩
  · obtain ⟨silent, shared⟩ := ExecutionAgent.outcome_of_not_admitted admitted
    rw [shared]
    exact ⟨silent, tracks⟩

/-- A sequence of calls sends the intents of the calls which open a new key. -/
theorem sentIntents_eq_firstOrders (turns : List Turn) (tracks : Tracks keys ids database) :
    sentIntents turns database = firstOrders turns keys ids := by
  induction turns generalizing keys ids database with
  | nil => rfl
  | cons turn rest ih =>
    rw [sentIntents, firstOrders]
    by_cases opens : turn.opensKey keys ids = true
    · obtain ⟨sent, next⟩ := tracks.opened opens
      rw [if_pos opens, sent, ih next]
    · obtain ⟨silent, next⟩ := tracks.unopened opens
      rw [if_neg opens, silent, ih next]
      rfl

end Tracks

/-- An approval bounds what a sequence of calls sends exactly when the calls
which open a new key keep to it. -/
theorem approvalBounds_iff (candidate : TradeCandidate) (decision : RiskDecision)
    (turns : List Turn) (database : Database) :
    ApprovalBounds candidate decision (sentIntents turns database) ↔
      ApprovalBounds candidate decision
        (firstOrders turns database.keysInUse database.orders.keys) := by
  have tracks : Tracks database.keysInUse database.orders.keys database :=
    ⟨fun _ => .rfl, fun _ => .rfl⟩
  rw [sentIntents_eq_firstOrders turns tracks]

/-- A call under `relianceDecision`, at a broker which fills every order. -/
def relianceTurn (quantity : AtLeastOne) (idempotencyKey recordId : String) : Turn where
  agent := liveAgent
  call := relianceCall quantity idempotencyKey
  environment :=
    { newId := recordId
      executionToken := "execution-1"
      utcNow := 0
      broker :=
        { placeOrder := fun _ _ => .ok { brokerOrderId := some "order-1", status := .submitted }
          reconcileOrder := fun _ => .ok { brokerOrderId := some "order-1", status := .filled } } }

/-- An approval of 500 shares sends 600 in one order, and 1000 under two keys. -/
theorem approvalBounds_exceeded :
    Risk.evaluate Risk.liveSettings 0 "risk-1" Risk.relianceBuy = .ok Risk.relianceDecision ∧
      Risk.relianceDecision.approvedQuantity = 500 ∧
      ¬ApprovalBounds Risk.relianceBuy.candidate Risk.relianceDecision
        (sentIntents [relianceTurn ⟨600, by decide⟩ "idem-1" "record-1"] .empty) ∧
      ¬ApprovalBounds Risk.relianceBuy.candidate Risk.relianceDecision
        (sentIntents [relianceTurn ⟨500, by decide⟩ "idem-1" "record-1",
          relianceTurn ⟨500, by decide⟩ "idem-2" "record-2"] .empty) := by
  refine ⟨Risk.evaluate_relianceBuy, Risk.relianceDecision_approvedQuantity, ?_, ?_⟩
  · rintro ⟨-, quantity⟩
    revert quantity
    decide +kernel
  · rintro ⟨-, quantity⟩
    revert quantity
    decide +kernel

end AlphaAgent.Execution
