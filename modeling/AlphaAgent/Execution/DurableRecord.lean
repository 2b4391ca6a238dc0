import AlphaAgent.Execution.Outcome

/-!
# Placed orders in the durable store

The record of a placed order is written only after its reconciliation. When the
reconciliation raises, the store still holds the reservation: a CREATED record
without a broker order id. `placementsRecorded_iff` says for one call, over a
store whose transactions succeed, exactly when every order which the broker
gave an id ends up in the store under that id.
-/

namespace AlphaAgent.Execution

open Foundation

/-- Every order the broker gave an id is stored under that id, and not as CREATED. -/
def PlacementsRecorded
    (outcome : Program.Outcome Reply (Except RaisedError OrderRecord) Database) : Prop :=
  ∀ intent brokerResult brokerOrderId,
    (intent, .ok brokerResult) ∈ placements outcome.events →
      brokerResult.brokerOrderId = some brokerOrderId →
        ∃ record, OrderIdempotencyStore.get outcome.shared intent.idempotencyKey = some record ∧
          record.brokerOrderId = some brokerOrderId ∧ record.status ≠ .created

/-- The broker reconciles every order it gives an id to a status past CREATED. -/
def Reconciles (broker : Broker) (intent : OrderIntent) (context : BrokerExecutionContext) :
    Prop :=
  ∀ brokerResult brokerOrderId, broker.placeOrder intent context = .ok brokerResult →
    brokerResult.brokerOrderId = some brokerOrderId → brokerOrderId ≠ "" →
      ∃ reconciliation, broker.reconcileOrder brokerOrderId = .ok reconciliation ∧
        reconciliation.status ≠ .created

/-- One placed order with an id is recorded when the record of its key says so. -/
theorem placementsRecorded_single
    {outcome : Program.Outcome Reply (Except RaisedError OrderRecord) Database}
    {intent : OrderIntent} {brokerResult : BrokerOrderResult} {brokerOrderId : String}
    {record : OrderRecord}
    (placed : placements outcome.events = [(intent, .ok brokerResult)])
    (identified : brokerResult.brokerOrderId = some brokerOrderId)
    (stored : OrderIdempotencyStore.get outcome.shared intent.idempotencyKey = some record) :
    PlacementsRecorded outcome ↔
      record.brokerOrderId = some brokerOrderId ∧ record.status ≠ .created := by
  constructor
  · intro recorded
    obtain ⟨found, located, holds⟩ :=
      recorded intent brokerResult brokerOrderId (placed ▸ List.mem_singleton_self _) identified
    rw [stored, Option.some.injEq] at located
    exact located ▸ holds
  · rintro holds other answer otherId member otherIdentified
    rw [placed, List.mem_singleton] at member
    cases member
    rw [identified, Option.some.injEq] at otherIdentified
    subst otherIdentified
    exact ⟨record, stored, holds⟩

/-- What follows a placed order records it exactly when it has no id to
reconcile, or its reconciliation returns a status past CREATED. -/
theorem placementsRecorded_placed {environment : Environment}
    {outcome : Program.Outcome Reply (Except RaisedError OrderRecord) Database}
    {intent : OrderIntent} {brokerResult : BrokerOrderResult} {record : OrderRecord}
    {reserved : Database} {row : OrderRow}
    (placed : placements outcome.events = [(intent, .ok brokerResult)])
    (shared : outcome.shared = ((executePlaced intent record brokerResult).run.run
      (performer environment.withReliableStore) reserved).shared)
    (reservation : OrderIdempotencyStore.get reserved intent.idempotencyKey = some record)
    (unidentified : record.brokerOrderId = none)
    (bound : reserved.orders.get? record.id = some row) :
    PlacementsRecorded outcome ↔
      ∀ brokerOrderId, brokerResult.brokerOrderId = some brokerOrderId → brokerOrderId ≠ "" →
        ∃ reconciliation, environment.broker.reconcileOrder brokerOrderId = .ok reconciliation ∧
          reconciliation.status ≠ .created := by
  cases identified : brokerResult.brokerOrderId with
  | none =>
    refine ⟨fun _ brokerOrderId impossible => ?_, fun _ other answer otherId member named => ?_⟩
    · cases impossible
    · rw [placed, List.mem_singleton] at member
      cases member
      rw [identified] at named
      cases named
  | some brokerOrderId =>
    by_cases blank : brokerOrderId = ""
    · have missing : brokerResult.brokerOrderId.filter (· ≠ "") = none := by
        simp [identified, Option.filter, blank]
      have stored := (executePlaced_wrote_unidentified environment.withReliableStore intent bound
        missing).1.stored rfl
      rw [placementsRecorded_single placed identified (shared ▸ stored)]
      simp [reconciledRecord, identified, blank]
    · have given : brokerResult.brokerOrderId.filter (· ≠ "") = some brokerOrderId := by
        simp [identified, Option.filter, blank]
      cases answer : environment.broker.reconcileOrder brokerOrderId with
      | error raised =>
        have stored := (executePlaced_unreconciled environment.withReliableStore intent record
          reserved given answer).2
        rw [placementsRecorded_single placed identified (by rw [shared, stored, reservation])]
        simp [unidentified, blank, answer]
      | ok reconciliation =>
        have stored := (executePlaced_wrote_reconciled environment.withReliableStore intent bound
          given answer).1.stored rfl
        rw [placementsRecorded_single placed identified (shared ▸ stored)]
        simp [blank, answer, reconciledRecord, identified]

/-- A call over a reliable store records every placed order exactly when it is
not admitted or the broker reconciles what it placed. -/
theorem placementsRecorded_iff (agent : ExecutionAgent) (call : ExecuteCall)
    (environment : Environment) (database : Database) :
    PlacementsRecorded (agent.outcome call environment.withReliableStore database) ↔
      (agent.Admitted call environment.withReliableStore database →
        Reconciles environment.broker call.intent (agent.permit call environment)) := by
  by_cases admitted : agent.Admitted call environment.withReliableStore database
  · simp only [admitted, true_implies]
    obtain ⟨named, given⟩ := ExecutionAgent.validate_named admitted.validated
    obtain ⟨reserved, written, placed, shared⟩ := ExecutionAgent.outcome_of_admitted admitted rfl
    obtain ⟨reservation, row, bound⟩ := OrderIdempotencyStore.get_of_reserve written
    cases answer : environment.broker.placeOrder call.intent (agent.permit call environment) with
    | error raised =>
      constructor
      · intro _ brokerResult brokerOrderId returned
        rw [answer] at returned
        cases returned
      · intro _ intent brokerResult brokerOrderId member
        have refused : environment.withReliableStore.broker.placeOrder call.intent
            (agent.permit call environment.withReliableStore) = .error raised := answer
        rw [placed, refused, List.mem_singleton] at member
        cases member
    | ok brokerResult =>
      rw [agent.executeReserved_placed environment.withReliableStore named given _ _ answer]
        at shared
      have returned : environment.withReliableStore.broker.placeOrder call.intent
          (agent.permit call environment.withReliableStore) = .ok brokerResult := answer
      rw [placementsRecorded_placed (returned ▸ placed) shared reservation rfl bound]
      constructor
      · intro reconciles other brokerOrderId same
        rw [answer, Except.ok.injEq] at same
        subst same
        exact reconciles brokerOrderId
      · intro reconciles brokerOrderId
        exact reconciles brokerResult brokerOrderId answer
  · refine ⟨fun _ holds => absurd holds admitted, fun _ => ?_⟩
    obtain ⟨silent, -⟩ := ExecutionAgent.outcome_of_not_admitted admitted
    intro intent brokerResult brokerOrderId member
    rw [silent] at member
    cases member

/-- A broker which accepts an order and cannot find it again. -/
def forgetfulBroker : Broker where
  placeOrder _ _ := .ok { brokerOrderId := some "order-1", status := .submitted }
  reconcileOrder _ := .error (.failClosed "zerodha_order_not_found")

def forgetfulEnvironment : Environment where
  newId := "record-1"
  executionToken := "execution-1"
  utcNow := 0
  broker := forgetfulBroker

/-- Ten shares under a fresh key. -/
def forgetfulCall : ExecuteCall := relianceCall ⟨10, by norm_num⟩ "idem-1"

/-- The order is live at the broker; the store holds the CREATED reservation. -/
theorem placementsRecorded_forgetful : ¬PlacementsRecorded
    (liveAgent.outcome forgetfulCall forgetfulEnvironment.withReliableStore .empty) := by
  intro recorded
  obtain ⟨record, stored, identified, -⟩ := recorded forgetfulCall.intent
    { brokerOrderId := some "order-1", status := .submitted } "order-1" (by decide +kernel) rfl
  have reservation : OrderIdempotencyStore.get (liveAgent.outcome forgetfulCall
      forgetfulEnvironment.withReliableStore .empty).shared forgetfulCall.intent.idempotencyKey =
      some (ExecutionAgent.newRecord forgetfulCall forgetfulEnvironment) := by
    decide +kernel
  rw [reservation, Option.some.injEq] at stored
  subst stored
  cases identified

end AlphaAgent.Execution
