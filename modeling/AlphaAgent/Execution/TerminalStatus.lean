import AlphaAgent.Brokers.Adapters
import AlphaAgent.Execution.Outcome

/-!
# Terminal placement statuses

The status of the record is the status of the reconciliation, and without a
broker order id the reconciliation is UNKNOWN without asking anyone. Both
adapters reject an order without an id, so a rejected order is recorded as
unknown. `terminalKept_iff` says exactly when a terminal status survives.
-/

namespace AlphaAgent.Execution

open Foundation

/-- REJECTED, FILLED or CANCELLED. -/
def isTerminal (status : OrderStatus) : Bool :=
  status = .rejected || status = .filled || status = .cancelled

/-- A terminal status which the broker returned gives way to UNKNOWN, in the record
which is returned or stored, only where the broker reconciled this very order to it. -/
def TerminalKept
    (outcome : Program.Outcome Reply (Except RaisedError OrderRecord) Database) : Prop :=
  ∀ intent brokerResult record, (intent, .ok brokerResult) ∈ placements outcome.events →
    isTerminal brokerResult.status = true →
    (outcome.result = .ok record ∨
      OrderIdempotencyStore.get outcome.shared intent.idempotencyKey = some record) →
    record.status = .unknownRequiresReconciliation →
      ∃ brokerOrderId answer, brokerResult.brokerOrderId = some brokerOrderId ∧
        (brokerOrderId, .ok answer) ∈ reconciliations outcome.events ∧
          answer.status = .unknownRequiresReconciliation

/-- An admitted call whose order the broker answers ends as its reconciliation does. -/
theorem ExecutionAgent.outcome_of_placed {agent : ExecutionAgent} {call : ExecuteCall}
    {environment : Environment} {database : Database} {brokerResult : BrokerOrderResult}
    (admitted : agent.Admitted call environment database)
    (noFault : environment.reserveFault = none)
    (placed : environment.broker.placeOrder call.intent (agent.permit call environment) =
      .ok brokerResult) :
    ∃ reserved, OrderIdempotencyStore.reserve database call.intent.idempotencyKey
        (newRecord call environment) = .ok reserved ∧
      (agent.outcome call environment database).result =
        ((executePlaced call.intent (newRecord call environment) brokerResult).run.run
          (performer environment) reserved).result ∧
      (agent.outcome call environment database).shared =
        ((executePlaced call.intent (newRecord call environment) brokerResult).run.run
          (performer environment) reserved).shared ∧
      reconciliations (agent.outcome call environment database).events =
        reconciliations ((executePlaced call.intent (newRecord call environment)
          brokerResult).run.run (performer environment) reserved).events := by
  obtain ⟨validated, readable, unknown, unused⟩ := admitted
  obtain ⟨named, given⟩ := validate_named validated
  obtain ⟨reserved, written⟩ := OrderIdempotencyStore.reserve_of_unused named unused
  refine ⟨reserved, written, ?_⟩
  unfold outcome
  unfold newRecord at written ⊢
  unfold permit at placed
  rw [agent.execute_eq call, validated]
  simp only [Program.run_request, performer, readable, unknown, noFault, commit, written,
    agent.executeReserved_eq named given, placed]
  exact ⟨trivial, trivial, rfl⟩

/-- An admitted call reserves its key, gets a terminal status without an order id,
and its record is written. -/
structure OverwritesTerminal (agent : ExecutionAgent) (call : ExecuteCall)
    (environment : Environment) (database : Database) (brokerResult : BrokerOrderResult) :
    Prop where
  admitted : agent.Admitted call environment database
  noFault : environment.reserveFault = none
  placed : environment.broker.placeOrder call.intent (agent.permit call environment) =
    .ok brokerResult
  terminal : isTerminal brokerResult.status = true
  unidentified : brokerResult.brokerOrderId.filter (· ≠ "") = none
  upserts : environment.upserts = true

section Calls

variable {agent : ExecutionAgent} {call : ExecuteCall} {environment : Environment}
  {database : Database} {brokerResult : BrokerOrderResult}

/-- A record which is returned or stored is the written one, where the upsert takes
effect, and the reservation, where it does not. -/
theorem Wrote.record {key : String} {written reservation record : OrderRecord}
    {database : Database}
    {outcome : Program.Outcome Reply (Except RaisedError OrderRecord) Database}
    (wrote : Wrote environment key written database outcome)
    (reserved : OrderIdempotencyStore.get database key = some reservation)
    (found : outcome.result = .ok record ∨
      OrderIdempotencyStore.get outcome.shared key = some record) :
    environment.upserts = true ∧ record = written ∨
      environment.upserts = false ∧ record = reservation := by
  cases wrote with
  | reported effective result stored =>
    rw [result, stored] at found
    rcases found with returned | kept
    · exact .inl ⟨effective, (Except.ok.inj returned).symm⟩
    · exact .inl ⟨effective, (Option.some.inj kept).symm⟩
  | unreported raised effective result stored =>
    rw [result, stored] at found
    rcases found with returned | kept
    · cases returned
    · exact .inl ⟨effective, (Option.some.inj kept).symm⟩
  | lost raised faulty result unchanged =>
    rw [result, unchanged, reserved] at found
    rcases found with returned | kept
    · cases returned
    · exact .inr ⟨faulty, (Option.some.inj kept).symm⟩

/-- Where the record of an unidentified order is written, its terminal status is lost. -/
theorem OverwritesTerminal.not_kept
    (overwrites : OverwritesTerminal agent call environment database brokerResult) :
    ¬ TerminalKept (agent.outcome call environment database) := by
  intro kept
  obtain ⟨-, -, placements, -⟩ :=
    ExecutionAgent.outcome_of_admitted overwrites.admitted overwrites.noFault
  obtain ⟨reserved, written, -, shared, events⟩ :=
    ExecutionAgent.outcome_of_placed overwrites.admitted overwrites.noFault overwrites.placed
  obtain ⟨-, row, bound⟩ := OrderIdempotencyStore.get_of_reserve written
  obtain ⟨wrote, silent⟩ := executePlaced_wrote_unidentified environment call.intent bound
    overwrites.unidentified
  have stored := wrote.stored overwrites.upserts
  rw [← shared] at stored
  rw [overwrites.placed] at placements
  obtain ⟨brokerOrderId, answer, -, asked, -⟩ := kept call.intent brokerResult _
    (by rw [placements]; exact List.mem_singleton_self _) overwrites.terminal (.inr stored) rfl
  rw [events, silent] at asked
  cases asked

/-- Otherwise the status survives, or the broker reconciled the order to UNKNOWN. -/
theorem terminalKept_of_placed (admitted : agent.Admitted call environment database)
    (noFault : environment.reserveFault = none)
    (placed : environment.broker.placeOrder call.intent (agent.permit call environment) =
      .ok brokerResult)
    (identified : isTerminal brokerResult.status = true → environment.upserts = true →
      brokerResult.brokerOrderId.filter (· ≠ "") ≠ none) :
    TerminalKept (agent.outcome call environment database) := by
  obtain ⟨-, -, placements, -⟩ := ExecutionAgent.outcome_of_admitted admitted noFault
  obtain ⟨reserved, written, result, shared, events⟩ :=
    ExecutionAgent.outcome_of_placed admitted noFault placed
  obtain ⟨reservation, row, bound⟩ := OrderIdempotencyStore.get_of_reserve written
  intro intent other record member terminal found unknown
  rw [placements, placed, List.mem_singleton] at member
  cases member
  rw [result, shared] at found
  rw [events]
  cases asked : brokerResult.brokerOrderId.filter (· ≠ "") with
  | none =>
    obtain ⟨wrote, -⟩ := executePlaced_wrote_unidentified environment call.intent bound asked
    rcases wrote.record reservation found with ⟨effective, -⟩ | ⟨-, rfl⟩
    · exact absurd asked (identified terminal effective)
    · cases unknown
  | some brokerOrderId =>
    cases answered : environment.broker.reconcileOrder brokerOrderId with
    | error raised =>
      obtain ⟨failed, unchanged⟩ := executePlaced_unreconciled environment call.intent
        (ExecutionAgent.newRecord call environment) reserved asked answered
      rw [failed, unchanged, reservation] at found
      rcases found with returned | stored
      · cases returned
      · cases Option.some.inj stored
        cases unknown
    | ok answer =>
      obtain ⟨wrote, listed⟩ := executePlaced_wrote_reconciled environment call.intent bound asked
        answered
      rcases wrote.record reservation found with ⟨-, rfl⟩ | ⟨-, rfl⟩
      · exact ⟨brokerOrderId, answer, (Option.filter_eq_some_iff.mp asked).1, listed, unknown⟩
      · cases unknown

/-- A call which places nothing has no status to keep. -/
theorem terminalKept_of_silent
    {outcome : Program.Outcome Reply (Except RaisedError OrderRecord) Database}
    (silent : ∀ intent brokerResult, (intent, .ok brokerResult) ∉ placements outcome.events) :
    TerminalKept outcome :=
  fun intent brokerResult _ member => absurd member (silent intent brokerResult)

/-- A call keeps every terminal placement status exactly when it does not write the
record of an order which the broker ended without giving it an id. -/
theorem terminalKept_iff (agent : ExecutionAgent) (call : ExecuteCall) (environment : Environment)
    (database : Database) :
    TerminalKept (agent.outcome call environment database) ↔
      ¬ ∃ brokerResult, OverwritesTerminal agent call environment database brokerResult := by
  constructor
  · rintro kept ⟨brokerResult, overwrites⟩
    exact overwrites.not_kept kept
  · intro harmless
    by_cases admitted : agent.Admitted call environment database
    · cases noFault : environment.reserveFault with
      | some fault =>
        obtain ⟨silent, -⟩ := ExecutionAgent.outcome_of_reserve_fault admitted noFault
        exact terminalKept_of_silent fun _ _ member => by rw [silent] at member; cases member
      | none =>
        cases placed : environment.broker.placeOrder call.intent
            (agent.permit call environment) with
        | error raised =>
          obtain ⟨-, -, placements, -⟩ := ExecutionAgent.outcome_of_admitted admitted noFault
          apply terminalKept_of_silent
          intro intent brokerResult member
          rw [placements, placed, List.mem_singleton] at member
          cases member
        | ok brokerResult =>
          apply terminalKept_of_placed admitted noFault placed
          intro terminal upserts unidentified
          exact harmless ⟨brokerResult, admitted, noFault, placed, terminal, unidentified, upserts⟩
    · obtain ⟨silent, -⟩ := ExecutionAgent.outcome_of_not_admitted admitted
      exact terminalKept_of_silent fun _ _ member => by rw [silent] at member; cases member

end Calls

section Rejected

/-- A Zerodha adapter whose orders are refused, as an order which lacks margin is. -/
def refusingBroker : Broker where
  placeOrder intent context :=
    (((Brokers.zerodhaBroker (fun _ => "")
        ⟨"api-key", "api-secret", some "access-token"⟩).placeOrder
      (fun _ => "") "issuer-token" 1 (fun _ => .answered 400 (some (.object []))) intent
      (some context)).run []).1
  reconcileOrder _ := .error (.failClosed "zerodha_order_not_found")

def refusingEnvironment : Environment where
  newId := "record-1"
  executionToken := "execution-1"
  utcNow := 0
  broker := refusingBroker

/-- The rejected order is stored, and returned, as unknown; nobody was asked about it. -/
theorem rejected_becomes_unknown :
    ¬ ∀ (agent : ExecutionAgent) (call : ExecuteCall) (environment : Environment)
      (database : Database), TerminalKept (agent.outcome call environment database) := by
  intro kept
  have stored :
      (OrderIdempotencyStore.get (liveAgent.outcome (relianceCall ⟨10, by norm_num⟩ "idem-1")
      refusingEnvironment .empty).shared "idem-1").map OrderRecord.status =
        some .unknownRequiresReconciliation := by
    decide +kernel
  obtain ⟨record, found, unknown⟩ := Option.map_eq_some_iff.mp stored
  obtain ⟨brokerOrderId, -, identified, -⟩ := kept liveAgent
    (relianceCall ⟨10, by norm_num⟩ "idem-1") refusingEnvironment .empty
    (relianceCall ⟨10, by norm_num⟩ "idem-1").intent { status := .rejected } record
    (by decide +kernel) rfl (.inr found) unknown
  cases identified

end Rejected
end AlphaAgent.Execution
