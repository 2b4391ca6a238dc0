import AlphaAgent.Execution.Environment
import AlphaAgent.Foundation.Permit

/-!
# At most one order per idempotency key

The unique key of `order_idempotency_keys` lets one reservation of a key
succeed, ever. Read as a permit, a successful reservation pays for the one
`place_order` which may follow it in the same call, and no call places an order
it has no permit for. What the calls do between these two steps, who runs them
and who raises does not matter.
-/

namespace AlphaAgent.Execution

open Foundation

/-- A successful reservation of the key hands out a permit; placing an order
under the key uses one up. -/
def orderPermits (idempotencyKey : String) : PermitPolicy Reply where
  grants
    | .reserve key _, .ok () => if key = idempotencyKey then 1 else 0
    | _, _ => 0
  uses
    | .placeOrder intent _ => if intent.idempotencyKey = idempotencyKey then 1 else 0
    | _ => 0

/-- Whether an event is a call of `place_order` under the key. -/
def placesOrder (idempotencyKey : String) (event : Event Reply) : Bool :=
  match event.1 with
  | .placeOrder intent _ => intent.idempotencyKey = idempotencyKey
  | _ => false

/-- The permits used are the calls of `place_order`. -/
theorem used_eq_countP (idempotencyKey : String) (events : List (Event Reply)) :
    (orderPermits idempotencyKey).used events = events.countP (placesOrder idempotencyKey) := by
  induction events with
  | nil => rfl
  | cons event rest ih =>
    have weight : (orderPermits idempotencyKey).uses event.1 =
        if placesOrder idempotencyKey event then 1 else 0 := by
      obtain ⟨operation, reply⟩ := event
      cases operation <;> simp [orderPermits, placesOrder]
    rw [List.countP_cons, ← ih, ← weight, add_comm]
    rfl

/-- A call without a reservation of its own places no order. -/
theorem executePlaced_permitted (idempotencyKey : String) (intent : OrderIntent)
    (record : OrderRecord) (brokerResult : BrokerOrderResult) (held : Nat) :
    (executePlaced intent record brokerResult).run.Permitted
      (orderPermits idempotencyKey) held := by
  cases found : brokerResult.brokerOrderId.filter (· ≠ "") with
  | none =>
    rw [executePlaced_unidentified intent record found]
    refine ⟨Nat.zero_le _, fun reply => ?_⟩
    cases reply <;> exact trivial
  | some brokerOrderId =>
    rw [executePlaced_identified intent record found]
    refine ⟨Nat.zero_le _, fun reply => ?_⟩
    cases reply with
    | error raised => exact trivial
    | ok reconciliation =>
      refine ⟨Nat.zero_le _, fun reply => ?_⟩
      cases reply <;> exact trivial

/-- With the permit of its reservation, the rest of a call is permitted. -/
theorem executeReserved_permitted (idempotencyKey : String) (agent : ExecutionAgent)
    {intent : OrderIntent} {riskDecisionId : String}
    (named : intent.riskDecisionId = some riskDecisionId) (given : riskDecisionId ≠ "")
    (record : OrderRecord) {held : Nat}
    (permit : intent.idempotencyKey = idempotencyKey → 1 ≤ held) :
    (agent.executeReserved intent record).run.Permitted (orderPermits idempotencyKey) held := by
  rw [agent.executeReserved_eq named given]
  refine ⟨Nat.zero_le _, fun issuedAt => ⟨Nat.zero_le _, fun executionId => ⟨?_, fun reply => ?_⟩⟩⟩
  · simp only [orderPermits, Nat.sub_zero, Nat.add_zero]
    split
    · next same => exact permit same
    · exact Nat.zero_le _
  · cases reply with
    | error raised =>
      refine ⟨Nat.zero_le _, fun reply => ?_⟩
      cases reply <;> exact trivial
    | ok brokerResult => exact executePlaced_permitted idempotencyKey intent record brokerResult _

/-- Every call starts without a permit and never places an order without one. -/
theorem execute_permitted (idempotencyKey : String) (agent : ExecutionAgent) (call : ExecuteCall) :
    (agent.execute call).run.Permitted (orderPermits idempotencyKey) 0 := by
  rw [agent.execute_eq call]
  cases accepted : agent.validate call with
  | error raised => exact trivial
  | ok _ =>
    obtain ⟨named, given⟩ := ExecutionAgent.validate_named accepted
    refine ⟨le_rfl, fun reply => ?_⟩
    match reply with
    | .error raised => exact trivial
    | .ok (some existing) => exact trivial
    | .ok none =>
      refine ⟨Nat.zero_le _, fun id => ⟨Nat.zero_le _, fun reply => ?_⟩⟩
      match reply with
      | .error raised => exact trivial
      | .ok () =>
        apply executeReserved_permitted idempotencyKey agent named given
        intro same
        simp [orderPermits, same]

/-- At most one reservation of the key has succeeded, and none while it is unbound. -/
def ReservedOnce (idempotencyKey : String) (database : Database) (events : List (Event Reply)) :
    Prop :=
  (orderPermits idempotencyKey).granted events ≤ 1 ∧
    (database.idempotencyKeys.get? idempotencyKey = none →
      (orderPermits idempotencyKey).granted events = 0)

/-- The unique key of the store lets no second reservation of a key succeed. -/
theorem ReservedOnce.step {idempotencyKey : String} {database : Database}
    {events : List (Event Reply)} (once : ReservedOnce idempotencyKey database events)
    (environment : Environment) (operation : Operation) :
    ReservedOnce idempotencyKey (performer environment operation database).2
      (events ++ [⟨operation, (performer environment operation database).1⟩]) := by
  have kept := performer_keeps_key environment operation database idempotencyKey
  obtain ⟨bounded, fresh⟩ := once
  simp only [ReservedOnce, PermitPolicy.granted_append, PermitPolicy.granted_single]
  by_cases grants : (orderPermits idempotencyKey).grants operation
      (performer environment operation database).1 = 0
  · rw [grants]
    exact ⟨bounded, fun unbound => fresh (kept unbound)⟩
  · -- Only a reservation of this very key grants, and it finds the key unbound.
    cases operation with
    | reserve key record =>
      cases reported : (performer environment (.reserve key record) database).1 with
      | error raised => simp [orderPermits, reported] at grants
      | ok _ =>
        have same : key = idempotencyKey := by
          by_contra different
          simp [orderPermits, reported, different] at grants
        subst same
        obtain ⟨unbound, bound⟩ := performer_reserve reported
        refine ⟨?_, fun missing => absurd missing bound⟩
        rw [fresh unbound, Nat.zero_add]
        simp [orderPermits]
    | _ => simp [orderPermits] at grants

/-- In every interleaving of any calls, over any database and with any brokers
and faults, `place_order` is called at most once under each idempotency key. -/
theorem placeOrder_at_most_once (calls : List (ExecutionAgent × ExecuteCall))
    (schedule : List (ℕ × Environment)) (database : Database) (idempotencyKey : String) :
    ((Pool.start (calls.map fun entry => (entry.1.execute entry.2).run) database).run
      performer schedule).events.countP (placesOrder idempotencyKey) ≤ 1 := by
  have permitted : ∀ thread ∈ calls.map fun entry => (entry.1.execute entry.2).run,
      Program.Permitted (orderPermits idempotencyKey) 0 thread := by
    intro thread member
    obtain ⟨entry, -, rfl⟩ := List.mem_map.mp member
    exact execute_permitted idempotencyKey entry.1 entry.2
  have once := Pool.run_preserves
    (fun environment operation database events
      (once : ReservedOnce idempotencyKey database events) =>
      once.step environment operation) schedule
    (Pool.start (calls.map fun entry => (entry.1.execute entry.2).run) database)
    ⟨Nat.zero_le _, fun _ => rfl⟩
  rw [← used_eq_countP]
  exact (Pool.uses_le_grants performer schedule database permitted).trans once.1

end AlphaAgent.Execution
