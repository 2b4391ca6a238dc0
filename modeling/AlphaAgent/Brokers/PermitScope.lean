import AlphaAgent.Brokers.Adapters
import AlphaAgent.Execution.Outcome

/-!
# What a permit authorises

`validate_for` compares the idempotency key, the risk decision, the broker and
the market of an intent with those of its permit, and nothing else of the order.
`permitScope_iff` says exactly when a permit issued for one intent authorises
only this intent: the intents which pass the guards have its terms as well.
-/

namespace AlphaAgent.Brokers

open Foundation

/-- The terms of an order, which no permit holds. -/
structure SameTerms (first second : OrderIntent) : Prop where
  symbol : second.symbol = first.symbol
  side : second.side = first.side
  quantity : second.quantity = first.quantity
  orderType : second.orderType = first.orderType
  limitPrice : second.limitPrice = first.limitPrice

/-- What a permit holds of the intent for which it was issued. -/
structure SameScope (first second : OrderIntent) : Prop where
  idempotencyKey : second.idempotencyKey = first.idempotencyKey
  riskDecisionId : second.riskDecisionId = first.riskDecisionId
  broker : second.broker = first.broker
  market : second.market = first.market

/-- The call of `place_order` reaches its HTTP request. -/
def Posts (adapter : Adapter) (str : Json → String) (issuerToken : String) (now : ℤ)
    (post : OrderRequest → Shadow.HttpResult) (orderIntent : OrderIntent)
    (executionContext : Option BrokerExecutionContext) : Prop :=
  ((adapter.placeOrder str issuerToken now post orderIntent executionContext).run []).2 ≠ []

/-- The guards of an adapter which do not depend on the terms of the order: the
permit has not expired, the intent is in its scope and in the adapter's, and the
adapter has its credentials. -/
structure PassesGuards (adapter : Adapter) (issuedFor orderIntent : OrderIntent)
    (now expiresAt : ℤ) : Prop where
  unexpired : now ≤ expiresAt
  scope : SameScope issuedFor orderIntent
  broker : orderIntent.broker = adapter.brokerName
  market : orderIntent.market = adapter.market
  credentials : ∃ headers, adapter.headers = .ok headers

section Guards

variable {adapter : Adapter} {str : Json → String} {issuerToken executionId : String}
  {issuedAt ttlSeconds now : ℤ} {post : OrderRequest → Shadow.HttpResult}
  {issuedFor orderIntent : OrderIntent} {context : BrokerExecutionContext}

/-- A permit is what its intent, the clock and the lifetime make it. -/
theorem issueBrokerExecutionContext_ok
    (issued : issueBrokerExecutionContext issuerToken executionId issuedAt ttlSeconds issuedFor =
      .ok context) :
    context.issuerToken = issuerToken ∧ context.idempotencyKey = issuedFor.idempotencyKey ∧
      issuedFor.riskDecisionId = some context.riskDecisionId ∧ context.broker = issuedFor.broker ∧
      context.market = issuedFor.market ∧ context.expiresAt = issuedAt + ttlSeconds * 1000000 := by
  unfold issueBrokerExecutionContext at issued
  split at issued
  · cases issued
  · next riskDecisionId found =>
    rw [← Except.ok.inj issued]
    exact ⟨rfl, rfl, (Option.filter_eq_some_iff.mp found).1, rfl, rfl, rfl⟩

/-- A permit is valid for the intents of its scope until it expires. -/
theorem validateFor_eq_ok_iff
    (issued : issueBrokerExecutionContext issuerToken executionId issuedAt ttlSeconds issuedFor =
      .ok context) (brokerName : BrokerName) :
    validateFor issuerToken now context orderIntent brokerName = .ok () ↔
      now ≤ issuedAt + ttlSeconds * 1000000 ∧ SameScope issuedFor orderIntent ∧
        orderIntent.broker = brokerName := by
  obtain ⟨token, key, decision, broker, market, expiry⟩ := issueBrokerExecutionContext_ok issued
  simp only [validateFor, failWhen_bind_eq_ok, failWhen_eq_ok, ne_eq, decide_not,
    Bool.not_eq_false', decide_eq_true_eq, decide_eq_false_iff_not, gt_iff_lt, not_lt]
  rw [token, key, broker, market, expiry, ← decision]
  constructor
  · rintro ⟨-, unexpired, sameKey, sameDecision, sameBroker, adapterBroker, sameMarket⟩
    exact ⟨unexpired, ⟨sameKey.symm, sameDecision.symm, sameBroker.symm, sameMarket.symm⟩,
      sameBroker.symm.trans adapterBroker⟩
  · rintro ⟨unexpired, scope, adapterBroker⟩
    exact ⟨rfl, unexpired, scope.idempotencyKey.symm, scope.riskDecisionId.symm,
      scope.broker.symm, scope.broker.symm.trans adapterBroker, scope.market.symm⟩

/-- A request is posted exactly when it could be made. -/
theorem posts_iff_orderRequest {executionContext : Option BrokerExecutionContext} :
    Posts adapter str issuerToken now post orderIntent executionContext ↔
      ∃ request, adapter.orderRequest issuerToken now orderIntent executionContext =
        .ok request := by
  unfold Posts Adapter.placeOrder
  rw [Fallible.run_bind, Fallible.run_ofExcept]
  cases adapter.orderRequest issuerToken now orderIntent executionContext with
  | error raised => simp
  | ok request =>
    dsimp only
    rw [Fallible.run_bind, Fallible.run_modify]
    simp

/-- An order is posted under a permit exactly when it passes the guards, whatever its terms. -/
theorem posts_iff
    (issued : issueBrokerExecutionContext issuerToken executionId issuedAt ttlSeconds issuedFor =
      .ok context) :
    Posts adapter str issuerToken now post orderIntent (some context) ↔
      PassesGuards adapter issuedFor orderIntent now (issuedAt + ttlSeconds * 1000000) := by
  have supported : ¬(orderIntent.orderType ≠ .market ∧ orderIntent.orderType ≠ .limit) := by
    cases orderIntent.orderType <;> simp
  rw [posts_iff_orderRequest]
  unfold Adapter.orderRequest Adapter.validateExecutionContext
  constructor
  · rintro ⟨request, made⟩
    obtain ⟨_, validated, checked⟩ := Fallible.except_bind_ok made
    obtain ⟨unexpired, scope, broker⟩ := (validateFor_eq_ok_iff issued _).mp validated
    rw [failWhen_bind_eq_ok, failWhen_bind_eq_ok, failWhen_bind_eq_ok] at checked
    obtain ⟨-, market, -, requested⟩ := checked
    obtain ⟨headers, given, -⟩ := Fallible.except_bind_ok requested
    exact ⟨unexpired, scope, broker, by simpa using market, headers, given⟩
  · rintro ⟨unexpired, scope, broker, market, headers, given⟩
    refine ⟨⟨adapter.url, headers, adapter.payload orderIntent⟩, ?_⟩
    have validated := (validateFor_eq_ok_iff issued adapter.brokerName).mpr
      ⟨unexpired, scope, broker⟩
    simp only [validated, bind, Except.bind, broker, market, supported, given, failWhen, ne_eq,
      not_true_eq_false, decide_false, Bool.false_eq_true, if_false]
    rfl

end Guards

/-- A permit authorises only the intent for which it was issued exactly when every
intent which passes the guards has its terms. -/
theorem permitScope_iff (adapter : Adapter) (str : Json → String)
    (issuerToken executionId : String) (issuedAt ttlSeconds now : ℤ)
    (post : OrderRequest → Shadow.HttpResult) (issuedFor orderIntent : OrderIntent)
    (context : BrokerExecutionContext)
    (issued : issueBrokerExecutionContext issuerToken executionId issuedAt ttlSeconds issuedFor =
      .ok context) :
    (Posts adapter str issuerToken now post orderIntent (some context) →
        SameTerms issuedFor orderIntent ∧ SameScope issuedFor orderIntent) ↔
      (PassesGuards adapter issuedFor orderIntent now (issuedAt + ttlSeconds * 1000000) →
        SameTerms issuedFor orderIntent) := by
  rw [posts_iff issued]
  constructor
  · exact fun authorised passes => (authorised passes).1
  · exact fun terms passes => ⟨terms passes, passes.scope⟩

section Reuse

/-- An approved order to buy, and an order to sell another symbol under its key. -/
def approvedIntent : OrderIntent := (Execution.relianceCall ⟨25, by norm_num⟩ "idem-1").intent

def swappedIntent : OrderIntent :=
  { approvedIntent with
    symbol := "TCS"
    side := .sell
    quantity := ⟨1000, by norm_num⟩
    orderType := .market
    limitPrice := none }

/-- A Zerodha adapter with its credentials; its answers are not read here. -/
def zerodhaAdapter : Adapter :=
  zerodhaBroker (fun _ => "") ⟨"api-key", "api-secret", some "access-token"⟩

def unanswered (_ : OrderRequest) : Shadow.HttpResult := .failed .readTimeout "timed out"

def approvedContext : BrokerExecutionContext where
  executionId := "execution-1"
  idempotencyKey := "idem-1"
  riskDecisionId := "risk-1"
  broker := .zerodha
  market := .india
  issuedAt := 0
  expiresAt := 30 * 1000000
  issuerToken := "issuer-token"

/-- The equivalence at the permit of the approved order and the other order. -/
theorem permitScope_iff_approved :
    (Posts zerodhaAdapter (fun _ => "") "issuer-token" 1 unanswered swappedIntent
        (some approvedContext) →
        SameTerms approvedIntent swappedIntent ∧ SameScope approvedIntent swappedIntent) ↔
      (PassesGuards zerodhaAdapter approvedIntent swappedIntent 1 (0 + 30 * 1000000) →
        SameTerms approvedIntent swappedIntent) :=
  permitScope_iff zerodhaAdapter (fun _ => "") "issuer-token" "execution-1" 0 30 1 unanswered
    approvedIntent swappedIntent approvedContext rfl

/-- The permit of an approved order to buy carries an order to sell another symbol
to the broker. -/
theorem permit_carries_other_order : ¬ ∀ (adapter : Adapter) (str : Json → String)
    (issuerToken executionId : String) (issuedAt ttlSeconds now : ℤ)
    (post : OrderRequest → Shadow.HttpResult) (issuedFor orderIntent : OrderIntent)
    (context : BrokerExecutionContext),
    issueBrokerExecutionContext issuerToken executionId issuedAt ttlSeconds issuedFor =
      .ok context →
    Posts adapter str issuerToken now post orderIntent (some context) →
      SameTerms issuedFor orderIntent ∧ SameScope issuedFor orderIntent := by
  intro authorises
  have posted : Posts zerodhaAdapter (fun _ => "") "issuer-token" 1 unanswered swappedIntent
      (some approvedContext) := by
    rw [posts_iff_orderRequest]
    exact ⟨_, rfl⟩
  obtain ⟨terms, -⟩ := authorises zerodhaAdapter (fun _ => "") "issuer-token" "execution-1" 0 30 1
    unanswered approvedIntent swappedIntent approvedContext rfl posted
  cases terms.side

end Reuse
end AlphaAgent.Brokers
