import AlphaAgent.Execution.Outcome
import AlphaAgent.Risk.Rulebook

/-!
# The two safety layers agree

The risk engine and the execution agent guard an order independently of each
other. `PreTradeClear` states what the pre-trade checks demand of the inputs,
and `validatePreTrade_eq_ok` shows that they demand nothing else. An approval
in a live-capable mode satisfies the rulebook, and the rulebook satisfies every
demand which is not about the names an intent carries.
-/

namespace AlphaAgent.Execution

open Risk

/-- What the pre-trade checks demand. -/
structure PreTradeClear (settings : Settings) (intent : OrderIntent) (riskDecision : RiskDecision)
    (brokerHealth : BrokerHealth) (complianceStatus : Option ComplianceStatus)
    (state : SystemStateSnapshot) : Prop where
  named : intent.riskDecisionId = some riskDecision.id
  nameGiven : riskDecision.id ≠ ""
  approved : riskDecision.isApprovedForExecution = true
  liveCapable : state.tradingMode.isLiveCapable = true
  liveTradingEnabled : state.liveTradingEnabled = true
  liveOrdersEnabled : settings.liveOrdersEnabled = true
  killSwitchOff : state.killSwitch = false
  brokerMarket : brokerHealth.market = intent.market
  brokerHealthy : brokerHealth.isHealthyForLive = true
  compliance : intent.market = .india →
    ∃ status, complianceStatus = some status ∧ status.approved = true ∧ status.market = .india
  keyed : intent.idempotencyKey ≠ ""

section Checks

variable {settings : Settings} {intent : OrderIntent} {riskDecision : RiskDecision}
  {brokerHealth : BrokerHealth} {complianceStatus : Option ComplianceStatus}
  {state : SystemStateSnapshot}

theorem rejectWhen_eq_ok {failed : Bool} {message : String} :
    rejectWhen failed message = .ok () ↔ failed = false := by
  cases failed <;> simp [rejectWhen]

/-- A chain of checks passes when its first check and the rest of it pass. -/
theorem checks_eq_ok {first rest : Except RaisedError Unit} :
    (first >>= fun _ => rest) = .ok () ↔ first = .ok () ∧ rest = .ok () := by
  cases first <;> simp [bind, Except.bind]

theorem isGiven_iff {value : Option String} :
    isGiven value = true ↔ ∃ given, value = some given ∧ given ≠ "" := by
  cases value <;> simp [isGiven]

/-- Compliance is demanded of an intent for India alone. -/
theorem validateCompliance_eq_ok : validateCompliance intent complianceStatus = .ok () ↔
    (intent.market = .india →
      ∃ status, complianceStatus = some status ∧ status.approved = true ∧
        status.market = .india) := by
  unfold validateCompliance
  by_cases india : intent.market = .india
  · rw [if_pos india, checks_eq_ok, rejectWhen_eq_ok, rejectWhen_eq_ok]
    cases complianceStatus with
    | none => simp [india]
    | some status => simp [india]
  · rw [if_neg india]
    simp [india]

/-- The pre-trade checks pass exactly when what they demand holds. -/
theorem validatePreTrade_eq_ok :
    validatePreTrade settings intent riskDecision brokerHealth complianceStatus state = .ok () ↔
      PreTradeClear settings intent riskDecision brokerHealth complianceStatus state := by
  unfold validatePreTrade
  simp only [checks_eq_ok, rejectWhen_eq_ok, validateCompliance_eq_ok, Bool.not_eq_false',
    isGiven_iff, decide_eq_false_iff_not, ne_eq, not_not]
  constructor
  · rintro ⟨⟨given, same, nonempty⟩, named, approved, liveCapable, liveTradingEnabled,
      liveOrdersEnabled, killSwitchOff, brokerMarket, brokerHealthy, compliance, keyed⟩
    have known : given = riskDecision.id := Option.some.inj (same ▸ named)
    exact ⟨named, known ▸ nonempty, approved, liveCapable, liveTradingEnabled, liveOrdersEnabled,
      killSwitchOff, brokerMarket, brokerHealthy, compliance, keyed⟩
  · intro clear
    exact ⟨⟨riskDecision.id, clear.named, clear.nameGiven⟩, clear.named, clear.approved,
      clear.liveCapable, clear.liveTradingEnabled, clear.liveOrdersEnabled, clear.killSwitchOff,
      clear.brokerMarket, clear.brokerHealthy, clear.compliance, clear.keyed⟩

end Checks

/-- An approval in a live-capable mode passes the pre-trade checks of every
agent with live orders, for every intent which names its market, carries its id
and has a key. The settings of the agent need not be those of the engine. -/
theorem validatePreTrade_of_approved {settings agentSettings : Settings} {utcNow : ℤ} {id : String}
    {input : EvaluateInput} {decision : RiskDecision} {brokerHealth : BrokerHealth}
    {intent : OrderIntent} (returned : evaluate settings utcNow id input = .ok decision)
    (approved : decision.decision = .approved)
    (liveCapable : (input.state settings).tradingMode.isLiveCapable = true)
    (known : input.brokerHealth = some brokerHealth)
    (liveOrders : agentSettings.liveOrdersEnabled = true)
    (market : intent.market = input.candidate.market)
    (named : intent.riskDecisionId = some decision.id) (identified : decision.id ≠ "")
    (keyed : intent.idempotencyKey ≠ "") :
    validatePreTrade agentSettings intent decision brokerHealth input.complianceStatus
      (input.state settings) = .ok () := by
  have rulebook := Rulebook.of_approved returned approved
  obtain ⟨health, same, brokerMarket, authStatus, accountStatus, tradingEnabled, reconciled⟩ :=
    rulebook.broker
  obtain rfl : health = brokerHealth := Option.some.inj (same ▸ known)
  have admitted : decision.isApprovedForExecution = true := by
    simp [RiskDecision.isApprovedForExecution, approved]
  have healthy : health.isHealthyForLive = true := by
    simp [BrokerHealth.isHealthyForLive, authStatus, accountStatus, tradingEnabled, reconciled]
  have compliance : intent.market = .india → ∃ status, input.complianceStatus = some status ∧
      status.approved = true ∧ status.market = .india := by
    intro india
    obtain ⟨status, present, serves, cleared⟩ :=
      rulebook.indiaCompliance liveCapable (market ▸ india)
    exact ⟨status, present, cleared, serves⟩
  exact validatePreTrade_eq_ok.mpr
    { named, nameGiven := identified, approved := admitted, liveCapable,
      liveTradingEnabled := rulebook.liveTradingEnabled liveCapable
      liveOrdersEnabled := liveOrders, killSwitchOff := rulebook.killSwitchOff
      brokerMarket := brokerMarket.trans market.symm, brokerHealthy := healthy, compliance, keyed }

/-- The agent admits an order of 500 shares under `relianceDecision`. -/
theorem validatePreTrade_relianceDecision :
    ∃ brokerHealth, relianceBuy.brokerHealth = some brokerHealth ∧
      validatePreTrade liveSettings (relianceCall ⟨500, by decide⟩ "idem-1").intent
        relianceDecision brokerHealth relianceBuy.complianceStatus
        (relianceBuy.state liveSettings) = .ok () :=
  ⟨_, rfl, validatePreTrade_of_approved evaluate_relianceBuy rfl rfl rfl rfl rfl rfl
    (by decide) (by decide)⟩

end AlphaAgent.Execution
