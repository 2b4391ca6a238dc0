import AlphaAgent.Risk.Checks
import AlphaAgent.Risk.PositionSizing
import AlphaAgent.Risk.QuoteQuality

/-!
# The risk engine

`RiskEngine.evaluate`. The source appends to one list of rejection reasons from
top to bottom; here each block of it is a definition and `guardReasons` appends
the blocks in source order. Sizing comes last and can raise. The decision id
and the clock reading are inputs.
-/

namespace AlphaAgent.Risk

/-- The `provider_health` argument: one status or a list of them. -/
inductive ProviderHealthInput where
  | single (health : ProviderHealth)
  | many (healths : List ProviderHealth)

def ProviderHealthInput.toList : ProviderHealthInput → List ProviderHealth
  | .single health => [health]
  | .many healths => healths

/-- The arguments of `evaluate`, with its defaults. -/
structure EvaluateInput where
  candidate : TradeCandidate
  portfolio : PortfolioSnapshot
  brokerHealth : Option BrokerHealth
  providerHealth : Option ProviderHealthInput
  marketCalendar : Option MarketCalendarStatus
  riskConfig : Option RiskConfig := none
  fxStatus : Option FXRateStatus := none
  complianceStatus : Option ComplianceStatus := none
  systemState : Option SystemStateSnapshot := none
  signalId : Option String := none
  quoteMetrics : Option QuoteMetrics := none

namespace EvaluateInput

def providers (input : EvaluateInput) : List ProviderHealth :=
  (input.providerHealth.map ProviderHealthInput.toList).getD []

/-- `risk_config or RiskConfig.from_settings(settings)`. -/
def config (input : EvaluateInput) (settings : Settings) : RiskConfig :=
  input.riskConfig.getD (.fromSettings settings)

/-- `system_state or SystemStateSnapshot.from_settings(settings)`. -/
def state (input : EvaluateInput) (settings : Settings) : SystemStateSnapshot :=
  input.systemState.getD (.fromSettings settings)

/-- The metrics with the FX rate filled in for a US candidate. -/
def normalizedQuoteMetrics (input : EvaluateInput) : Option QuoteMetrics :=
  match input.quoteMetrics, input.candidate.market, input.fxStatus with
  | some quoteMetrics, .us, some fxStatus =>
    if quoteMetrics.contains "fx_rate" then some quoteMetrics
    else some (quoteMetrics.set "fx_rate" (fxStatus.rate.map Subtype.val))
  | quoteMetrics, _, _ => quoteMetrics

end EvaluateInput

def requireQuoteMetrics (settings : Settings) (state : SystemStateSnapshot) : Bool :=
  (state.tradingMode = .liveAutonomous && settings.liveMarketQualityChecksRequired) ||
    (state.tradingMode = .microLiveAutonomous && settings.microLiveMarketQualityChecksRequired)

/-- The settings flags which no live-capable mode admits. -/
def blockedFlags (settings : Settings) : List (String × Bool) :=
  [("allow_dummy_broker", settings.allowDummyBroker),
    ("allow_mock_broker", settings.allowMockBroker),
    ("allow_fake_market_data", settings.allowFakeMarketData),
    ("allow_fake_order_fills", settings.allowFakeOrderFills),
    ("allow_margin", settings.allowMargin),
    ("allow_short_selling", settings.allowShortSelling),
    ("allow_options", settings.allowOptions),
    ("allow_derivatives", settings.allowDerivatives),
    ("allow_crypto", settings.allowCrypto),
    ("allow_leveraged_etfs", settings.allowLeveragedEtfs)]

def modeReasons (settings : Settings) (state : SystemStateSnapshot) : List String :=
  rejectIf state.killSwitch "kill_switch_enabled" ++
  rejectIf (state.tradingMode.isLiveCapable && !state.liveTradingEnabled)
    "live_trading_enabled_false" ++
  if state.tradingMode.isLiveCapable then
    rejectIf (!settings.realProviderRequired) "real_provider_required_false" ++
    rejectIf (!settings.brokerReconciliationRequired) "broker_reconciliation_required_false" ++
    rejectIf (!settings.riskEngineRequired) "risk_engine_required_false" ++
    ((blockedFlags settings).filter Prod.snd).map fun flag => flag.1 ++ "_true"
  else []

def complianceReasons (market : Market) (state : SystemStateSnapshot)
    (complianceStatus : Option ComplianceStatus) : List String :=
  if market = .india ∧ state.tradingMode.isLiveCapable then
    match complianceStatus with
    | none => ["india_compliance_status_missing"]
    | some status =>
      if status.market ≠ market then ["india_compliance_market_mismatch"]
      else if !status.approved then "india_compliance_not_approved" :: status.rejectionReasons
      else []
  else []

def brokerReasons (market : Market) (brokerHealth : Option BrokerHealth) : List String :=
  match brokerHealth with
  | none => ["broker_health_missing"]
  | some health =>
    rejectIf (health.market ≠ market) "broker_market_mismatch" ++
    (if health.authStatus = .missingCredentials then ["broker_credentials_missing"]
      else rejectIf (health.authStatus ≠ .valid) "broker_session_invalid") ++
    rejectIf (health.accountStatus ≠ .active) "broker_account_not_active" ++
    rejectIf (!health.tradingEnabled) "broker_trading_disabled" ++
    rejectIf (!health.positionsReconciled) "portfolio_reconciliation_required"

def calendarReasons (market : Market) (marketCalendar : Option MarketCalendarStatus) :
    List String :=
  match marketCalendar with
  | none => ["market_calendar_status_missing"]
  | some status =>
    if status.market ≠ market then ["market_calendar_market_mismatch"]
    else rejectIf (!status.isOpen) "market_closed"

def openPositionsTotal (portfolio : PortfolioSnapshot) : ℕ :=
  (portfolio.positions.filter fun position => position.quantity > 0).length

def openPositionsMarket (portfolio : PortfolioSnapshot) (market : Market) : ℕ :=
  (portfolio.positions.filter fun position =>
    position.quantity > 0 ∧ position.market = market).length

def openPositionReasons (candidate : TradeCandidate) (portfolio : PortfolioSnapshot)
    (config : RiskConfig) : List String :=
  if candidate.action = .buy then
    rejectIf (openPositionsTotal portfolio ≥ config.maxOpenPositionsTotal)
      "max_open_positions_total_exceeded" ++
    rejectIf (candidate.market = .india ∧
        openPositionsMarket portfolio candidate.market ≥ config.maxOpenPositionsIndia)
      "max_open_positions_india_exceeded" ++
    rejectIf (candidate.market = .us ∧
        openPositionsMarket portfolio candidate.market ≥ config.maxOpenPositionsUs)
      "max_open_positions_us_exceeded"
  else []

/-- Every reason which does not come from sizing, in source order. -/
def guardReasons (settings : Settings) (input : EvaluateInput) (fxReason : Option String) :
    List String :=
  let candidate := input.candidate
  let config := input.config settings
  let state := input.state settings
  modeReasons settings state ++
  complianceReasons candidate.market state input.complianceStatus ++
  brokerReasons candidate.market input.brokerHealth ++
  providerFreshnessReasons input.providers (some candidate.market) ++
  calendarReasons candidate.market input.marketCalendar ++
  fxReason.toList ++
  (stopLossRejectionReason candidate).toList ++
  drawdownReasons input.portfolio config ++
  (liquidityRejectionReason candidate settings input.normalizedQuoteMetrics
    (requireQuoteMetrics settings state)).toList ++
  (slippageRejectionReason candidate settings input.normalizedQuoteMetrics
    (requireQuoteMetrics settings state)).toList ++
  (rewardRiskRejectionReason candidate config.minRewardRiskRatio).toList ++
  openPositionReasons candidate input.portfolio config

/-- What sizing adds to the decision. -/
structure Sizing where
  approvedQuantity : ℕ := 0
  approvedCapital : NonNegative := NonNegative.zero
  approvedRisk : NonNegative := NonNegative.zero
  reasons : List String := []
  metrics : RiskMetrics

/-- The INR rate of the candidate's prices. A US candidate with an FX status
whose rate is missing multiplies a price by `None`, which raises. -/
def fxRateUsed (candidate : TradeCandidate) (fxStatus : Option FXRateStatus) :
    Except RaisedError Positive :=
  match candidate.market, fxStatus with
  | .us, some status =>
    match status.rate with
    | some rate => .ok rate
    | none => .error (.typeError "unsupported operand type(s) for *: 'float' and 'NoneType'")
  | _, _ => .ok ⟨1, one_pos⟩

/-- The approved quantity of a sized order; a SELL is cut to what is held. -/
def approvedQuantity (candidate : TradeCandidate) (portfolio : PortfolioSnapshot)
    (capped : ℕ) : ℕ :=
  if candidate.action = .sell then
    min capped (existingLongQuantity candidate portfolio.positions)
  else capped

/-- Size an order with a stop, at prices in INR. -/
def sizeOrder (candidate : TradeCandidate) (portfolio : PortfolioSnapshot) (config : RiskConfig)
    (fxRate stopLoss : Positive) : Sizing :=
  let entryPriceInr := candidate.entryPrice.val * fxRate
  let stopLossInr := stopLoss.val * fxRate
  let quantityByRisk := calculateQuantityByRisk portfolio.totalValueInr entryPriceInr stopLossInr
    config.maxRiskPerTradePct
  let sized := capQuantity candidate portfolio config quantityByRisk (some entryPriceInr)
  let quantity := approvedQuantity candidate portfolio sized.1
  let capital : NonNegative := ⟨quantity * entryPriceInr,
    mul_nonneg (Nat.cast_nonneg quantity) (mul_pos candidate.entryPrice.2 fxRate.2).le⟩
  { approvedQuantity := quantity
    approvedCapital := capital
    approvedRisk := ⟨quantity * |entryPriceInr - stopLossInr|,
      mul_nonneg (Nat.cast_nonneg quantity) (abs_nonneg _)⟩
    reasons := (longOnlyRejectionReason candidate quantity portfolio.positions).toList ++
      exposureReasons candidate.market portfolio config
        (if candidate.action = .buy then capital.val else 0)
    metrics := ("fx_rate_used", .number fxRate) :: sized.2 }

def size (candidate : TradeCandidate) (portfolio : PortfolioSnapshot) (config : RiskConfig)
    (fxStatus : Option FXRateStatus) : Except RaisedError Sizing :=
  match candidate.stopLoss with
  | none => .ok { metrics := [("quantity_by_risk", .number 0)] }
  | some stopLoss => do
    let fxRate ← fxRateUsed candidate fxStatus
    return sizeOrder candidate portfolio config fxRate stopLoss

def baseMetrics (settings : Settings) (input : EvaluateInput) : RiskMetrics :=
  let state := input.state settings
  [("trading_mode", .text state.tradingMode.value),
    ("shadow_or_backtest", .flag !state.tradingMode.isLiveCapable),
    ("quote_metrics_required", .flag (requireQuoteMetrics settings state)),
    ("quote_metrics_present", .flag input.normalizedQuoteMetrics.isSome)]

/-- The two reasons which depend on the sized quantity. -/
def quantityReasons (candidate : TradeCandidate) (portfolio : PortfolioSnapshot)
    (quantity : ℕ) : List String :=
  rejectIf (candidate.action = .buy ∧ portfolio.cashInr.val ≤ 0) "cash_unavailable" ++
  rejectIf (quantity = 0 ∧ stopLossRejectionReason candidate = none) "position_size_zero"

/-- All reasons against a sized order, in source order. -/
def rejectionReasons (settings : Settings) (input : EvaluateInput) (fxReason : Option String)
    (sizing : Sizing) : List String :=
  guardReasons settings input fxReason ++ sizing.reasons ++
    quantityReasons input.candidate input.portfolio sizing.approvedQuantity

def rejectedDecision (settings : Settings) (id : String) (input : EvaluateInput)
    (reasons : List String) (sizing : Sizing) : RiskDecision where
  id := id
  signalId := input.signalId
  decision := .rejected
  rejectionReasons := reasons
  requiredActions := ["resolve_risk_rejections"]
  riskMetrics := baseMetrics settings input ++ sizing.metrics

def approvedDecision (settings : Settings) (id : String) (input : EvaluateInput)
    (sizing : Sizing) : RiskDecision where
  id := id
  signalId := input.signalId
  decision := .approved
  approvedQuantity := sizing.approvedQuantity
  approvedCapital := sizing.approvedCapital
  approvedRisk := sizing.approvedRisk
  riskMetrics := baseMetrics settings input ++ sizing.metrics

/-- The decision for a sized order: rejected with every reason once, else approved. -/
def conclude (settings : Settings) (id : String) (input : EvaluateInput)
    (fxReason : Option String) (sizing : Sizing) : RiskDecision :=
  let dedupedRejections := (rejectionReasons settings input fxReason sizing).eraseDups
  if dedupedRejections ≠ [] then
    rejectedDecision settings id input dedupedRejections sizing
  else approvedDecision settings id input sizing

def evaluate (settings : Settings) (utcNow : ℤ) (id : String) (input : EvaluateInput) :
    Except RaisedError RiskDecision :=
  if input.candidate.action = .hold ∨ input.candidate.action = .noTrade then
    .ok { id
          signalId := input.signalId
          decision := .noTrade
          requiredActions := ["no_trade_requested"] }
  else do
    let fxReason ← fxRejectionReason input.candidate.market input.fxStatus utcNow
    let sizing ← size input.candidate input.portfolio (input.config settings) input.fxStatus
    return conclude settings id input fxReason sizing

/-- The two shapes of a decision on a sized order: rejected for at least one
reason, or approved as sized because no list of reasons has an entry. -/
theorem conclude_cases (settings : Settings) (id : String) (input : EvaluateInput)
    (fxReason : Option String) (sizing : Sizing) :
    (∃ reasons, reasons ≠ [] ∧ conclude settings id input fxReason sizing =
        rejectedDecision settings id input reasons sizing) ∨
      (conclude settings id input fxReason sizing = approvedDecision settings id input sizing ∧
        guardReasons settings input fxReason = [] ∧ sizing.reasons = [] ∧
        quantityReasons input.candidate input.portfolio sizing.approvedQuantity = []) := by
  by_cases accepted : (rejectionReasons settings input fxReason sizing).eraseDups = []
  · right
    have approved : conclude settings id input fxReason sizing =
        approvedDecision settings id input sizing := by
      simp only [conclude, accepted, ne_eq, not_true_eq_false, if_false]
    rw [eraseDups_eq_nil, rejectionReasons, List.append_eq_nil_iff, List.append_eq_nil_iff]
      at accepted
    exact ⟨approved, accepted.1.1, accepted.1.2, accepted.2⟩
  · left
    refine ⟨(rejectionReasons settings input fxReason sizing).eraseDups, accepted, ?_⟩
    simp only [conclude, ne_eq, accepted, not_false_eq_true, if_true]

/-- What an approval was computed from: a candidate with a stop, sized at an
INR rate, against which no list of reasons has an entry. -/
structure Approval (settings : Settings) (utcNow : ℤ) (input : EvaluateInput)
    (stopLoss fxRate : Positive) (sizing : Sizing) : Prop where
  tradeAction : input.candidate.action = .buy ∨ input.candidate.action = .sell
  stop : input.candidate.stopLoss = some stopLoss
  rate : fxRateUsed input.candidate input.fxStatus = .ok fxRate
  sized : sizing = sizeOrder input.candidate input.portfolio (input.config settings) fxRate stopLoss
  fx : fxRejectionReason input.candidate.market input.fxStatus utcNow = .ok none
  guards : guardReasons settings input none = []
  sizingReasons : sizing.reasons = []
  quantity : quantityReasons input.candidate input.portfolio sizing.approvedQuantity = []

/-- The four ways in which `evaluate` returns: no trade, rejected, and approved. -/
theorem evaluate_cases {settings : Settings} {utcNow : ℤ} {id : String} {input : EvaluateInput}
    {decision : RiskDecision} (returned : evaluate settings utcNow id input = .ok decision) :
    decision.decision = .noTrade ∨
      (∃ reasons sizing, reasons ≠ [] ∧
        decision = rejectedDecision settings id input reasons sizing) ∨
      ∃ stopLoss fxRate sizing, Approval settings utcNow input stopLoss fxRate sizing ∧
        decision = approvedDecision settings id input sizing := by
  unfold evaluate at returned
  split at returned
  · left
    rw [← Except.ok.inj returned]
  · next trades =>
    right
    cases fx : fxRejectionReason input.candidate.market input.fxStatus utcNow with
    | error raised => simp [fx, bind, Except.bind] at returned
    | ok fxReason =>
      cases sized : size input.candidate input.portfolio (input.config settings)
          input.fxStatus with
      | error raised => simp [fx, sized, bind, Except.bind] at returned
      | ok sizing =>
        simp only [fx, sized, bind, Except.bind, pure, Except.pure, Except.ok.injEq] at returned
        rcases conclude_cases settings id input fxReason sizing with
          ⟨reasons, nonempty, rejected⟩ | ⟨approved, guards, sizingReasons, quantity⟩
        · exact .inl ⟨reasons, sizing, nonempty, returned ▸ rejected⟩
        · right
          have noFxReason : fxReason = none := by
            simp only [guardReasons, List.append_eq_nil_iff] at guards
            simpa using guards.1.1.1.1.1.1.2
          have acts : input.candidate.action = .buy ∨ input.candidate.action = .sell := by
            cases action : input.candidate.action <;> simp_all
          cases stop : input.candidate.stopLoss with
          | none =>
            -- A missing stop is itself a reason.
            simp only [guardReasons, List.append_eq_nil_iff] at guards
            have accepted := guards.1.1.1.1.1.2
            simp [stopLossRejectionReason, stop, acts] at accepted
          | some stopLoss =>
            rw [size, stop] at sized
            cases rate : fxRateUsed input.candidate input.fxStatus with
            | error raised => simp [rate, bind, Except.bind] at sized
            | ok fxRate =>
              simp only [rate, bind, Except.bind, pure, Except.pure, Except.ok.injEq] at sized
              subst noFxReason
              exact ⟨stopLoss, fxRate, sizing,
                ⟨acts, stop, rate, sized.symm, fx, guards, sizingReasons, quantity⟩,
                returned ▸ approved⟩

/-- A returned decision which approves was computed from an approval. -/
theorem exists_approval {settings : Settings} {utcNow : ℤ} {id : String} {input : EvaluateInput}
    {decision : RiskDecision} (returned : evaluate settings utcNow id input = .ok decision)
    (approved : decision.decision = .approved) :
    ∃ stopLoss fxRate sizing, Approval settings utcNow input stopLoss fxRate sizing ∧
      decision = approvedDecision settings id input sizing := by
  rcases evaluate_cases returned with noTrade | ⟨reasons, sizing, -, rfl⟩ | approval
  · rw [noTrade] at approved
    cases approved
  · cases approved
  · exact approval

/-- The default settings with live orders enabled. -/
def liveSettings : Settings := { Settings.default with liveOrdersEnabled := true }

/-- A BUY of RELIANCE at 100 with its stop at 90, in a live-capable mode, from
one million in cash and with every status in order. -/
def relianceBuy : EvaluateInput where
  candidate :=
    { market := .india
      symbol := "RELIANCE"
      assetClass := .equity
      action := .buy
      entryPrice := ⟨100, by norm_num⟩
      stopLoss := some ⟨90, by norm_num⟩
      takeProfit := some ⟨125, by norm_num⟩
      rewardRiskRatio := ⟨5 / 2, by norm_num⟩ }
  portfolio := { totalValueInr := ⟨1000000, by norm_num⟩, cashInr := ⟨1000000, by norm_num⟩ }
  brokerHealth := some
    { market := .india
      authStatus := .valid
      accountStatus := .active
      tradingEnabled := true
      positionsReconciled := true }
  providerHealth := some (.single
    { providerName := "ZERODHA_KITE"
      market := .india
      status := .ok
      freshnessStatus := .fresh })
  marketCalendar := some { market := .india, state := .open }
  complianceStatus := some
    { market := .india
      strategyRegistrationStatus := .approved
      brokerApprovalStatus := .approved
      exchangeAlgoIdentifier := "EXCHANGE-ALGO-ID"
      canPlaceLiveOrders := true }
  systemState := some
    { tradingMode := .microLiveAutonomous
      liveTradingEnabled := true
      killSwitch := false }
  signalId := some "signal-1"

/-- The decision on `relianceBuy` under `liveSettings`: 500 shares. -/
def relianceDecision : RiskDecision :=
  approvedDecision liveSettings "risk-1" relianceBuy
    (sizeOrder relianceBuy.candidate relianceBuy.portfolio (relianceBuy.config liveSettings)
      ⟨1, by norm_num⟩ ⟨90, by norm_num⟩)

theorem evaluate_relianceBuy :
    evaluate liveSettings 0 "risk-1" relianceBuy = .ok relianceDecision := by
  decide +kernel

theorem relianceDecision_approvedQuantity : relianceDecision.approvedQuantity = 500 := by
  decide +kernel

end AlphaAgent.Risk
