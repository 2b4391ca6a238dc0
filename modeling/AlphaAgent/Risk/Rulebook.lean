import AlphaAgent.Risk.RiskEngine

/-!
# The rulebook holds for every approval

`docs/risk_rulebook.md` lists what a trade must pass. `Rulebook` states the
same conditions on the inputs alone, and `evaluate_rulebook` shows that an
approval implies them. Each block of reasons has one lemma which says when the
block is empty; the theorem only puts them together.
-/

namespace AlphaAgent.Risk

/-- The conditions of the rulebook on the inputs of one evaluation. -/
structure Rulebook (settings : Settings) (utcNow : ℤ) (input : EvaluateInput) : Prop where
  killSwitchOff : (input.state settings).killSwitch = false
  liveTradingEnabled : (input.state settings).tradingMode.isLiveCapable = true →
    (input.state settings).liveTradingEnabled = true
  requiredFlags : (input.state settings).tradingMode.isLiveCapable = true →
    settings.realProviderRequired = true ∧ settings.brokerReconciliationRequired = true ∧
      settings.riskEngineRequired = true
  blockedFlags : (input.state settings).tradingMode.isLiveCapable = true →
    settings.allowDummyBroker = false ∧ settings.allowMockBroker = false ∧
      settings.allowFakeMarketData = false ∧ settings.allowFakeOrderFills = false ∧
      settings.allowMargin = false ∧ settings.allowShortSelling = false ∧
      settings.allowOptions = false ∧ settings.allowDerivatives = false ∧
      settings.allowCrypto = false ∧ settings.allowLeveragedEtfs = false
  indiaCompliance : (input.state settings).tradingMode.isLiveCapable = true →
    input.candidate.market = .india →
      ∃ status, input.complianceStatus = some status ∧ status.market = .india ∧
        status.approved = true
  broker : ∃ health, input.brokerHealth = some health ∧
    health.market = input.candidate.market ∧ health.authStatus = .valid ∧
      health.accountStatus = .active ∧ health.tradingEnabled = true ∧
      health.positionsReconciled = true
  providers : input.providers ≠ [] ∧ ∀ provider ∈ input.providers,
    provider.market = input.candidate.market ∧ provider.status = .ok ∧
      provider.freshnessStatus = .fresh
  calendar : ∃ status, input.marketCalendar = some status ∧
    status.market = input.candidate.market ∧ status.state = .open
  fx : input.candidate.market = .us → ∃ status rate, input.fxStatus = some status ∧
    status.rate = some rate ∧ status.isFresh utcNow = .ok true
  stopLoss : ∃ stopLoss, input.candidate.stopLoss = some stopLoss ∧
    stopLoss ≠ input.candidate.entryPrice
  dailyLoss : -input.portfolio.dailyPnlInr ≤
    input.portfolio.totalValueInr * (input.config settings).maxDailyLossPct
  weeklyLoss : -input.portfolio.weeklyPnlInr ≤
    input.portfolio.totalValueInr * (input.config settings).maxWeeklyLossPct
  monthlyDrawdown :
    input.portfolio.monthlyDrawdownPct.val ≤ (input.config settings).maxMonthlyDrawdownPct
  totalDrawdown :
    input.portfolio.totalDrawdownPct.val ≤ (input.config settings).maxTotalDrawdownPct
  cash : input.candidate.action = .buy → 0 < input.portfolio.cashInr.val
  openPositionsTotal : input.candidate.action = .buy →
    openPositionsTotal input.portfolio < (input.config settings).maxOpenPositionsTotal
  openPositionsIndia : input.candidate.action = .buy → input.candidate.market = .india →
    openPositionsMarket input.portfolio .india < (input.config settings).maxOpenPositionsIndia
  openPositionsUs : input.candidate.action = .buy → input.candidate.market = .us →
    openPositionsMarket input.portfolio .us < (input.config settings).maxOpenPositionsUs
  rewardRisk : (input.config settings).minRewardRiskRatio.val ≤ input.candidate.rewardRiskRatio

section Blocks

variable {settings : Settings} {state : SystemStateSnapshot} {market : Market}

theorem modeReasons_eq_nil : modeReasons settings state = [] ↔
    state.killSwitch = false ∧ (state.tradingMode.isLiveCapable = true →
      state.liveTradingEnabled = true ∧
      (settings.realProviderRequired = true ∧ settings.brokerReconciliationRequired = true ∧
        settings.riskEngineRequired = true) ∧
      ∀ flag ∈ blockedFlags settings, flag.2 = false) := by
  unfold modeReasons
  cases live : state.tradingMode.isLiveCapable <;> simp [and_assoc]

theorem complianceReasons_eq_nil {complianceStatus : Option ComplianceStatus} :
    complianceReasons market state complianceStatus = [] ↔
      (market = .india ∧ state.tradingMode.isLiveCapable = true →
        ∃ status, complianceStatus = some status ∧ status.market = market ∧
          status.approved = true) := by
  unfold complianceReasons
  split
  · next required =>
    obtain ⟨rfl, live⟩ := required
    cases complianceStatus with
    | none => simp [live]
    | some status =>
      by_cases serves : status.market = .india
      · cases approved : status.approved <;> simp [live, serves, approved]
      · simp [live, serves]
  · next exempt => simp [exempt]

theorem brokerReasons_eq_nil {brokerHealth : Option BrokerHealth} :
    brokerReasons market brokerHealth = [] ↔
      ∃ health, brokerHealth = some health ∧ health.market = market ∧
        health.authStatus = .valid ∧ health.accountStatus = .active ∧
        health.tradingEnabled = true ∧ health.positionsReconciled = true := by
  unfold brokerReasons
  cases brokerHealth with
  | none => simp
  | some health =>
    by_cases credentials : health.authStatus = .missingCredentials
    · simp [credentials]
    · simp [credentials]

theorem calendarReasons_eq_nil {marketCalendar : Option MarketCalendarStatus} :
    calendarReasons market marketCalendar = [] ↔
      ∃ status, marketCalendar = some status ∧ status.market = market ∧ status.state = .open := by
  unfold calendarReasons
  cases marketCalendar with
  | none => simp
  | some status =>
    by_cases serves : status.market = market
    · simp [serves, MarketCalendarStatus.isOpen]
    · simp [serves]

private theorem loss_le_of_pct_le {pnl total limit : ℚ} (positive : 0 < total)
    (bounded : ¬|min pnl 0| / total > limit) : -pnl ≤ total * limit := by
  have scaled : |min pnl 0| ≤ limit * total := (div_le_iff₀ positive).mp (not_lt.mp bounded)
  calc -pnl ≤ -min pnl 0 := neg_le_neg (min_le_left pnl 0)
    _ ≤ |min pnl 0| := neg_le_abs _
    _ ≤ limit * total := scaled
    _ = total * limit := mul_comm limit total

theorem drawdownReasons_eq_nil {portfolio : PortfolioSnapshot} {config : RiskConfig}
    (accepted : drawdownReasons portfolio config = []) :
    -portfolio.dailyPnlInr ≤ portfolio.totalValueInr * config.maxDailyLossPct ∧
      -portfolio.weeklyPnlInr ≤ portfolio.totalValueInr * config.maxWeeklyLossPct ∧
      portfolio.monthlyDrawdownPct.val ≤ config.maxMonthlyDrawdownPct ∧
      portfolio.totalDrawdownPct.val ≤ config.maxTotalDrawdownPct := by
  simp only [drawdownReasons, List.append_eq_nil_iff, rejectIf_eq_nil] at accepted
  obtain ⟨⟨⟨daily, weekly⟩, monthly⟩, total⟩ := accepted
  exact ⟨loss_le_of_pct_le portfolio.totalValueInr.2 daily,
    loss_le_of_pct_le portfolio.totalValueInr.2 weekly, not_lt.mp monthly, not_lt.mp total⟩

theorem stopLossRejectionReason_eq_none {candidate : TradeCandidate} {stopLoss : Positive}
    (stop : candidate.stopLoss = some stopLoss)
    (accepted : stopLossRejectionReason candidate = none) : stopLoss ≠ candidate.entryPrice := by
  rintro rfl
  simp [stopLossRejectionReason, stop] at accepted

theorem openPositionReasons_eq_nil {candidate : TradeCandidate} {portfolio : PortfolioSnapshot}
    {config : RiskConfig} (accepted : openPositionReasons candidate portfolio config = [])
    (buys : candidate.action = .buy) :
    openPositionsTotal portfolio < config.maxOpenPositionsTotal ∧
      (candidate.market = .india →
        openPositionsMarket portfolio .india < config.maxOpenPositionsIndia) ∧
      (candidate.market = .us →
        openPositionsMarket portfolio .us < config.maxOpenPositionsUs) := by
  simp only [openPositionReasons, buys, if_true, List.append_eq_nil_iff, rejectIf_eq_nil,
    not_and, not_le, ge_iff_le] at accepted
  obtain ⟨⟨total, india⟩, us⟩ := accepted
  exact ⟨total, fun serves => serves ▸ india serves, fun serves => serves ▸ us serves⟩

theorem rewardRiskRejectionReason_eq_none {candidate : TradeCandidate} {minimumRatio : ℚ} :
    rewardRiskRejectionReason candidate minimumRatio = none ↔
      minimumRatio ≤ candidate.rewardRiskRatio := by
  unfold rewardRiskRejectionReason
  split
  · next below => simpa using below
  · next enough => simpa using enough

end Blocks

/-- An approval implies every condition of the rulebook. -/
theorem Approval.rulebook {settings : Settings} {utcNow : ℤ} {input : EvaluateInput}
    {stopLoss fxRate : Positive} {sizing : Sizing}
    (approval : Approval settings utcNow input stopLoss fxRate sizing) :
    Rulebook settings utcNow input := by
  have guards := approval.guards
  simp only [guardReasons, List.append_eq_nil_iff, Option.toList_eq_nil_iff] at guards
  obtain ⟨⟨⟨⟨⟨⟨⟨⟨⟨⟨⟨mode, compliance⟩, broker⟩, providers⟩, calendar⟩, -⟩, stop⟩, drawdown⟩, -⟩, -⟩,
    rewardRisk⟩, positions⟩ := guards
  obtain ⟨killSwitchOff, live⟩ := modeReasons_eq_nil.mp mode
  obtain ⟨nonempty, healthy⟩ := providerFreshnessReasons_eq_nil.mp providers
  obtain ⟨daily, weekly, monthly, total⟩ := drawdownReasons_eq_nil drawdown
  have cash := approval.quantity
  simp only [quantityReasons, List.append_eq_nil_iff, rejectIf_eq_nil] at cash
  exact {
    killSwitchOff
    liveTradingEnabled := fun capable => (live capable).1
    requiredFlags := fun capable => (live capable).2.1
    blockedFlags := fun capable => by simpa [Risk.blockedFlags] using (live capable).2.2
    indiaCompliance := fun capable india => by
      have present := complianceReasons_eq_nil.mp compliance ⟨india, capable⟩
      rwa [india] at present
    broker := brokerReasons_eq_nil.mp broker
    providers := ⟨nonempty, fun provider member => by
      simpa [ProviderHealth.isHealthyForLive] using healthy provider member⟩
    calendar := calendarReasons_eq_nil.mp calendar
    fx := fun us => fxRejectionReason_us_eq_none (us ▸ approval.fx)
    stopLoss := ⟨stopLoss, approval.stop, stopLossRejectionReason_eq_none approval.stop stop⟩
    dailyLoss := daily
    weeklyLoss := weekly
    monthlyDrawdown := monthly
    totalDrawdown := total
    cash := fun buys => by simpa [buys] using cash.1
    openPositionsTotal := fun buys => (openPositionReasons_eq_nil positions buys).1
    openPositionsIndia := fun buys => (openPositionReasons_eq_nil positions buys).2.1
    openPositionsUs := fun buys => (openPositionReasons_eq_nil positions buys).2.2
    rewardRisk := rewardRiskRejectionReason_eq_none.mp rewardRisk }

/-- A returned decision which approves satisfies the rulebook. -/
theorem Rulebook.of_approved {settings : Settings} {utcNow : ℤ} {id : String}
    {input : EvaluateInput} {decision : RiskDecision}
    (returned : evaluate settings utcNow id input = .ok decision)
    (approved : decision.decision = .approved) : Rulebook settings utcNow input := by
  obtain ⟨stopLoss, fxRate, sizing, approval, -⟩ := exists_approval returned approved
  exact approval.rulebook

/-- Every approval satisfies the rulebook, and every rejection approves
nothing and names at least one reason. -/
theorem evaluate_rulebook {settings : Settings} {utcNow : ℤ} {id : String}
    {input : EvaluateInput} {decision : RiskDecision}
    (returned : evaluate settings utcNow id input = .ok decision) :
    (decision.decision = .approved → Rulebook settings utcNow input) ∧
      (decision.decision = .rejected → decision.approvedQuantity = 0 ∧
        decision.approvedCapital.val = 0 ∧ decision.approvedRisk.val = 0 ∧
        decision.rejectionReasons ≠ []) := by
  rcases evaluate_cases returned with
    noTrade | ⟨reasons, sizing, nonempty, rfl⟩ | ⟨stopLoss, fxRate, sizing, approval, rfl⟩
  · constructor <;> intro other <;> rw [noTrade] at other <;> cases other
  · refine ⟨fun other => ?_, fun _ => ⟨rfl, rfl, rfl, nonempty⟩⟩
    cases other
  · refine ⟨fun _ => approval.rulebook, fun other => ?_⟩
    cases other

theorem evaluate_rulebook_relianceBuy :
    evaluate liveSettings 0 "risk-1" relianceBuy = .ok relianceDecision ∧
      Rulebook liveSettings 0 relianceBuy :=
  ⟨evaluate_relianceBuy, (evaluate_rulebook evaluate_relianceBuy).1 rfl⟩

end AlphaAgent.Risk
