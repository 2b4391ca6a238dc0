import AlphaAgent.Core.Config

/-!
# Status inputs of the risk and execution checks

Broker, provider, FX, calendar, compliance and system-state schemas. Only the
fields which a modelled check reads are kept.
-/

namespace AlphaAgent

structure BrokerHealth where
  market : Market
  authStatus : AuthStatus := .unknown
  accountStatus : AccountStatus := .unknown
  tradingEnabled : Bool := false
  positionsReconciled : Bool := false
deriving DecidableEq, Repr

def BrokerHealth.isHealthyForLive (health : BrokerHealth) : Bool :=
  health.authStatus = .valid && health.accountStatus = .active && health.tradingEnabled &&
    health.positionsReconciled

structure ProviderHealth where
  providerName : String
  market : Market
  status : ProviderStatus
  freshnessStatus : FreshnessStatus := .missing
deriving DecidableEq, Repr

def ProviderHealth.isHealthyForLive (health : ProviderHealth) : Bool :=
  health.status = .ok && health.freshnessStatus = .fresh

structure FXRateStatus where
  rate : Option Positive := none
  freshnessStatus : FreshnessStatus := .missing
  lastSuccessAt : Option DateTime := none
  staleAfterMinutes : AtLeastOne := ⟨60, by norm_num⟩
deriving DecidableEq

/-- Freshness at a reading of the UTC clock. Subtracting a naive
`last_success_at` from the aware clock reading raises. -/
def FXRateStatus.isFresh (status : FXRateStatus) (utcNow : ℤ) : Except RaisedError Bool :=
  if status.freshnessStatus ≠ .fresh ∨ status.rate = none then .ok false
  else
    match status.lastSuccessAt with
    | none => .ok false
    | some lastSuccessAt =>
      if lastSuccessAt.isAware then
        .ok (utcNow - lastSuccessAt.instant ≤ status.staleAfterMinutes * 60 * 1000000)
      else
        .error (.typeError "can't subtract offset-naive and offset-aware datetimes")

/-- The age of the rate can be computed: a fresh rate has a timestamp with a zone, or none. -/
def FXRateStatus.AgeComputable (status : FXRateStatus) : Prop :=
  status.freshnessStatus = .fresh → status.rate ≠ none →
    ∀ lastSuccessAt, status.lastSuccessAt = some lastSuccessAt → lastSuccessAt.isAware = true

theorem FXRateStatus.isFresh_returns_iff (status : FXRateStatus) (utcNow : ℤ) :
    (∃ fresh, status.isFresh utcNow = .ok fresh) ↔ status.AgeComputable := by
  unfold isFresh AgeComputable
  by_cases unusable : status.freshnessStatus ≠ .fresh ∨ status.rate = none
  · rw [if_pos unusable]
    constructor
    · intro _ fresh present
      exact absurd unusable (not_or.mpr ⟨not_not.mpr fresh, present⟩)
    · exact fun _ => ⟨false, rfl⟩
  · rw [if_neg unusable]
    rw [not_or, not_not] at unusable
    cases lastSuccessAt : status.lastSuccessAt with
    | none => simp
    | some time => cases aware : time.isAware <;> simp [unusable.1, unusable.2, aware]

structure MarketCalendarStatus where
  market : Market
  state : MarketCalendarState
deriving DecidableEq, Repr

def MarketCalendarStatus.isOpen (status : MarketCalendarStatus) : Bool := status.state = .open

structure ComplianceStatus where
  market : Market
  algoComplianceRequired : Bool := true
  strategyRegistrationStatus : ComplianceApprovalStatus := .notApproved
  brokerApprovalStatus : ComplianceApprovalStatus := .notApproved
  exchangeAlgoIdentifier : String := ""
  canPlaceLiveOrders : Bool := false
  rejectionReasons : List String := []
deriving DecidableEq, Repr

def ComplianceStatus.approved (status : ComplianceStatus) : Bool :=
  if !status.algoComplianceRequired then status.canPlaceLiveOrders
  else
    status.strategyRegistrationStatus = .approved && status.brokerApprovalStatus = .approved &&
      status.exchangeAlgoIdentifier ≠ "" && status.canPlaceLiveOrders

structure SystemStateSnapshot where
  tradingMode : TradingMode := .shadowLive
  liveTradingEnabled : Bool := false
  killSwitch : Bool := true
deriving DecidableEq, Repr

def SystemStateSnapshot.fromSettings (settings : Settings) : SystemStateSnapshot where
  tradingMode := settings.tradingMode
  liveTradingEnabled := settings.liveTradingEnabled
  killSwitch := settings.killSwitch

end AlphaAgent
