import AlphaAgent.Core.Config
import AlphaAgent.Foundation.Dict

/-!
# Candidates, portfolios, limits and decisions

The schemas between a strategy's proposal and the risk engine's decision.
-/

namespace AlphaAgent

open Foundation

structure TradeCandidate where
  market : Market
  symbol : String
  assetClass : AssetClass
  action : TradeAction
  entryPrice : Positive
  stopLoss : Option Positive := none
  takeProfit : Option Positive := none
  rewardRiskRatio : NonNegative
  riskFlags : List String := []
deriving DecidableEq

structure OpenPosition where
  market : Market
  symbol : String
  assetClass : AssetClass
  quantity : ℕ
  marketValueInr : NonNegative
deriving DecidableEq

structure PortfolioSnapshot where
  totalValueInr : Positive
  cashInr : NonNegative
  equityExposureInr : NonNegative := NonNegative.zero
  indiaExposureInr : NonNegative := NonNegative.zero
  usExposureInr : NonNegative := NonNegative.zero
  dailyPnlInr : ℚ := 0
  weeklyPnlInr : ℚ := 0
  monthlyDrawdownPct : NonNegative := NonNegative.zero
  totalDrawdownPct : NonNegative := NonNegative.zero
  positions : List OpenPosition := []
  exposuresBySector : Dict String ℚ := .empty

structure RiskConfig where
  maxRiskPerTradePct : Share (5 / 100) := ⟨5 / 1000, by norm_num⟩
  maxDailyLossPct : Share (2 / 10) := ⟨125 / 10000, by norm_num⟩
  maxWeeklyLossPct : Share (5 / 10) := ⟨4 / 100, by norm_num⟩
  maxMonthlyDrawdownPct : Share (7 / 10) := ⟨8 / 100, by norm_num⟩
  maxTotalDrawdownPct : Share (8 / 10) := ⟨10 / 100, by norm_num⟩
  maxSingleStockPositionPct : Share 1 := ⟨75 / 1000, by norm_num⟩
  maxSingleEtfPositionPct : Share 1 := ⟨15 / 100, by norm_num⟩
  maxSectorExposurePct : Share 1 := ⟨25 / 100, by norm_num⟩
  maxTotalEquityExposurePct : Share 1 := ⟨80 / 100, by norm_num⟩
  maxIndiaExposurePct : Share 1 := ⟨70 / 100, by norm_num⟩
  maxUsExposurePct : Share 1 := ⟨70 / 100, by norm_num⟩
  maxOpenPositionsTotal : AtLeastOne := ⟨15, by norm_num⟩
  maxOpenPositionsIndia : AtLeastOne := ⟨8, by norm_num⟩
  maxOpenPositionsUs : AtLeastOne := ⟨8, by norm_num⟩
  minRewardRiskRatio : NonNegative := ⟨1, by norm_num⟩
deriving DecidableEq

/-- The limits of the settings; `min_reward_risk_ratio` keeps its default. -/
def RiskConfig.fromSettings (settings : Settings) : RiskConfig where
  maxRiskPerTradePct := settings.maxRiskPerTradePct
  maxDailyLossPct := settings.maxDailyLossPct
  maxWeeklyLossPct := settings.maxWeeklyLossPct
  maxMonthlyDrawdownPct := settings.maxMonthlyDrawdownPct
  maxTotalDrawdownPct := settings.maxTotalDrawdownPct
  maxSingleStockPositionPct := settings.maxSingleStockPositionPct
  maxSingleEtfPositionPct := settings.maxSingleEtfPositionPct
  maxSectorExposurePct := settings.maxSectorExposurePct
  maxTotalEquityExposurePct := settings.maxTotalEquityExposurePct
  maxIndiaExposurePct := settings.maxIndiaExposurePct
  maxUsExposurePct := settings.maxUsExposurePct
  maxOpenPositionsTotal := settings.maxOpenPositionsTotal
  maxOpenPositionsIndia := settings.maxOpenPositionsIndia
  maxOpenPositionsUs := settings.maxOpenPositionsUs

/-- A value of the `risk_metrics` dictionary. -/
inductive MetricValue where
  | number (value : ℚ)
  | text (value : String)
  | flag (value : Bool)
deriving DecidableEq

abbrev RiskMetrics := List (String × MetricValue)

structure RiskDecision where
  id : String
  signalId : Option String := none
  decision : RiskDecisionType
  approvedQuantity : ℕ := 0
  approvedCapital : NonNegative := NonNegative.zero
  approvedRisk : NonNegative := NonNegative.zero
  rejectionReasons : List String := []
  requiredActions : List String := []
  riskMetrics : RiskMetrics := []
deriving DecidableEq

def RiskDecision.isApprovedForExecution (decision : RiskDecision) : Bool :=
  decision.decision = .approved || decision.decision = .reduceSize

end AlphaAgent
