import AlphaAgent.Core.Enums
import AlphaAgent.Core.Values

/-!
# Settings

The fields of `app/core/config.py` which the modelled components read, with
their defaults.
-/

namespace AlphaAgent

structure Settings where
  tradingMode : TradingMode := .shadowLive
  liveTradingEnabled : Bool := false
  liveOrdersEnabled : Bool := false
  killSwitch : Bool := true
  realProviderRequired : Bool := true
  brokerReconciliationRequired : Bool := true
  riskEngineRequired : Bool := true
  allowDummyBroker : Bool := false
  allowMockBroker : Bool := false
  allowFakeMarketData : Bool := false
  allowFakeOrderFills : Bool := false
  allowMargin : Bool := false
  allowShortSelling : Bool := false
  allowOptions : Bool := false
  allowDerivatives : Bool := false
  allowCrypto : Bool := false
  allowLeveragedEtfs : Bool := false
  maxRiskPerTradePct : Share (5 / 100) := ⟨5 / 1000, by norm_num⟩
  maxDailyLossPct : Share (2 / 10) := ⟨125 / 10000, by norm_num⟩
  maxWeeklyLossPct : Share (5 / 10) := ⟨4 / 100, by norm_num⟩
  maxMonthlyDrawdownPct : Share (7 / 10) := ⟨8 / 100, by norm_num⟩
  maxTotalDrawdownPct : Share (8 / 10) := ⟨10 / 100, by norm_num⟩
  maxSingleStockPositionPct : Share 1 := ⟨75 / 1000, by norm_num⟩
  maxSingleEtfPositionPct : Share 1 := ⟨15 / 100, by norm_num⟩
  maxSectorExposurePct : Share 1 := ⟨25 / 100, by norm_num⟩
  maxTotalEquityExposurePct : Share 1 := ⟨80 / 100, by norm_num⟩
  maxIndiaExposurePct : Share 1 := ⟨70 / 100, by norm_num⟩
  maxUsExposurePct : Share 1 := ⟨70 / 100, by norm_num⟩
  maxOpenPositionsTotal : AtLeastOne := ⟨15, by norm_num⟩
  maxOpenPositionsIndia : AtLeastOne := ⟨8, by norm_num⟩
  maxOpenPositionsUs : AtLeastOne := ⟨8, by norm_num⟩
  liveMarketQualityChecksRequired : Bool := true
  microLiveMarketQualityChecksRequired : Bool := false
  minLiveIntradayVolume : ℕ := 50000
  minLiveAverageDailyVolume : ℕ := 100000
  minLiveAverageDailyNotionalInr : NonNegative := ⟨25000000, by norm_num⟩
  maxLiveBidAskSpreadPct : {value : ℚ // 0 ≤ value ∧ value ≤ 20 / 100} := ⟨5 / 1000, by norm_num⟩
  maxLiveEstimatedSlippagePct : {value : ℚ // 0 ≤ value ∧ value ≤ 20 / 100} :=
    ⟨25 / 10000, by norm_num⟩

/-- The settings of an empty environment. -/
def Settings.default : Settings := {}

end AlphaAgent
