/-!
# Platform enumerations

The `StrEnum` classes of `app/core/enums.py` which the modelled components
read. Each member keeps its source name in this project's case.
-/

namespace AlphaAgent

inductive TradingMode where
  | backtest
  | marketReplay
  | shadowLive
  | paperTrading
  | liveDisabled
  | backtestRealHistoricalData
  | shadowLiveRealData
  | microLiveAutonomous
  | liveAutonomous
deriving DecidableEq, Repr

namespace TradingMode

/-- The text of the enumeration member. -/
def value : TradingMode → String
  | backtest => "BACKTEST"
  | marketReplay => "MARKET_REPLAY"
  | shadowLive => "SHADOW_LIVE"
  | paperTrading => "PAPER_TRADING"
  | liveDisabled => "LIVE_DISABLED"
  | backtestRealHistoricalData => "BACKTEST_REAL_HISTORICAL_DATA"
  | shadowLiveRealData => "SHADOW_LIVE_REAL_DATA"
  | microLiveAutonomous => "MICRO_LIVE_AUTONOMOUS"
  | liveAutonomous => "LIVE_AUTONOMOUS"

def isLiveCapable (mode : TradingMode) : Bool :=
  mode = microLiveAutonomous || mode = liveAutonomous

end TradingMode

inductive Market where
  | india
  | us
deriving DecidableEq, Repr

/-- The text of the enumeration member. -/
def Market.value : Market → String
  | india => "INDIA"
  | us => "US"

inductive AssetClass where
  | equity
  | etf
  | cash
deriving DecidableEq, Repr

inductive TradeAction where
  | buy
  | sell
  | hold
  | noTrade
deriving DecidableEq, Repr

inductive RiskDecisionType where
  | approved
  | reduceSize
  | rejected
  | noTrade
deriving DecidableEq, Repr

inductive OrderSide where
  | buy
  | sell
deriving DecidableEq, Repr

inductive OrderType where
  | market
  | limit
deriving DecidableEq, Repr

inductive BrokerName where
  | zerodha
  | alpaca
deriving DecidableEq, Repr

inductive ProviderStatus where
  | ok
  | degraded
  | down
  | missingCredentials
deriving DecidableEq, Repr

inductive AuthStatus where
  | valid
  | invalid
  | missingCredentials
  | expired
  | unknown
deriving DecidableEq, Repr

inductive AccountStatus where
  | active
  | blocked
  | disabled
  | unknown
deriving DecidableEq, Repr

inductive FreshnessStatus where
  | fresh
  | stale
  | missing
deriving DecidableEq, Repr

inductive MarketCalendarState where
  | open
  | closed
  | unknown
deriving DecidableEq, Repr

inductive OrderStatus where
  | created
  | submitted
  | accepted
  | partiallyFilled
  | filled
  | cancelled
  | rejected
  | unknownRequiresReconciliation
deriving DecidableEq, Repr

inductive ReconciliationState where
  | notRequired
  | required
  | reconciled
  | blockingDuplicates
deriving DecidableEq, Repr

inductive ComplianceApprovalStatus where
  | approved
  | notApproved
  | pending
  | notRequired
deriving DecidableEq, Repr

end AlphaAgent
