import AlphaAgent.Foundation.Dict
import AlphaAgent.Foundation.Permit
import AlphaAgent.Foundation.Quota
import AlphaAgent.Schemas.Status
import AlphaAgent.Schemas.Risk
import AlphaAgent.Schemas.Order
import AlphaAgent.Risk.Checks
import AlphaAgent.Risk.QuoteQuality
import AlphaAgent.Risk.PositionSizing
import AlphaAgent.Risk.RiskEngine
import AlphaAgent.Risk.Rulebook
import AlphaAgent.Risk.FailClosed
import AlphaAgent.Risk.LargestOrder
import AlphaAgent.Risk.SizingBounds
import AlphaAgent.Risk.MaximalSizing
import AlphaAgent.Risk.Concentration
import AlphaAgent.Risk.OrderLevels
import AlphaAgent.Risk.SellExposure
import AlphaAgent.Risk.QuoteGate
import AlphaAgent.Execution.Idempotency
import AlphaAgent.Execution.OrderManager
import AlphaAgent.Execution.AtMostOnce
import AlphaAgent.Execution.Outcome
import AlphaAgent.Execution.DurableRecord
import AlphaAgent.Execution.ApprovalBounds
import AlphaAgent.Execution.PreTrade
import AlphaAgent.Execution.StoreMirror
import AlphaAgent.Paper.Engine
import AlphaAgent.Paper.CostBasis
import AlphaAgent.Paper.CashBuffer
import AlphaAgent.Paper.Journal
import AlphaAgent.Paper.DailyLimits
import AlphaAgent.Backtesting.Engine
import AlphaAgent.Backtesting.Loop
import AlphaAgent.Backtesting.NoLookahead
import AlphaAgent.Backtesting.GapFills
import AlphaAgent.Foundation.Calls
import AlphaAgent.Foundation.Work
import AlphaAgent.Foundation.Watch
import AlphaAgent.Foundation.Transaction
import AlphaAgent.Agentic.FailSafe
import AlphaAgent.Core.MarketTime
import AlphaAgent.Core.Json
import AlphaAgent.Intraday.AgentsRestrict
import AlphaAgent.Intraday.TimeZones
import AlphaAgent.Intraday.Cutoff
import AlphaAgent.Intraday.DailyDiscipline
import AlphaAgent.Intraday.KillSwitch
import AlphaAgent.Intraday.JournalRows
import AlphaAgent.Intraday.ClosedPositions
import AlphaAgent.Shadow.Exits
import AlphaAgent.Shadow.Strategy
import AlphaAgent.Shadow.Store
import AlphaAgent.Shadow.Training
import AlphaAgent.Shadow.Providers
import AlphaAgent.Shadow.Lifecycle
import AlphaAgent.Shadow.Queries
import AlphaAgent.Shadow.Rounds
import AlphaAgent.Shadow.Sound
import AlphaAgent.Shadow.Tables
import AlphaAgent.Shadow.Steps
import AlphaAgent.Shadow.Refinement
import AlphaAgent.Shadow.SerialRuns
import AlphaAgent.Shadow.Invariants
import AlphaAgent.Shadow.EntryLevels
import AlphaAgent.Shadow.Overnight
import AlphaAgent.Shadow.Cooldown
import AlphaAgent.Shadow.ProfitProtection
import AlphaAgent.Shadow.PathExits
import AlphaAgent.Shadow.ReportAgreement
import AlphaAgent.Shadow.Isolation
import AlphaAgent.Shadow.OpenRows
import AlphaAgent.Shadow.OneOpen
import AlphaAgent.Shadow.Interleaving
import AlphaAgent.Services.SystemState
import AlphaAgent.Services.AuditChain
import AlphaAgent.Services.LiveFlag
import AlphaAgent.Brokers.Adapters
import AlphaAgent.Brokers.PermitScope
import AlphaAgent.Execution.TerminalStatus
import AlphaAgent.Backtesting.Reconciliation
import AlphaAgent.Intraday.Excursions
import AlphaAgent.Intraday.Rounding
import AlphaAgent.Intraday.Budget
import AlphaAgent.Intraday.Levels
import AlphaAgent.Shadow.OutcomeLabels
import AlphaAgent.Core.IsoFormat
import AlphaAgent.Risk.MarketCalendar
import AlphaAgent.Risk.CalendarOverrides
import AlphaAgent.Risk.CalendarFaults
import AlphaAgent.Foundation.Search
import AlphaAgent.Foundation.Newest
import AlphaAgent.Foundation.Grouping
import AlphaAgent.Services.NextSession
import AlphaAgent.Shadow.RescaledBook
import AlphaAgent.Shadow.PeakFalls
import AlphaAgent.Shadow.StrategyVerdict
import AlphaAgent.Intraday.DailyReport
import AlphaAgent.Intraday.Readiness
import AlphaAgent.News.Ingestion
import AlphaAgent.News.Guard
import AlphaAgent.Performance.MarketDay
import AlphaAgent.Performance.CompleteDays
import AlphaAgent.Performance.DayWise
import AlphaAgent.Performance.DayWiseAlgebra
import AlphaAgent.ModelTraining.Loader
import AlphaAgent.ModelTraining.NothingLost
import AlphaAgent.Shadow.SignalIds
import AlphaAgent.ModelTraining.OnePerSignal
import AlphaAgent.Core.SecretFlow
import AlphaAgent.Performance.Drawdown
import AlphaAgent.Intraday.AverageTrueRange
import AlphaAgent.Services.ConcurrentState
import AlphaAgent.Api.SystemRoutes
import AlphaAgent.Performance.ReviewLedger
import AlphaAgent.Performance.ReviewHistory
import AlphaAgent.Core.Journals
import AlphaAgent.ModelTraining.ReportTotals
import AlphaAgent.Intraday.ReviewedRuns
import AlphaAgent.Shadow.DisciplinedEntries
import AlphaAgent.Services.BrokerStatuses
import AlphaAgent.Shadow.ProtectionTotals
import AlphaAgent.Core.DateTimeText
import AlphaAgent.Intraday.ZerodhaHistory
import AlphaAgent.Intraday.IndiaRuns
