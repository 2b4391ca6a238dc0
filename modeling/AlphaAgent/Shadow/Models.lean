import AlphaAgent.Core.Enums
import AlphaAgent.Core.Values

/-!
# Shadow observations and their samples

`app/db/models/shadow.py` and the settings which the shadow training service
reads. A moment is an instant in UTC. All rows have the one strategy name of the
service, and ids of samples are read by nothing; both are left out, as are the
texts which explain an exit.
-/

namespace AlphaAgent.Shadow

/-- `ConservativeSignalAssessment`, as far as the service reads it. -/
structure Assessment where
  action : TradeAction
  stopLoss : Option ℚ
  takeProfit : Option ℚ
deriving DecidableEq

/-- The statuses under which an observation is closed. -/
inductive ClosedStatus where
  | stopLoss
  | takeProfit
  | profitBooked
  | profitGiveback
  | sessionClose
  | exit
deriving DecidableEq, Repr

def ClosedStatus.value : ClosedStatus → String
  | stopLoss => "CLOSED_SHADOW_STOP_LOSS"
  | takeProfit => "CLOSED_SHADOW_TAKE_PROFIT"
  | profitBooked => "CLOSED_SHADOW_PROFIT_BOOKED"
  | profitGiveback => "CLOSED_SHADOW_PROFIT_GIVEBACK"
  | sessionClose => "CLOSED_SHADOW_SESSION_CLOSE"
  | exit => "CLOSED_SHADOW_EXIT"

inductive ObservationStatus where
  | openObservation
  | closed (as : ClosedStatus)
deriving DecidableEq, Repr

def ObservationStatus.value : ObservationStatus → String
  | openObservation => "OPEN_OBSERVATION"
  | closed as => as.value

inductive ExitAction where
  | noExitLevels
  | noPositionSize
  | exitStopLoss
  | exitTakeProfit
  | exitProfitBooking
  | exitProfitGiveback
  | exitSessionClose
  | lockProfitOrTrail
  | watchStopClosely
  | holdWinner
  | holdWithStop
  | waitForMove
deriving DecidableEq, Repr

def ExitAction.value : ExitAction → String
  | noExitLevels => "NO_EXIT_LEVELS"
  | noPositionSize => "NO_POSITION_SIZE"
  | exitStopLoss => "EXIT_STOP_LOSS"
  | exitTakeProfit => "EXIT_TAKE_PROFIT"
  | exitProfitBooking => "EXIT_PROFIT_BOOKING"
  | exitProfitGiveback => "EXIT_PROFIT_GIVEBACK"
  | exitSessionClose => "EXIT_SESSION_CLOSE"
  | lockProfitOrTrail => "LOCK_PROFIT_OR_TRAIL"
  | watchStopClosely => "WATCH_STOP_CLOSELY"
  | holdWinner => "HOLD_WINNER"
  | holdWithStop => "HOLD_WITH_STOP"
  | waitForMove => "WAIT_FOR_MOVE"

/-- The `shadow_exit` mapping which a close records twice. -/
structure ShadowExit where
  action : ExitAction
  exitedAt : ℤ
  exitPrice : ℚ
  exitPnlInr : ℚ
  exitPnlPct : ℚ
  peakPnlInr : Option ℚ
  givebackInr : Option ℚ
deriving DecidableEq

/-- `metadata_json` of an observation. The assessment of the entry is stored
under two keys, which are always set together. -/
structure ObservationMetadata where
  usdInr : ℚ
  shadowNotionalPerSymbolInr : ℚ
  entryAssessment : Assessment
  latestAssessment : Assessment
  shadowExit : Option ShadowExit := none
  reentryBlockedUntil : Option ℤ := none
deriving DecidableEq

structure ShadowObservation where
  id : String
  market : Market
  symbol : String
  signalId : String
  openedAt : ℤ
  lastMarkedAt : ℤ
  entryPrice : ℚ
  currentPrice : ℚ
  hypotheticalQuantity : ℤ
  hypotheticalNotionalInr : ℚ
  hypotheticalPnlInr : ℚ
  hypotheticalPnlPct : ℚ
  status : ObservationStatus := .openObservation
  notes : List String
  metadataJson : ObservationMetadata
deriving DecidableEq

def ShadowObservation.isOpen (observation : ShadowObservation) : Bool :=
  observation.status = .openObservation

inductive SampleKind where
  | intradayMark
  | shadowExit
deriving DecidableEq, Repr

def SampleKind.value : SampleKind → String
  | intradayMark => "INTRADAY_MARK"
  | shadowExit => "SHADOW_EXIT"

/-- `metadata_json` of a sample. -/
structure SampleMetadata where
  usdInr : ℚ
  assessment : Assessment
  latestAssessment : Assessment
  shadowExit : Option ShadowExit := none
deriving DecidableEq

structure ShadowTrainingSample where
  observationId : String
  market : Market
  symbol : String
  signalId : String
  sampleAt : ℤ
  entryPrice : ℚ
  currentPrice : ℚ
  hypotheticalQuantity : ℤ
  hypotheticalNotionalInr : ℚ
  hypotheticalPnlInr : ℚ
  hypotheticalPnlPct : ℚ
  sampleKind : SampleKind
  metadataJson : SampleMetadata
deriving DecidableEq

/-- The settings of the service, with their defaults. -/
structure ShadowSettings where
  shadowTrainingEnabled : Bool := true
  shadowHypothesisNotionalInr : ℚ := 50000
  newsSentimentBlockShadowEntries : Bool := true
  intradayExitProfitLockPct : ℚ := 70 / 100
  intradayExitLossWatchPct : ℚ := 50 / 100
  intradayProfitGivebackExitPct : ℚ := 25 / 100
  intradayMinProfitLockInr : ℚ := 300
  intradayMinProfitLockPct : ℚ := 5 / 1000
  intradayProfitBookingEnabled : Bool := true
  intradayProfitBookingTargetProgressPct : ℚ := 45 / 100
  intradayProfitBookingMinPnlInr : ℚ := 250
  intradayProfitBookingMinPnlPct : ℚ := 3 / 1000
  intradayShadowExitEnabled : Bool := true
  intradayReentryCooldownMinutes : ℤ := 20
  intradayLossDisciplineEnabled : Bool := true
  intradayLossDisciplineLookbackMinutes : ℤ := 120
  intradaySymbolLossPauseMinSamples : ℕ := 4
  intradaySymbolLossPauseLossRate : ℚ := 60 / 100
  intradaySymbolLossPauseInr : ℚ := 1000
  intradaySymbolLossPausePct : ℚ := 1 / 100
  intradayMarketLossPauseMinSamples : ℕ := 20
  intradayMarketLossPauseWinRate : ℚ := 35 / 100
  intradayMarketLossPauseInr : ℚ := 5000
  intradayPreviousSessionLossPauseEnabled : Bool := true
  intradayPreviousSessionLossPauseLookbackDays : ℤ := 3
  intradayPreviousSessionLossPauseInr : ℚ := 750
  intradayPreviousSessionLossPausePct : ℚ := 75 / 10000
deriving DecidableEq

def microsecondsPerMinute : ℤ := 60 * 1000000

end AlphaAgent.Shadow
