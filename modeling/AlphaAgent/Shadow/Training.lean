import AlphaAgent.Core.MarketTime
import AlphaAgent.Foundation.Newest
import AlphaAgent.Foundation.Work
import AlphaAgent.Shadow.Exits
import AlphaAgent.Shadow.Store

/-!
# The shadow training cycle

`ShadowTrainingService.run_cycle` as a unit of work of one session. Its local
state is what the session has pending: the session flushes only where the
service says so, a query reads the database without what is pending, and the
objects which it returns have the pending assignments. What a cycle learns from
outside (quotes, news, clock readings, new ids) is given with it. Rows of tables
which nothing here reads, and the counts and texts of the result, are left out.
-/

namespace AlphaAgent.Shadow

open Foundation

/-- A computation of one session. -/
abbrev SessionM (α : Type) := Work RaisedError (List Write) Reply α

/-- `isinstance(raised, TradingAlphaError)`. -/
def isTradingAlpha (raised : RaisedError) : Bool :=
  raised.errorType ∈ ["TradingAlphaError", "FailClosedError", "MissingCredentialsError",
    "RiskRejectedError", "OrderIdempotencyError"]

/-- What the session answered, unless the database raised. -/
def fromDatabase {α : Type} (asked : SessionM (Except DatabaseError α)) : SessionM α := do
  match ← asked with
  | .ok value => return value
  | .error failed => throw failed.raised

/-- The object of a row, with the assignments which are pending. -/
def loaded (pending : List Write) (row : ShadowObservation) : ShadowObservation :=
  pending.foldl Write.onRow row

section Session

variable (session : ℕ)

/-- The objects of the selected rows, in the order of the query. -/
def selectObservations (filter : ObservationFilter)
    (order : List ShadowObservation → List ShadowObservation := id) :
    SessionM (List ShadowObservation) := do
  let rows : List ShadowObservation ←
    fromDatabase (Work.ask (Operation.observations session filter))
  let pending ← get
  return (order rows).map (loaded pending)

def selectSamples (filter : SampleFilter) : SessionM (List ShadowTrainingSample) :=
  fromDatabase (Work.ask (Operation.samples session filter))

/-- `session.add`, or an assignment to a loaded object. -/
def write (entry : Write) : SessionM Unit := modify (· ++ [entry])

def flush : SessionM Unit := do
  let pending ← get
  fromDatabase (Work.ask (Operation.flush session pending))
  set ([] : List Write)

def commit : SessionM Unit := do
  flush session
  fromDatabase (Work.ask (Operation.commit session))

def rollback : SessionM Unit := do
  set ([] : List Write)
  Work.ask (Operation.rollback session)

end Session

/-- What a cycle learns from outside for one symbol: what its quote leads to, the
ids made for it, the news risk, and the clock readings in the order of use. -/
structure SymbolRound where
  symbol : String
  quote : Except RaisedError (Option ℚ × Assessment)
  signalId : String
  observationId : String
  newsBlocks : Except RaisedError Bool
  recordedAt : ℤ
  sampledAt : ℤ
  exitedAt : ℤ

/-- The local days of the markets: their zones, and the instants at which days begin. -/
structure MarketDays where
  zones : MarketZones
  midnight : Market → Day → ℤ

/-- `_market_day_start_utc`. -/
def MarketDays.dayStart (days : MarketDays) (market : Market) (now : ℤ) : ℤ :=
  days.midnight market (days.zones.localDay market now)

structure FXStatus where
  rate : Option ℚ
  isFresh : Bool
deriving DecidableEq

/-- One execution of `run_cycle` with all that it learns from outside. -/
structure Cycle where
  settings : ShadowSettings := {}
  exitSettings : ShadowSettings := {}
  days : MarketDays
  startedAt : ℤ
  newsIngestion : Except RaisedError Unit := .ok ()
  indiaOpen : Bool := true
  indiaRounds : List SymbolRound := []
  usOpen : Bool := false
  usdInr : Except RaisedError FXStatus := .ok ⟨none, false⟩
  usRounds : List SymbolRound := []
  reports : Except RaisedError Unit := .ok ()

section Service

variable (session : ℕ) (cycle : Cycle)

/-- `_get_or_create_strategy`. -/
def getOrCreateStrategy : SessionM Unit := do
  if ← fromDatabase (Work.ask (Operation.hasStrategy session)) then return ()
  else
    write .addStrategy
    flush session

/-- `_get_or_create_instrument`. -/
def getOrCreateInstrument (market : Market) (symbol : String) : SessionM Unit := do
  if ← fromDatabase (Work.ask (Operation.hasInstrument session market symbol)) then return ()
  else
    write (.addInstrument market symbol)
    flush session

/-- `_active_reentry_cooldown`. -/
def activeReentryCooldown (market : Market) (symbol : String) (now : ℤ) :
    SessionM (Option ℤ) := do
  if cycle.settings.intradayReentryCooldownMinutes ≤ 0 then return none
  else
    let closed ← selectObservations session (.closedFor market symbol)
      (descending ShadowObservation.lastMarkedAt)
    return closed.head?.bind fun latest =>
      latest.metadataJson.reentryBlockedUntil.filter (now < ·)

/-- The scope of a pause of new entries. -/
inductive LossPause where
  | market
  | previousSessionSymbol
  | symbol
deriving DecidableEq

/-- `_recent_training_samples`. -/
def recentTrainingSamples (market : Market) (symbol : Option String) (now : ℤ) (limit : ℕ) :
    SessionM (List ShadowTrainingSample) := do
  let since := now - cycle.settings.intradayLossDisciplineLookbackMinutes * microsecondsPerMinute
  let samples ← selectSamples session (.sizedSince market symbol since)
  return newest ShadowTrainingSample.sampleAt limit samples

section Pauses

variable (settings : ShadowSettings) (samples : List ShadowTrainingSample)

def totalPnl : ℚ := (samples.map ShadowTrainingSample.hypotheticalPnlInr).sum

/-- What `_market_loss_pause` makes of the recent samples of a market. -/
def marketPauseOf : Option LossPause :=
  let winners := samples.countP (0 < ·.hypotheticalPnlInr)
  if samples.length < settings.intradayMarketLossPauseMinSamples ∨
      settings.intradayMarketLossPauseWinRate < (winners : ℚ) / samples.length ∨
      -settings.intradayMarketLossPauseInr < totalPnl samples then none
  else some .market

/-- What `_previous_session_symbol_loss_pause` makes of the samples before today. -/
def previousSessionPauseOf : Option LossPause :=
  (descending ShadowTrainingSample.sampleAt samples).head?.bind fun sample =>
    let pnl := sample.hypotheticalPnlInr
    if pnl ≤ -settings.intradayPreviousSessionLossPauseInr ∨
        pnl / sample.hypotheticalNotionalInr ≤ -settings.intradayPreviousSessionLossPausePct then
      some .previousSessionSymbol
    else none

/-- What `_symbol_loss_pause` makes of the recent samples of a symbol. -/
def symbolPauseOf : Option LossPause :=
  let losers := samples.countP (·.hypotheticalPnlInr < 0)
  let total := totalPnl samples
  let notional := (samples.map ShadowTrainingSample.hypotheticalNotionalInr).sum
  let pnlPct := if 0 < notional then total / notional else 0
  if samples.length < settings.intradaySymbolLossPauseMinSamples ∨
      (losers : ℚ) / samples.length < settings.intradaySymbolLossPauseLossRate ∨
      ¬(total ≤ -settings.intradaySymbolLossPauseInr ∨
        pnlPct ≤ -settings.intradaySymbolLossPausePct) then none
  else some .symbol

end Pauses

/-- `_market_loss_pause`. -/
def marketLossPause (market : Market) (now : ℤ) : SessionM (Option LossPause) := do
  let samples ← recentTrainingSamples session cycle market none now
    (max cycle.settings.intradayMarketLossPauseMinSamples 1)
  return marketPauseOf cycle.settings samples

/-- `_previous_session_symbol_loss_pause`. -/
def previousSessionSymbolLossPause (market : Market) (symbol : String) (now : ℤ) :
    SessionM (Option LossPause) := do
  let settings := cycle.settings
  if settings.intradayPreviousSessionLossPauseEnabled = false then return none
  else
    let startToday := cycle.days.dayStart market now
    let cutoff := startToday -
      settings.intradayPreviousSessionLossPauseLookbackDays * microsecondsPerDay
    let samples ← selectSamples session (.sizedBetween market symbol cutoff startToday)
    return previousSessionPauseOf settings samples

/-- `_symbol_loss_pause`. -/
def symbolLossPause (market : Market) (symbol : String) (now : ℤ) :
    SessionM (Option LossPause) := do
  let samples ← recentTrainingSamples session cycle market (some symbol) now
    (max cycle.settings.intradaySymbolLossPauseMinSamples 1)
  return symbolPauseOf cycle.settings samples

/-- `_active_loss_discipline_pause`. -/
def activeLossDisciplinePause (market : Market) (symbol : String) (now : ℤ) :
    SessionM (Option LossPause) := do
  if cycle.settings.intradayLossDisciplineEnabled = false then return none
  else
    match ← marketLossPause session cycle market now with
    | some pause => return some pause
    | none =>
      match ← previousSessionSymbolLossPause session cycle market symbol now with
      | some pause => return some pause
      | none => symbolLossPause session cycle market symbol now

/-- The observation which a buy opens. -/
def newObservation (market : Market) (fxRate : ℚ) (round : SymbolRound) (lastPrice : ℚ)
    (assessment : Assessment) : ShadowObservation :=
  let size := shadowSize cycle.settings lastPrice fxRate
  { id := round.observationId
    market
    symbol := round.symbol
    signalId := round.signalId
    openedAt := round.recordedAt
    lastMarkedAt := round.recordedAt
    entryPrice := lastPrice
    currentPrice := lastPrice
    hypotheticalQuantity := size.1
    hypotheticalNotionalInr := size.2
    hypotheticalPnlInr := 0
    hypotheticalPnlPct := 0
    notes := ["Shadow hypothesis only. No order intent, broker order, or fill was created.",
      "Stop and target are deterministic quality-control levels, not guarantees."]
    metadataJson :=
      { usdInr := fxRate
        shadowNotionalPerSymbolInr := cycle.settings.shadowHypothesisNotionalInr
        entryAssessment := assessment
        latestAssessment := assessment } }

/-- What a quote assigns to an open observation. -/
def markOf (fxRate : ℚ) (round : SymbolRound) (lastPrice : ℚ) (assessment : Assessment)
    (observation : ShadowObservation) : Mark :=
  let entryPrice := observation.entryPrice
  let size := shadowSize cycle.settings entryPrice fxRate
  let pnl := (lastPrice - entryPrice) * size.1 * fxRate
  { signalId := round.signalId
    hypotheticalQuantity := size.1
    hypotheticalNotionalInr := size.2
    currentPrice := lastPrice
    lastMarkedAt := round.recordedAt
    hypotheticalPnlInr := pnl
    hypotheticalPnlPct := pnl / (if size.2 = 0 then 1 else size.2)
    metadataJson :=
      { observation.metadataJson with
        usdInr := fxRate
        shadowNotionalPerSymbolInr := cycle.settings.shadowHypothesisNotionalInr
        latestAssessment := assessment } }

/-- A sample with the values of an observation. -/
def sampleOf (observation : ShadowObservation) (signalId : String) (sampleAt : ℤ) (fxRate : ℚ)
    (assessment : Assessment) (sampleKind : SampleKind) (shadowExit : Option ShadowExit) :
    ShadowTrainingSample where
  observationId := observation.id
  market := observation.market
  symbol := observation.symbol
  signalId
  sampleAt
  entryPrice := observation.entryPrice
  currentPrice := observation.currentPrice
  hypotheticalQuantity := observation.hypotheticalQuantity
  hypotheticalNotionalInr := observation.hypotheticalNotionalInr
  hypotheticalPnlInr := observation.hypotheticalPnlInr
  hypotheticalPnlPct := observation.hypotheticalPnlPct
  sampleKind
  metadataJson :=
    { usdInr := fxRate
      assessment := observation.metadataJson.entryAssessment
      latestAssessment := assessment
      shadowExit }

/-- `_record_intraday_training_sample`. -/
def recordIntradayTrainingSample (fxRate : ℚ) (round : SymbolRound) (assessment : Assessment)
    (observation : ShadowObservation) : SessionM Unit :=
  write (.addSample (sampleOf observation round.signalId round.sampledAt fxRate assessment
    .intradayMark none))

/-- The mapping which a close records. -/
def shadowExitOf (observation : ShadowObservation) (now : ℤ) (decision : ShadowExitDecision) :
    ShadowExit where
  action := decision.action
  exitedAt := now
  exitPrice := observation.currentPrice
  exitPnlInr := observation.hypotheticalPnlInr
  exitPnlPct := observation.hypotheticalPnlPct
  peakPnlInr := decision.peakPnlInr
  givebackInr := decision.givebackInr

/-- What a close assigns to an observation. -/
def closingOf (observation : ShadowObservation) (assessment : Assessment) (now : ℤ)
    (decision : ShadowExitDecision) : Closing where
  status := closedStatus decision.action
  metadataJson :=
    { observation.metadataJson with
      latestAssessment := assessment
      shadowExit := some (shadowExitOf observation now decision)
      reentryBlockedUntil := some
        (now + cycle.settings.intradayReentryCooldownMinutes * microsecondsPerMinute) }
  notes := observation.notes ++ ["Shadow exit recorded: " ++ decision.action.value ++
    ". No broker order was created."]

/-- `_close_shadow_observation`. -/
def closeShadowObservation (observation : ShadowObservation) (signalId : String)
    (assessment : Assessment) (fxRate : ℚ) (now : ℤ) (decision : ShadowExitDecision) :
    SessionM Unit := do
  write (.assign observation.id (.close (closingOf cycle observation assessment now decision)))
  write (.addSample (sampleOf observation signalId now fxRate assessment .shadowExit
    (some (shadowExitOf observation now decision))))

/-- The exit decision of `_apply_shadow_exit_policy`, which reads the flushed samples. -/
def decideExit (observation : ShadowObservation) : SessionM ShadowExitDecision := do
  let decision := evaluateObservation cycle.exitSettings observation
  if decision.action ∈ closeActions then return decision
  else
    let samples ← selectSamples session (.ofObservation observation.id)
    return (profitPathExitDecision cycle.settings observation
      (samples.insertionSort fun first second => first.sampleAt ≤ second.sampleAt)).getD decision

/-- `_apply_shadow_exit_policy`. -/
def applyShadowExitPolicy (fxRate : ℚ) (round : SymbolRound) (assessment : Assessment)
    (observation : ShadowObservation) : SessionM Unit := do
  if cycle.settings.intradayShadowExitEnabled = false then return ()
  else if observation.isOpen = false then return ()
  else
    let decision ← decideExit session cycle observation
    if decision.action ∉ closeActions then return ()
    else
      closeShadowObservation cycle observation round.signalId assessment fxRate round.exitedAt
        decision

/-- Whether `_record_shadow_observation` opens an observation where none is open. -/
def entryAllowed (market : Market) (round : SymbolRound) (assessment : Assessment) :
    SessionM Bool := do
  if assessment.action ≠ .buy then return false
  else
    let blocks ← Work.ofExcept round.newsBlocks
    if cycle.settings.newsSentimentBlockShadowEntries && blocks then return false
    else if (← activeReentryCooldown session cycle market round.symbol round.recordedAt).isSome then
      return false
    else
      return (← activeLossDisciplinePause session cycle market round.symbol
        round.recordedAt).isNone

/-- Open an observation, or mark the open one. -/
def enterOrMark (market : Market) (fxRate : ℚ) (round : SymbolRound) (lastPrice : ℚ)
    (assessment : Assessment) : SessionM (Option ShadowObservation) := do
  match (← selectObservations session (.openFor market round.symbol)).head? with
  | none =>
    if ← entryAllowed session cycle market round assessment then
      let observation := newObservation cycle market fxRate round lastPrice assessment
      write (.addObservation observation)
      return some observation
    else return none
  | some observation =>
    let mark := markOf cycle fxRate round lastPrice assessment observation
    write (.assign observation.id (.mark mark))
    return some (observation.assigned (.mark mark))

/-- `_record_shadow_observation`. -/
def recordShadowObservation (market : Market) (fxRate : ℚ) (round : SymbolRound)
    (lastPrice : ℚ) (assessment : Assessment) : SessionM Bool := do
  match ← enterOrMark session cycle market fxRate round lastPrice assessment with
  | none => return false
  | some observation =>
    flush session
    recordIntradayTrainingSample fxRate round assessment observation
    applyShadowExitPolicy session cycle fxRate round assessment observation
    return true

/-- What one symbol asks of the session once its quote is assessed. -/
def observeSymbol (market : Market) (fxRate : ℚ) (round : SymbolRound) (lastPrice : Option ℚ)
    (assessment : Assessment) : SessionM Unit := do
  getOrCreateInstrument session market round.symbol
  -- The signal is added here; its flush also sends what earlier symbols left pending.
  flush session
  match lastPrice with
  | none => return ()
  | some lastPrice =>
    if 0 < lastPrice then
      let _ ← recordShadowObservation session cycle market fxRate round lastPrice assessment
      return ()
    else return ()

/-- One round of the loops over the symbols. -/
def scanSymbol (market : Market) (fxRate : ℚ) (round : SymbolRound) : SessionM Unit :=
  tryCatch
    (do
      let (lastPrice, assessment) ← Work.ofExcept round.quote
      observeSymbol session cycle market fxRate round lastPrice assessment)
    fun raised => if isTradingAlpha raised then return () else throw raised

/-- `_run_india_cycle`. -/
def runIndiaCycle : SessionM Unit :=
  if cycle.indiaOpen then cycle.indiaRounds.forM (scanSymbol session cycle .india 1) else return ()

/-- `_run_us_cycle`. -/
def runUsCycle : SessionM Unit :=
  if cycle.usOpen then
    match cycle.usdInr with
    | .error raised => if isTradingAlpha raised then return () else throw raised
    | .ok fxStatus =>
      match fxStatus.rate, fxStatus.isFresh with
      | some rate, true => cycle.usRounds.forM (scanSymbol session cycle .us rate)
      | _, _ => return ()
  else return ()

/-- The close of one observation of an earlier day, with its last mark. -/
def closeStale (dayStart : ℤ) (observation : ShadowObservation) : SessionM Unit :=
  closeShadowObservation cycle observation observation.signalId
    observation.metadataJson.latestAssessment observation.metadataJson.usdInr
    (min observation.lastMarkedAt (dayStart - 1)) { action := .exitSessionClose }

/-- `_close_stale_intraday_observations`. -/
def closeStaleIntradayObservations (market : Market) : SessionM ℕ := do
  let dayStart := cycle.days.dayStart market cycle.startedAt
  let stale ← selectObservations session (.staleIn market dayStart)
  stale.forM (closeStale cycle dayStart)
  return stale.length

/-- The body of `run_cycle` up to its commit. -/
def cycleBody : SessionM Unit := do
  getOrCreateStrategy session
  Work.ofExcept cycle.newsIngestion
  let _ ← closeStaleIntradayObservations session cycle .india
  let _ ← closeStaleIntradayObservations session cycle .us
  runIndiaCycle session cycle
  runUsCycle session cycle
  Work.ofExcept cycle.reports
  commit session

/-- `run_cycle`. -/
def runCycle : SessionM Unit :=
  if cycle.settings.shadowTrainingEnabled then
    tryCatch (cycleBody session cycle) fun raised => do
      rollback session
      throw raised
  else return ()

end Service
end AlphaAgent.Shadow
