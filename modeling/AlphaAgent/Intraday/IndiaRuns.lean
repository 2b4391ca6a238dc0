import AlphaAgent.Intraday.AverageTrueRange
import AlphaAgent.Intraday.ExitManager
import AlphaAgent.Intraday.KillSwitch
import AlphaAgent.Intraday.ZerodhaHistory
import AlphaAgent.Shadow.Providers

/-!
# Runs of the professional service

`ProfessionalIntradayShadowService.run_india_once`: for each symbol a quote and three histories
are asked for, a snapshot is made of them and the pipeline processes it. The service never marks
or closes a position and never resets the kill switch, so what it opens in its whole life is
bounded, and nothing is opened once a snapshot was of bad quality.
-/

namespace AlphaAgent.Intraday

open Foundation Paper Shadow

section Snapshots

/-- `_positive_float`. -/
def positiveFloat (value : Json) : Option ℚ :=
  match value.toFloat with
  | .ok parsed => if 0 < parsed then some parsed else none
  | .error _ => none

/-- `_range_high`. -/
def rangeHigh (candles : List Candle) (count : ℕ) : Option ℚ :=
  ((candles.take count).map Candle.high).max?

/-- `_range_low`. -/
def rangeLow (candles : List Candle) (count : ℕ) : Option ℚ :=
  ((candles.take count).map Candle.low).min?

/-- The payload of the first instrument of a quote. -/
def instrumentPayload (quote : Mapping) : Json :=
  match quote.get "data" with
  | .object ((_, payload) :: _) => payload
  | _ => .object []

/-- The mapping which a value is, or an empty one. -/
def orEmpty : Json → Mapping
  | .object fields => fields
  | _ => []

/-- `MarketDataBuilder.from_zerodha_quote` at a reading of the UTC clock. -/
def MarketDataBuilder.fromZerodhaQuote (text : SymbolText) (symbol : String) (quote : Mapping)
    (now : ℤ) (candles1m candles3m candles5m : List Candle) :
    Except RaisedError MarketDataSnapshot := do
  let payload := orEmpty (instrumentPayload quote)
  let ohlc := orEmpty (payload.get "ohlc")
  let lastPrice ← ((payload.get "last_price").orElse (.number 0)).toFloat
  let volume ← ((payload.get "volume").orElse (.number 0)).toFloat
  let gapPct := match positiveFloat (ohlc.get "open"), positiveFloat (ohlc.get "close") with
    | some openPrice, some close => some ((openPrice - close) / close)
    | _, _ => none
  let atr ← calculateAtr (if candles5m ≠ [] then candles5m else candles1m)
  return {
    market := .india
    symbol := text.upper symbol
    timestamp := .utc now
    lastPrice
    vwap := positiveFloat (payload.get "average_price")
    volume
    openingRangeHigh15m := rangeHigh candles1m 15
    openingRangeLow15m := rangeLow candles1m 15
    atr
    candles1m
    candles3m
    candles5m
    gapPct
    raw := quote.map fun (key, value) =>
      (key, match value with | .number number => some number | _ => none) }

end Snapshots

section Service

/-- A request: whether there are credentials, and what it ends in. -/
structure Request where
  credentials : Bool
  result : HttpResult

/-- `ZerodhaDataProvider.historical_candles`. -/
def historicalCandles (interval : String) (request : Request) : Except RaisedError Mapping := do
  if interval ∉ ["minute", "3minute", "5minute"] then
    throw (.failClosed "zerodha_historical_interval_not_allowed")
  if request.credentials = false then
    throw (missingCredentials "zerodha_data_credentials_missing")
  match request.result with
  | .failed error message => throw ⟨error.errorType, message⟩
  | .answered statusCode body =>
    if statusCode ≠ 200 then throw (.failClosed "zerodha_historical_candles_unavailable")
    (← decodeBody body).toMapping

/-- `_instrument_token_from_quote`. -/
def instrumentTokenFromQuote (quote : Mapping) : Except RaisedError ℤ :=
  let invalid : RaisedError := .failClosed "zerodha_instrument_token_invalid"
  match instrumentPayload quote with
  | .object payload =>
    match Mapping.get payload "instrument_token" with
    | .null | .text "" => .error (.failClosed "zerodha_instrument_token_missing")
    | .text token => (readInt token.toList).mapError fun _ => invalid
    | .number token => .ok (truncate token)
    | .bool token => .ok (if token then 1 else 0)
    | .list _ | .object _ => .error invalid
  | _ => .error (.failClosed "zerodha_quote_payload_missing")

/-- `_clean_symbols`. -/
def cleanSymbols (text : SymbolText) (symbols : List String) : List String :=
  symbols.foldl (fun cleaned symbol =>
    let normalized := text.upper (text.strip symbol)
    if normalized ≠ "" ∧ normalized ∉ cleaned then cleaned ++ [normalized] else cleaned) []

/-- What a run reads from outside for one of its symbols: the answers to its requests, the
window of the session unless the configured zone is unknown, the clock and the reviews. -/
structure SymbolFeed where
  quote : Request
  window : Except RaisedError Unit
  history : String → Request
  quotedAt : ℤ
  checkedAt : ℤ
  orderedAt : ℕ → ℤ
  reviews : AgenticReviews

/-- The service: how Python writes what is no text, and what its pipeline is built with. -/
structure IndiaService where
  str : Json → String
  settings : PipelineSettings

namespace IndiaService

variable (service : IndiaService)

/-- The candles of one interval. -/
def candles (feed : SymbolFeed) (interval : String) : Except RaisedError (List Candle) := do
  let history ← historicalCandles interval (feed.history interval)
  MarketDataBuilder.candlesFromZerodhaHistory service.str (.object history)

/-- The snapshot which is made for a symbol. -/
def snapshot (symbol : String) (feed : SymbolFeed) : Except RaisedError MarketDataSnapshot := do
  let quote ← zerodhaLatest feed.quote.credentials feed.quote.result
  let _ ← instrumentTokenFromQuote quote
  feed.window
  let candles1m ← service.candles feed "minute"
  let candles3m ← service.candles feed "3minute"
  let candles5m ← service.candles feed "5minute"
  MarketDataBuilder.fromZerodhaQuote service.settings.text symbol quote feed.quotedAt
    candles1m candles3m candles5m

/-- The call of `process_snapshot` with a snapshot. -/
def snapshotCall (feed : SymbolFeed) (snapshot : MarketDataSnapshot) : SnapshotCall where
  snapshot
  checkedAt := feed.checkedAt
  orderedAt := feed.orderedAt
  reviews := feed.reviews

/-- The body of the loop in `run_india_once`. -/
def processSymbol (symbol : String) (feed : SymbolFeed) :
    Fallible RaisedError IntradayShadowPipeline SnapshotResult := do
  let snapshot ← Fallible.ofExcept (service.snapshot symbol feed)
  processSnapshot service.settings (snapshotCall feed snapshot)

/-- The reason under which the loop blocks a symbol. -/
def blockReason (raised : RaisedError) : String :=
  if isTradingAlpha raised then raised.message
  else "provider_or_pipeline_error:" ++ raised.message

/-- What a run returns about its symbols. -/
structure Outcome where
  blocked : List (String × String) := []
  results : List SnapshotResult := []

/-- The loop of `run_india_once`. -/
def processSymbols (feed : String → SymbolFeed) (pipeline : IntradayShadowPipeline) :
    List String → Outcome × IntradayShadowPipeline
  | [] => ({}, pipeline)
  | symbol :: rest =>
    let (processed, next) := (service.processSymbol symbol (feed symbol)).run pipeline
    let (outcome, last) := processSymbols feed next rest
    match processed with
    | .ok result => ({ outcome with results := result :: outcome.results }, last)
    | .error raised =>
      ({ outcome with blocked := (symbol, blockReason raised) :: outcome.blocked }, last)

end IndiaService

/-- A call of `run_india_once`: the symbols it is given, the configured ones, and what it reads
from outside. -/
structure IndiaCall where
  symbols : List String
  configured : List String
  feed : String → SymbolFeed

/-- `selected_symbols`. -/
def IndiaCall.selected (text : SymbolText) (call : IndiaCall) : List String :=
  cleanSymbols text (if call.symbols ≠ [] then call.symbols else call.configured)

/-- The answer of a call. -/
structure IndiaReport where
  symbolsRequested : List String
  symbolsProcessed : ℕ
  blocked : List (String × String)
  results : List SnapshotResult

/-- `run_india_once`. -/
def IndiaService.runIndiaOnce (service : IndiaService) (pipeline : IntradayShadowPipeline)
    (call : IndiaCall) : IndiaReport × IntradayShadowPipeline :=
  let selected := call.selected service.settings.text
  let (outcome, next) := service.processSymbols call.feed pipeline selected
  ({ symbolsRequested := selected
     symbolsProcessed := outcome.results.length
     blocked := (if selected = [] then [("", "no_symbols_configured")] else []) ++ outcome.blocked
     results := outcome.results },
    next)

end Service

section Quality

/-- What a report without a reason says of a snapshot which has no bid, no ask and a feed. -/
structure Clean (config : IntradayShadowConfig) (snapshot : MarketDataSnapshot)
    (checkedAt : DateTime) : Prop where
  fresh : checkedAt.instant - snapshot.timestamp.instant ≤ config.maxDataAgeSeconds * 1000000
  price : 0 < snapshot.lastPrice
  volume : 0 < snapshot.volume
  whole : ¬Hole 60 snapshot.candles1m
  charted : snapshot.candles1m ≠ [] ∧ snapshot.candles3m ≠ [] ∧ snapshot.candles5m ≠ []

/-- A snapshot as it is made of a quote and of histories. -/
structure FromQuote (snapshot : MarketDataSnapshot) : Prop where
  aware : snapshot.timestamp.isAware = true
  connected : snapshot.feedConnected = true
  unquoted : snapshot.bid = none ∧ snapshot.ask = none
  candlesAware : ∀ candle ∈ snapshot.candles1m, candle.timestamp.isAware = true

theorem check_fromQuote (config : IntradayShadowConfig) {snapshot : MarketDataSnapshot}
    (made : FromQuote snapshot) (checkedAt : DateTime) :
    ∃ report, DataQualityMonitor.check config snapshot checkedAt = .ok report ∧
      (report.ok = true ↔ Clean config snapshot checkedAt) ∧
        (report.ok = true ↔ report.reasons = []) := by
  obtain ⟨missing, read, hole⟩ := hasMissingCandles_iff 60 (by decide) made.candlesAware
  rw [DataQualityMonitor.check, read]
  simp only [made.aware, made.unquoted.1, made.unquoted.2, made.connected,
    MarketDataSnapshot.spreadPct]
  refine ⟨_, rfl, ?_, ?_⟩
  · simp only [List.isEmpty_iff, List.append_eq_nil_iff, Risk.rejectIf_eq_nil, hole]
    constructor
    · rintro ⟨⟨⟨⟨⟨⟨⟨⟨⟨fresh, price⟩, volume⟩, -⟩, whole⟩, first⟩, second⟩, third⟩, -⟩, -⟩
      exact ⟨not_lt.mp fresh, not_le.mp price, not_le.mp volume, whole, first, second, third⟩
    · rintro ⟨fresh, price, volume, whole, first, second, third⟩
      exact ⟨⟨⟨⟨⟨⟨⟨⟨⟨not_lt.mpr fresh, not_le.mpr price⟩, not_le.mpr volume⟩, by decide⟩, whole⟩,
        first⟩, second⟩, third⟩, Bool.false_ne_true⟩, Bool.false_ne_true⟩
  · exact List.isEmpty_iff.trans Risk.eraseDups_eq_nil.symm

/-- What is read of a row is in UTC. -/
theorem readRow_aware {str : Json → String} {row : Json} {candle : Candle}
    (read : readRow str row = .ok (some candle)) : candle.timestamp.isAware = true := by
  unfold readRow at read
  split at read
  · next stamp _ _ _ _ _ _ =>
    unfold unlessUnreadable at read
    split at read
    · next made =>
      obtain ⟨timestamp, stamped, rest⟩ := Fallible.except_bind_ok made
      obtain ⟨parsed, -, utc⟩ := Fallible.except_bind_ok stamped
      obtain ⟨_, -, rest⟩ := Fallible.except_bind_ok rest
      obtain ⟨_, -, rest⟩ := Fallible.except_bind_ok rest
      obtain ⟨_, -, rest⟩ := Fallible.except_bind_ok rest
      obtain ⟨_, -, rest⟩ := Fallible.except_bind_ok rest
      obtain ⟨_, -, rest⟩ := Fallible.except_bind_ok rest
      cases rest
      cases read
      rw [DateTime.toUtc_eq_utc utc]
      rfl
    · split at read <;> cases read
  · cases read

theorem candlesFromZerodhaHistory_aware {str : Json → String} {history : Json}
    {candles : List Candle}
    (read : MarketDataBuilder.candlesFromZerodhaHistory str history = .ok candles) :
    ∀ candle ∈ candles, candle.timestamp.isAware = true := by
  rw [MarketDataBuilder.candlesFromZerodhaHistory] at read
  generalize historyRows history = rows at read
  induction rows generalizing candles with
  | nil =>
    cases read
    intro candle member
    cases member
  | cons row rest ih =>
    rw [List.mapM_cons] at read
    cases first : readRow str row with
    | error raised =>
      rw [first] at read
      cases read
    | ok made =>
      cases others : rest.mapM (readRow str) with
      | error raised =>
        rw [first, others] at read
        cases read
      | ok more =>
        rw [first, others] at read
        have listed : (made :: more).filterMap id = candles := Except.ok.inj read
        intro candle member
        rw [← listed, List.mem_filterMap] at member
        obtain ⟨_, member, same⟩ := member
        rcases List.mem_cons.mp member with rfl | member
        · exact readRow_aware (first.trans (congrArg Except.ok same))
        · exact ih (congrArg (Except.map fun candles => candles.filterMap id) others) candle
            (List.mem_filterMap.mpr ⟨_, member, same⟩)

end Quality

section Turns

/-- The request was made and answered with a body. -/
def Supplied (request : Request) : Prop :=
  request.credentials = true ∧ ∃ body, request.result = .answered 200 (some body)

theorem supplied_of_mapping {statusCode : ℕ} {body : Option Json} {unavailable : String}
    {mapping : Mapping}
    (read : (do
      if statusCode ≠ 200 then throw (.failClosed unavailable)
      (← decodeBody body).toMapping) = Except.ok mapping) :
    ∃ accepted, HttpResult.answered statusCode body = .answered 200 (some accepted) := by
  by_cases accepted : statusCode = 200
  · cases body with
    | none =>
      rw [if_neg (not_not.mpr accepted)] at read
      cases read
    | some body => exact ⟨body, by rw [accepted]⟩
  · rw [if_pos accepted] at read
    cases read

theorem zerodhaLatest_supplied {request : Request} {quote : Mapping}
    (read : zerodhaLatest request.credentials request.result = .ok quote) : Supplied request := by
  obtain ⟨credentials, result⟩ := request
  cases credentials with
  | false => cases read
  | true =>
    cases result with
    | failed error message => cases read
    | answered statusCode body =>
      exact ⟨rfl, supplied_of_mapping read⟩

theorem historicalCandles_supplied {interval : String} {request : Request} {history : Mapping}
    (read : historicalCandles interval request = .ok history) : Supplied request := by
  obtain ⟨credentials, result⟩ := request
  unfold historicalCandles at read
  by_cases allowed : interval ∉ ["minute", "3minute", "5minute"]
  · rw [if_pos allowed] at read
    cases read
  · rw [if_neg allowed] at read
    cases credentials with
    | false => cases read
    | true =>
      cases result with
      | failed error message => cases read
      | answered statusCode body =>
        exact ⟨rfl, supplied_of_mapping read⟩

namespace IndiaService

variable {service : IndiaService} {symbol : String} {feed : SymbolFeed}
  {snapshot : MarketDataSnapshot}

/-- Where a snapshot is made all four requests were answered. -/
theorem snapshot_supplied (made : service.snapshot symbol feed = .ok snapshot) :
    Supplied feed.quote ∧ ∀ interval ∈ ["minute", "3minute", "5minute"],
      Supplied (feed.history interval) := by
  obtain ⟨quote, quoted, made⟩ := Fallible.except_bind_ok made
  obtain ⟨_, -, made⟩ := Fallible.except_bind_ok made
  obtain ⟨_, -, made⟩ := Fallible.except_bind_ok made
  obtain ⟨_, first, made⟩ := Fallible.except_bind_ok made
  obtain ⟨_, second, made⟩ := Fallible.except_bind_ok made
  obtain ⟨_, third, -⟩ := Fallible.except_bind_ok made
  obtain ⟨_, first, -⟩ := Fallible.except_bind_ok first
  obtain ⟨_, second, -⟩ := Fallible.except_bind_ok second
  obtain ⟨_, third, -⟩ := Fallible.except_bind_ok third
  refine ⟨zerodhaLatest_supplied quoted, ?_⟩
  simp only [List.forall_mem_cons, List.not_mem_nil, false_implies, implies_true, and_true]
  exact ⟨historicalCandles_supplied first, historicalCandles_supplied second,
    historicalCandles_supplied third⟩

theorem snapshot_fromQuote (made : service.snapshot symbol feed = .ok snapshot) :
    FromQuote snapshot := by
  obtain ⟨quote, -, made⟩ := Fallible.except_bind_ok made
  obtain ⟨_, -, made⟩ := Fallible.except_bind_ok made
  obtain ⟨_, -, made⟩ := Fallible.except_bind_ok made
  obtain ⟨candles1m, charted, made⟩ := Fallible.except_bind_ok made
  obtain ⟨_, -, made⟩ := Fallible.except_bind_ok made
  obtain ⟨_, -, made⟩ := Fallible.except_bind_ok made
  obtain ⟨_, -, read⟩ := Fallible.except_bind_ok charted
  obtain ⟨_, -, made⟩ := Fallible.except_bind_ok made
  obtain ⟨_, -, made⟩ := Fallible.except_bind_ok made
  obtain ⟨_, -, made⟩ := Fallible.except_bind_ok made
  cases made
  exact ⟨rfl, rfl, ⟨rfl, rfl⟩, candlesFromZerodhaHistory_aware read⟩

end IndiaService

namespace IndiaService

variable {service : IndiaService} {symbol : String} {feed : SymbolFeed}
  {snapshot : MarketDataSnapshot} {pipeline : IntradayShadowPipeline} {position : VirtualPosition}

/-- The pipeline after a symbol. -/
def afterSymbol (service : IndiaService) (pipeline : IntradayShadowPipeline) (symbol : String)
    (feed : SymbolFeed) : IntradayShadowPipeline :=
  ((service.processSymbol symbol feed).run pipeline).2

theorem afterSymbol_of_made (made : service.snapshot symbol feed = .ok snapshot) :
    service.afterSymbol pipeline symbol feed =
      pipeline.call service.settings (.process (snapshotCall feed snapshot)) := by
  rw [afterSymbol, processSymbol, Fallible.run_bind, Fallible.run_ofExcept, made]
  rfl

theorem afterSymbol_of_failed {raised : RaisedError}
    (failed : service.snapshot symbol feed = .error raised) :
    service.afterSymbol pipeline symbol feed = pipeline := by
  rw [afterSymbol, processSymbol, Fallible.run_bind, Fallible.run_ofExcept, failed]

/-- A position of which a snapshot was made, as the code trades on it. -/
structure Backed (service : IndiaService) (symbol : String) (feed : SymbolFeed)
    (position : VirtualPosition) : Prop where
  quoted : Supplied feed.quote
  charted : ∀ interval ∈ ["minute", "3minute", "5minute"], Supplied (feed.history interval)
  traded : ∃ snapshot pipeline, service.snapshot symbol feed = .ok snapshot ∧
    Clean service.settings.config snapshot (.utc feed.checkedAt) ∧
      service.settings.text.upper snapshot.symbol ∈ nifty50Symbols ∧
        position ∈ passing service.settings pipeline (snapshotCall feed snapshot)

/-- What passes in a call was let through by its quality report and the universe filter. -/
theorem admitted_of_passing {settings : PipelineSettings} {call : SnapshotCall}
    (member : position ∈ passing settings pipeline call) :
    ∃ quality, DataQualityMonitor.check settings.config call.snapshot (.utc call.checkedAt) =
      .ok quality ∧ (quality.ok = true ∨ quality.reasons = []) ∧
        settings.text.upper call.snapshot.symbol ∈ nifty50Symbols := by
  unfold passing at member
  split at member
  · cases member
  · next quality checked =>
    split at member
    · cases member
    · next admitted =>
      have allowed := (not_or.mp admitted).2
      rw [not_not, UniverseFilter.check] at allowed
      simp only [List.isEmpty_iff, List.append_eq_nil_iff, Risk.rejectIf_eq_nil, not_not] at allowed
      obtain ⟨⟨⟨⟨⟨listed, accepted⟩, -⟩, -⟩, -⟩, -⟩ := allowed
      refine ⟨quality, checked, ?_, listed⟩
      by_cases ok : quality.ok = true
      · exact .inl ok
      · rw [if_neg ok] at accepted
        exact .inr (List.map_eq_nil_iff.mp accepted)

theorem backed_of_passing (made : service.snapshot symbol feed = .ok snapshot)
    (member : position ∈ passing service.settings pipeline (snapshotCall feed snapshot)) :
    service.Backed symbol feed position := by
  obtain ⟨quality, checked, accepted, listed⟩ := admitted_of_passing member
  obtain ⟨report, same, clean, reasons⟩ :=
    check_fromQuote service.settings.config (snapshot_fromQuote made) (.utc feed.checkedAt)
  cases checked.symm.trans same
  obtain ⟨quoted, charted⟩ := snapshot_supplied made
  exact ⟨quoted, charted, snapshot, pipeline, made,
    clean.mp (accepted.elim id reasons.mpr), listed, member⟩

end IndiaService

/-- Every strategy opens at most one position. -/
theorem length_filledInTurn_le (rounds : List (Except RaisedError (Option VirtualPosition))) :
    (filledInTurn rounds).length ≤ rounds.length := by
  induction rounds with
  | nil => simp [filledInTurn]
  | cons round rest ih =>
    cases round with
    | error raised => simp [filledInTurn]
    | ok position =>
      have one : position.toList.length ≤ 1 := by cases position <;> simp
      rw [filledInTurn, List.length_append, List.length_cons]
      omega

theorem length_passing_le (settings : PipelineSettings) (pipeline : IntradayShadowPipeline)
    (call : SnapshotCall) :
    (passing settings pipeline call).length ≤ settings.strategies.length := by
  unfold passing
  split
  · simp
  · split
    · simp
    · split
      · split
        · simp
        · exact (length_filledInTurn_le _).trans (by simp [attempts])
      · simp

/-- An approval saw a slot free. -/
theorem RiskManager.approve_openCount {config : IntradayShadowConfig} {scored : ScoredSignal}
    {dataQuality : DataQualityReport} {state : ShadowRiskState}
    {currentRegime : Option MarketRegime}
    (approved : (approve config scored dataQuality state currentRegime).approved = true) :
    openCount state.openPositions < config.maxOpenPositions := by
  unfold approve at approved
  by_cases accepted :
      (rejectionReasons config scored dataQuality state currentRegime).eraseDups = []
  · rw [Risk.eraseDups_eq_nil] at accepted
    simp only [rejectionReasons, List.append_eq_nil_iff, Risk.rejectIf_eq_nil] at accepted
    exact not_le.mp accepted.1.1.1.1.1.2
  · rw [if_pos accepted] at approved
    cases approved

theorem openCount_lt_of_passing {settings : PipelineSettings} {pipeline : IntradayShadowPipeline}
    {call : SnapshotCall} {position : VirtualPosition}
    (member : position ∈ passing settings pipeline call) :
    openCount (call.state pipeline).openPositions < settings.config.maxOpenPositions := by
  obtain ⟨quality, _, _, -, _, -, passed⟩ := mem_passing settings pipeline call member
  obtain ⟨scored, -, -, approved⟩ := passed.approved
  exact RiskManager.approve_openCount approved

namespace IndiaService

variable {service : IndiaService} {symbol : String} {feed : SymbolFeed}
  {snapshot : MarketDataSnapshot} {pipeline : IntradayShadowPipeline}

/-- The positions which the service holds: all of them are open, and there are fewer than the
limit and one for each strategy. -/
structure Bounded (service : IndiaService) (pipeline : IntradayShadowPipeline) : Prop where
  isOpen : ∀ position ∈ pipeline.positions, position.isOpen = true
  few : pipeline.positions = [] ∨ pipeline.positions.length <
    service.settings.config.maxOpenPositions + service.settings.strategies.length

theorem Bounded.afterSymbol (bounded : service.Bounded pipeline) :
    service.Bounded (service.afterSymbol pipeline symbol feed) := by
  cases made : service.snapshot symbol feed with
  | error raised => rwa [afterSymbol_of_failed made]
  | ok snapshot =>
    rw [afterSymbol_of_made made]
    have positions := call_process_positions service.settings pipeline (snapshotCall feed snapshot)
    constructor
    · intro position member
      rw [positions, List.mem_append] at member
      exact member.elim (bounded.isOpen position) passing_isOpen
    · rw [positions]
      by_cases opens : passing service.settings pipeline (snapshotCall feed snapshot) = []
      · rw [opens, List.append_nil]
        exact bounded.few
      · right
        obtain ⟨position, member⟩ := List.exists_mem_of_ne_nil _ opens
        have free : openCount pipeline.positions < service.settings.config.maxOpenPositions :=
          openCount_lt_of_passing member
        have added := length_passing_le service.settings pipeline (snapshotCall feed snapshot)
        rw [openCount, List.countP_eq_length.mpr bounded.isOpen] at free
        rw [List.length_append]
        omega

/-- The snapshot of a symbol is made and is not clean. -/
def Degraded (service : IndiaService) (symbol : String) (feed : SymbolFeed) : Prop :=
  ∃ snapshot, service.snapshot symbol feed = .ok snapshot ∧
    ¬Clean service.settings.config snapshot (.utc feed.checkedAt)

/-- A snapshot which is not clean triggers the kill switch. -/
theorem Degraded.triggered (degraded : service.Degraded symbol feed) :
    Triggered (service.afterSymbol pipeline symbol feed) := by
  obtain ⟨snapshot, made, dirty⟩ := degraded
  obtain ⟨report, checked, clean, reasons⟩ :=
    check_fromQuote service.settings.config (snapshot_fromQuote made) (.utc feed.checkedAt)
  have rejected : report.ok = false := Bool.eq_false_iff.mpr fun ok => dirty (clean.mp ok)
  obtain ⟨reason, listed⟩ := List.exists_mem_of_ne_nil report.reasons
    fun none => dirty (clean.mp (reasons.mpr none))
  have evaluated := processSnapshot_killSwitch service.settings pipeline
    (snapshotCall feed snapshot) checked
  have kept : (KillSwitchManager.evaluate service.settings.config pipeline.killSwitch
      ((snapshotCall feed snapshot).state pipeline) (some report)).reasons ≠ [] := by
    have added : "data_quality:" ++ reason ∈ (KillSwitchManager.evaluate service.settings.config
        pipeline.killSwitch ((snapshotCall feed snapshot).state pipeline)
        (some report)).reasons := by
      simp only [KillSwitchManager.evaluate, List.mem_eraseDups, List.mem_append, rejected]
      exact .inl (.inl (.inr (List.mem_map_of_mem listed)))
    exact List.ne_nil_of_mem added
  rw [afterSymbol_of_made made]
  rw [Triggered, IntradayShadowPipeline.call, evaluated]
  exact ⟨(KillSwitchManager.evaluate_triggered _ _ _ _ _ _).mpr kept, kept⟩

/-- After that no symbol opens a position. -/
theorem afterSymbol_of_triggered (symbol : String) (feed : SymbolFeed)
    (triggered : Triggered pipeline) :
    Triggered (service.afterSymbol pipeline symbol feed) ∧
      (service.afterSymbol pipeline symbol feed).positions = pipeline.positions := by
  cases made : service.snapshot symbol feed with
  | error raised =>
    rw [afterSymbol_of_failed made]
    exact ⟨triggered, rfl⟩
  | ok snapshot =>
    rw [afterSymbol_of_made made]
    have latched : Latched service.settings pipeline
        (.pipeline (.process (snapshotCall feed snapshot))) ∧
          Triggered (pipeline.switchCall service.settings
            (.pipeline (.process (snapshotCall feed snapshot)))) := triggered.latched nofun
    exact ⟨latched.2, (latched.1.blocks _ rfl).positions⟩

end IndiaService

end Turns

section Runs

namespace IndiaService

variable {service : IndiaService} {feed : String → SymbolFeed}

theorem processSymbols_cons (pipeline : IntradayShadowPipeline) (symbol : String)
    (rest : List String) : (service.processSymbols feed pipeline (symbol :: rest)).2 =
      (service.processSymbols feed (service.afterSymbol pipeline symbol (feed symbol)) rest).2 := by
  rw [processSymbols, afterSymbol]
  cases (service.processSymbol symbol (feed symbol)).run pipeline with
  | mk processed next => cases processed <;> rfl

theorem processSymbols_accounts (service : IndiaService) (feed : String → SymbolFeed)
    (pipeline : IntradayShadowPipeline) (symbols : List String) :
    (service.processSymbols feed pipeline symbols).1.results.length +
      (service.processSymbols feed pipeline symbols).1.blocked.length = symbols.length := by
  induction symbols generalizing pipeline with
  | nil => rfl
  | cons symbol rest ih =>
    rw [processSymbols]
    cases (service.processSymbol symbol (feed symbol)).run pipeline with
    | mk processed next =>
      have counted := ih next
      cases processed with
      | ok result =>
        dsimp only
        rw [List.length_cons, List.length_cons]
        omega
      | error raised =>
        dsimp only
        rw [List.length_cons, List.length_cons]
        omega

/-- The symbols of a call are different and not empty. -/
theorem cleanSymbols_nodup (text : SymbolText) (symbols : List String) :
    (cleanSymbols text symbols).Nodup ∧ "" ∉ cleanSymbols text symbols := by
  unfold cleanSymbols
  induction symbols using List.reverseRecOn with
  | nil => simp
  | append_singleton symbols symbol ih =>
    rw [List.foldl_append, List.foldl_cons, List.foldl_nil]
    dsimp only
    split
    · next fresh =>
      refine ⟨List.Nodup.append ih.1 (List.nodup_singleton _) ?_, ?_⟩
      · simpa using fresh.2
      · simpa using ⟨ih.2, fresh.1⟩
    · exact ih

/-- Each symbol which a call asks for is processed or blocked, and a call without symbols is
blocked as a whole. -/
theorem runIndiaOnce_accounts (pipeline : IntradayShadowPipeline) (call : IndiaCall) :
    let report := (service.runIndiaOnce pipeline call).1
    (report.symbolsRequested.Nodup ∧ "" ∉ report.symbolsRequested) ∧
      report.symbolsProcessed + report.blocked.length = max 1 report.symbolsRequested.length := by
  refine ⟨cleanSymbols_nodup _ _, ?_⟩
  have counted := service.processSymbols_accounts call.feed pipeline
    (call.selected service.settings.text)
  rw [runIndiaOnce]
  dsimp only
  by_cases empty : call.selected service.settings.text = []
  · rw [empty] at counted
    simp only [empty, if_true, List.length_append, List.length_singleton,
      List.length_nil] at counted ⊢
    omega
  · have some := List.length_pos_iff.mpr empty
    rw [if_neg empty, List.nil_append, counted]
    omega

/-- What each symbol keeps the loop keeps. -/
theorem processSymbols_keeps (holds : IntradayShadowPipeline → Prop) {symbols : List String}
    (keeps : ∀ pipeline, ∀ symbol ∈ symbols, holds pipeline →
      holds (service.afterSymbol pipeline symbol (feed symbol)))
    {pipeline : IntradayShadowPipeline} (before : holds pipeline) :
    holds (service.processSymbols feed pipeline symbols).2 := by
  induction symbols generalizing pipeline with
  | nil => exact before
  | cons symbol rest ih =>
    have next := keeps pipeline symbol List.mem_cons_self before
    rw [processSymbols_cons]
    exact ih (fun pipeline symbol member => keeps pipeline symbol
      (List.mem_cons_of_mem _ member)) next

/-- A degraded symbol leaves the switch triggered, whatever follows it. -/
theorem processSymbols_degraded {symbols : List String} {symbol : String}
    (member : symbol ∈ symbols) (degraded : service.Degraded symbol (feed symbol))
    (pipeline : IntradayShadowPipeline) :
    Triggered (service.processSymbols feed pipeline symbols).2 := by
  induction symbols generalizing pipeline with
  | nil => cases member
  | cons first rest ih =>
    rw [processSymbols_cons]
    rcases List.mem_cons.mp member with rfl | member
    · apply processSymbols_keeps Triggered
      · exact fun _ _ _ triggered => (afterSymbol_of_triggered _ _ triggered).1
      · exact degraded.triggered
    · exact ih member _

/-- The pipeline after calls of the service. -/
def afterCalls (service : IndiaService) (pipeline : IntradayShadowPipeline)
    (calls : List IndiaCall) : IntradayShadowPipeline :=
  calls.foldl (fun pipeline call => (service.runIndiaOnce pipeline call).2) pipeline

theorem afterCalls_keeps (holds : IntradayShadowPipeline → Prop) {calls : List IndiaCall}
    (keeps : ∀ pipeline, ∀ call ∈ calls, ∀ symbol ∈ call.selected service.settings.text,
      holds pipeline → holds (service.afterSymbol pipeline symbol (call.feed symbol)))
    {pipeline : IntradayShadowPipeline} (before : holds pipeline) :
    holds (service.afterCalls pipeline calls) := by
  induction calls generalizing pipeline with
  | nil => exact before
  | cons call rest ih =>
    exact ih (fun pipeline other member => keeps pipeline other (List.mem_cons_of_mem _ member))
      (processSymbols_keeps holds (keeps · call List.mem_cons_self) before)

/-- The position was opened in one of the calls, and its snapshot backs it. -/
def BackedIn (service : IndiaService) (calls : List IndiaCall)
    (position : VirtualPosition) : Prop :=
  ∃ call ∈ calls, ∃ symbol ∈ call.selected service.settings.text,
    service.Backed symbol (call.feed symbol) position

/-- All positions of the pipeline are. -/
def AllBacked (service : IndiaService) (calls : List IndiaCall)
    (pipeline : IntradayShadowPipeline) : Prop :=
  ∀ position ∈ pipeline.positions, service.BackedIn calls position

theorem AllBacked.afterSymbol {calls : List IndiaCall} {pipeline : IntradayShadowPipeline}
    (backed : service.AllBacked calls pipeline) {call : IndiaCall} (called : call ∈ calls)
    {symbol : String} (selected : symbol ∈ call.selected service.settings.text) :
    service.AllBacked calls (service.afterSymbol pipeline symbol (call.feed symbol)) := by
  intro position member
  cases made : service.snapshot symbol (call.feed symbol) with
  | error raised =>
    rw [afterSymbol_of_failed made] at member
    exact backed position member
  | ok snapshot =>
    rw [afterSymbol_of_made made, call_process_positions, List.mem_append] at member
    exact member.elim (backed position) fun opened =>
      ⟨call, called, symbol, selected, backed_of_passing made opened⟩

/-- Calls after a degraded one open nothing. -/
theorem afterCalls_of_triggered {pipeline : IntradayShadowPipeline} (triggered : Triggered pipeline)
    (calls : List IndiaCall) :
    (service.afterCalls pipeline calls).positions = pipeline.positions := by
  have both : Triggered (service.afterCalls pipeline calls) ∧
      (service.afterCalls pipeline calls).positions = pipeline.positions := by
    apply afterCalls_keeps (fun after => Triggered after ∧ after.positions = pipeline.positions) _
      ⟨triggered, rfl⟩
    rintro after call - symbol - ⟨stays, same⟩
    obtain ⟨next, kept⟩ := afterSymbol_of_triggered symbol (call.feed symbol) stays
    exact ⟨next, kept.trans same⟩
  exact both.2

/-- Every position which the service ever holds was opened on a snapshot which was clean and of
which all four requests were answered. It never holds as many as its limit and one for each
strategy together, and after a run in which a snapshot was not clean it opens none. -/
theorem runIndiaOnce_positions (service : IndiaService) (calls : List IndiaCall) :
    (∀ position ∈ (service.afterCalls {} calls).positions, service.BackedIn calls position) ∧
    ((service.afterCalls {} calls).positions = [] ∨
      (service.afterCalls {} calls).positions.length <
        service.settings.config.maxOpenPositions + service.settings.strategies.length) ∧
    ∀ earlier call later, calls = earlier ++ call :: later →
      ∀ symbol ∈ call.selected service.settings.text,
        service.Degraded symbol (call.feed symbol) →
          (service.afterCalls {} calls).positions =
            (service.afterCalls {} (earlier ++ [call])).positions := by
  refine ⟨?_, ?_, ?_⟩
  · have none : service.AllBacked calls {} := by
      intro position member
      cases member
    exact afterCalls_keeps (service.AllBacked calls)
      (fun _ _ called _ selected backed => backed.afterSymbol called selected) none
  · have start : service.Bounded {} := by
      refine ⟨?_, .inl rfl⟩
      intro position member
      cases member
    exact (afterCalls_keeps service.Bounded (fun _ _ _ _ _ bounded => bounded.afterSymbol)
      start).few
  · rintro earlier call later rfl symbol selected degraded
    have triggered : Triggered (service.afterCalls {} (earlier ++ [call])) := by
      rw [afterCalls, List.foldl_append]
      exact processSymbols_degraded selected degraded _
    have parts : service.afterCalls {} (earlier ++ call :: later) =
        service.afterCalls (service.afterCalls {} (earlier ++ [call])) later := by
      simp only [afterCalls, List.foldl_append, List.foldl_cons, List.foldl_nil]
    rw [parts]
    exact afterCalls_of_triggered triggered later

/-- A quote without a price degrades its symbol. -/
theorem degraded_of_lastPrice {symbol : String} {feed : SymbolFeed}
    (free : (service.snapshot symbol feed).toOption.any (·.lastPrice ≤ 0) = true) :
    service.Degraded symbol feed := by
  cases made : service.snapshot symbol feed with
  | error raised =>
    rw [made] at free
    cases free
  | ok snapshot =>
    rw [made] at free
    exact ⟨snapshot, made, fun clean => absurd clean.price (not_lt.mpr (of_decide_eq_true free))⟩

end IndiaService

open IndiaService

/-- Five rising minutes from a quarter past nine in Mumbai. -/
def risingHistory : Mapping :=
  let row (minute : ℤ) (price volume : ℚ) : KiteCandle :=
    ⟨⟨1778663700000000 + minute * 60000000, 330, false⟩, price, price + 1 / 2, price - 1 / 2,
      price, volume, []⟩
  [("data", .object [("candles", .list ([row 0 100 1000, row 1 101 1300, row 2 102 1600,
    row 3 103 1900, row 4 104 2200].map KiteCandle.json))])]

/-- An answer with a quote of the symbol. -/
def relianceQuote (payload : Mapping) : Request :=
  ⟨true, .answered 200 (some (.object [("data", .object [("NSE:RELIANCE",
    .object (("instrument_token", .number 738561) :: payload))])]))⟩

def relianceRun (payload : Mapping) : IndiaCall where
  symbols := ["RELIANCE"]
  configured := []
  feed _ :=
    { quote := relianceQuote payload
      window := .ok ()
      history := fun _ => ⟨true, .answered 200 (some (.object risingHistory))⟩
      quotedAt := 1778644200000000
      checkedAt := 1778644201000000
      orderedAt := fun _ => 1778644202000000
      reviews := .disabled }

/-- A run which opens a position in the trend. -/
def trendRun : IndiaCall :=
  relianceRun [("last_price", .number (1049 / 10)), ("volume", .number 100000),
    ("average_price", .number (1046 / 10)),
    ("ohlc", .object [("open", .number 101), ("close", .number 100)])]

def defaultService : IndiaService := ⟨fun _ => "None", defaultSettings⟩

/-- Three such runs open two positions, and one where the second has no price in its quote. -/
theorem runIndiaOnce_positions_trend :
    (defaultService.afterCalls {} [trendRun, trendRun, trendRun]).positions.map
        VirtualPosition.strategy = ["VWAP_TREND_LONG", "VWAP_TREND_LONG"] ∧
      (defaultService.afterCalls {} [trendRun, relianceRun [], trendRun]).positions.map
        VirtualPosition.strategy = ["VWAP_TREND_LONG"] := by
  constructor
  · decide +kernel
  · rw [(runIndiaOnce_positions defaultService [trendRun, relianceRun [], trendRun]).2.2 [trendRun]
      (relianceRun []) [trendRun] rfl "RELIANCE" (by decide +kernel)
      (degraded_of_lastPrice (by decide +kernel))]
    decide +kernel

end Runs

end AlphaAgent.Intraday
