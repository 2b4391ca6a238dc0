import AlphaAgent.Backtesting.Invested

/-!
# Gaps below the stop

`evaluate_exit` books a stop at the position's stored level, whatever the bar
traded. An exit is within its bar exactly when the stop of every position which
is checked against a bar is no higher than the bar. A profit target is never
booked above its bar.
-/

namespace AlphaAgent.Backtesting

open Foundation Fallible Paper

/-- An accepted exit at a stop or at a profit target. -/
def LevelExit (entry : PaperTradeJournalEntry) : Prop :=
  entry.status = .closed ∧ (entry.exitReason = .stopLoss ∨ entry.exitReason = .profitTarget)

instance : DecidablePred LevelExit := fun entry =>
  inferInstanceAs (Decidable (entry.status = .closed ∧
    (entry.exitReason = .stopLoss ∨ entry.exitReason = .profitTarget)))

/-- No exit which was booked at one of the candles asked for more than the
candle's high. -/
def ExitsWithinBars (series : List Candle) (journal : List PaperTradeJournalEntry) : Prop :=
  ∀ entry ∈ journal, LevelExit entry → ∀ candle ∈ series, entry.timestamp = stamp candle →
    entry.requestedPrice ≤ candle.high

instance (series : List Candle) (journal : List PaperTradeJournalEntry) :
    Decidable (ExitsWithinBars series journal) :=
  inferInstanceAs (Decidable (∀ entry ∈ journal, LevelExit entry → ∀ candle ∈ series,
    entry.timestamp = stamp candle → entry.requestedPrice ≤ candle.high))

/-- Exits at a candle can be booked: its timestamp has a UTC reading, and
slippage takes no more than the whole price. -/
def CanExit (engine : PaperTradingEngine) (candle : Candle) : Prop :=
  (∃ submittedAt, candle.timestamp.toUtc = .ok submittedAt) ∧
    engine.costModel.slippageBps.val ≤ 10000

section Journal

variable {series : List Candle}

theorem exitsWithinBars_concat (journal : List PaperTradeJournalEntry)
    (entry : PaperTradeJournalEntry) :
    ExitsWithinBars series (journal ++ [entry]) ↔
      ExitsWithinBars series journal ∧ ExitsWithinBars series [entry] := by
  simp only [ExitsWithinBars, List.forall_mem_append]

/-- Entries which are no exits at a level do not matter. -/
theorem Appends.exitsWithinBars {booked : PaperTradeJournalEntry → Prop}
    {engine next : PaperTradingEngine} (appends : Appends booked engine next)
    (unlevelled : ∀ entry, booked entry → ¬LevelExit entry) :
    ExitsWithinBars series next.journal ↔ ExitsWithinBars series engine.journal := by
  obtain ⟨entries, grown, allBooked⟩ := appends
  rw [grown]
  constructor
  · intro within entry member
    exact within entry (List.mem_append_left entries member)
  · intro within entry member
    rcases List.mem_append.mp member with before | added
    · exact within entry before
    · intro level
      exact absurd level (unlevelled entry (allBooked entry added))

/-- An entry without a level as its reason is no exit at a level. -/
theorem not_levelExit {entry : PaperTradeJournalEntry}
    (reason : entry.exitReason = .none ∨ entry.exitReason = .endOfBacktest) :
    ¬LevelExit entry := by
  rintro ⟨-, level⟩
  rcases reason with same | same <;> simp [same] at level

/-- A booking which is no accepted exit does not matter. -/
theorem exitsWithinBars_of_refused {engine next : PaperTradingEngine} {request : PaperOrderRequest}
    {exitReason : PaperExitReason} {result : PaperExecutionResult}
    (books : Books engine request exitReason result next)
    (refused : ∀ position, ¬ExitAccepted engine request position) :
    ExitsWithinBars series next.journal ↔ ExitsWithinBars series engine.journal := by
  have unlevelled : ∀ entry : PaperTradeJournalEntry, entry.exitReason = .none →
      ExitsWithinBars series [entry] := by
    intro entry reason other only exit
    obtain rfl := List.mem_singleton.mp only
    exact absurd exit (not_levelExit (.inl reason))
  cases books with
  | blocked reason message =>
    exact (exitsWithinBars_concat _ _).trans (and_iff_left (unlevelled _ rfl))
  | opened stopLoss accepted =>
    exact (exitsWithinBars_concat _ _).trans (and_iff_left (unlevelled _ rfl))
  | closed position accepted => exact absurd accepted (refused position)

end Journal

section Loop

variable (session : Session)

/-- Submitting a whole position at a price books an exit within the bar exactly
when the price is no higher than the bar, or the exit cannot be booked. -/
theorem submitExit_within {series : List Candle} {candle : Candle} {engine : PaperTradingEngine}
    {position : PaperPosition} {exitReason : PaperExitReason} (price : ℚ) (check : String)
    (stampedOnce : ∀ other ∈ series, stamp candle = stamp other → other = candle)
    (member : candle ∈ series) (positive : 0 < candle.high) (invested : Invested session engine)
    (held : engine.positions.get? session.symbol = some position)
    (level : exitReason = .stopLoss ∨ exitReason = .profitTarget) :
    ExitsWithinBars series ((submitOrder session.text
        (exitRequest position price candle.timestamp check) exitReason).run engine).2.journal ↔
      ExitsWithinBars series engine.journal ∧ (CanExit engine candle → price ≤ candle.high) := by
  by_cases canBook : CanExit engine candle ∧ 0 < price
  · obtain ⟨⟨⟨submittedAt, converted⟩, slippage⟩, priced⟩ := canBook
    have whole := exitRequest_whole session invested held price candle.timestamp submittedAt check
    have accepted := (exitAccepted_iff session invested held whole).mpr ⟨priced, slippage⟩
    have booked := run_closePosition_accepted exitReason accepted
    have ran : ((submitOrder session.text (exitRequest position price candle.timestamp check)
        exitReason).run engine).2 = engine.closed (normalizedRequest session.text
          (exitRequest position price candle.timestamp check) submittedAt) exitReason position := by
      simp only [submitOrder, run_bind, run_ofExcept, exitRequest, converted, normalizedRequest]
      exact congrArg Prod.snd booked
    have stamped : submittedAt = stamp candle := DateTime.toUtc_eq_utc converted
    rw [ran]
    refine (exitsWithinBars_concat _ _).trans (and_congr_right fun _ => ?_)
    constructor
    · intro within _
      exact within _ (List.mem_singleton_self _) ⟨rfl, level⟩ candle member stamped
    · intro atMost entry only _ other otherMember same
      obtain rfl := List.mem_singleton.mp only
      obtain rfl := stampedOnce other otherMember (stamped.symm.trans same)
      exact atMost ⟨⟨submittedAt, converted⟩, slippage⟩
  · have below : CanExit engine candle → price ≤ candle.high := by
      intro canExit
      have nonpos : price ≤ 0 := not_lt.mp fun priced => canBook ⟨canExit, priced⟩
      exact nonpos.trans positive.le
    have same : ExitsWithinBars series ((submitOrder session.text
        (exitRequest position price candle.timestamp check) exitReason).run engine).2.journal ↔
          ExitsWithinBars series engine.journal := by
      rcases run_submitOrder session.text engine
        (exitRequest position price candle.timestamp check) exitReason with
        ⟨raised, failed⟩ | ⟨submittedAt, result, converted, -, books⟩
      · rw [failed]
      · refine exitsWithinBars_of_refused books ?_
        intro other accepted
        have normalized := accepted.held
        change engine.positions.get? (session.text.normalize position.symbol) =
          some other at normalized
        rw [(invested position held).1, session.normalized, held] at normalized
        cases normalized
        have whole := exitRequest_whole session invested held price candle.timestamp submittedAt
          check
        obtain ⟨priced, slippage⟩ := (exitAccepted_iff session invested held whole).mp accepted
        exact canBook ⟨⟨⟨submittedAt, converted⟩, slippage⟩, priced⟩
    rw [same, and_iff_left below]

/-- The branch of the exit check which books at a level the bar did not reach
is not taken: a checked position has its stop no higher than the bar. -/
def StopWithinBar (candle : Candle) (engine : PaperTradingEngine) : Prop :=
  ∀ position, engine.positions.get? session.symbol = some position → CanExit engine candle →
    position.stopLoss ≤ candle.high

/-- The same for the position that is open once the strategy was asked, which
is the one that the pass over the candle checks. -/
def AskedStopWithinBar (history : List Candle) (candle : Candle) (engine : PaperTradingEngine) :
    Prop :=
  ∀ asked, (askStrategy session history candle).run engine = (.ok (), asked) →
    StopWithinBar session candle asked

section Series

variable {series : List Candle}
  (stampedOnce : ∀ candle ∈ series, ∀ other ∈ series, stamp candle = stamp other → other = candle)
  (checked : ∀ candle ∈ series, checkCandle candle = .ok ())

include stampedOnce checked

theorem checkExit_within {candle : Candle} (member : candle ∈ series)
    {engine : PaperTradingEngine} (invested : Invested session engine) :
    ExitsWithinBars series ((checkExit session candle).run engine).2.journal ↔
      ExitsWithinBars series engine.journal ∧ StopWithinBar session candle engine := by
  obtain ⟨positive, ordered⟩ := checkCandle_ok (checked candle member)
  rcases checkExit_cases session candle engine with
    ⟨nothing, below⟩ | ⟨position, price, check, exitReason, held, submitted, reached⟩
  · rw [nothing]
    refine (and_iff_left ?_).symm
    intro position held _
    exact (below position held (invested position held).2.1).le.trans ordered
  · rw [submitted]
    have booked := submitExit_within session price check (stampedOnce candle member) member
      positive invested held (reached.imp And.left And.left)
    refine booked.trans (and_congr_right fun _ => ?_)
    have single : StopWithinBar session candle engine ↔
        (CanExit engine candle → position.stopLoss ≤ candle.high) := by
      constructor
      · intro within
        exact within position held
      · intro within other same
        rw [held] at same
        cases same
        exact within
    rw [single]
    rcases reached with ⟨-, rfl, -⟩ | ⟨-, atMost, below⟩
    · rfl
    · exact iff_of_true (fun _ => atMost) fun _ => below.le.trans ordered

/-- One candle: what it books is within its bar exactly when a position which
it checks has its stop no higher than the bar. -/
theorem processCandle_within (history : List Candle) {candle : Candle} (member : candle ∈ series)
    {engine : PaperTradingEngine} (invested : Invested session engine) :
    ExitsWithinBars series ((processCandle session history candle).run engine).2.journal ↔
      ExitsWithinBars series engine.journal ∧
        AskedStopWithinBar session history candle engine := by
  have stillInvested := (invested_kept session).asked invested history candle
  have entered : ExitsWithinBars series
      ((askStrategy session history candle).run engine).2.journal ↔
        ExitsWithinBars series engine.journal := by
    apply (askStrategy_appends session history candle engine).exitsWithinBars
    rintro entry ⟨-, -, reason⟩
    exact not_levelExit (.inl reason)
  rw [AskedStopWithinBar]
  cases ran : (askStrategy session history candle).run engine with
  | mk outcome asked =>
    rw [ran] at stillInvested entered
    cases outcome with
    | error raised =>
      rw [processCandle_raised session ran, entered]
      refine (and_iff_left ?_).symm
      rintro next ⟨⟩
    | ok _ =>
      rw [processCandle_engine session ran,
        checkExit_within session stampedOnce checked member stillInvested, entered]
      apply and_congr_right
      intro _
      constructor
      · rintro within next ⟨⟩
        exact within
      · intro within
        exact within asked rfl

/-- The whole run: what it books is within the bars exactly when every position
which it checks has its stop no higher than the bar it is checked against. -/
theorem backtest_within (config : BacktestConfig) {engine : PaperTradingEngine}
    (invested : Invested session engine) :
    ExitsWithinBars series ((backtest session config series).run engine).2.journal ↔
      ExitsWithinBars series engine.journal ∧
        AtEachStep (processCandle session) (AskedStopWithinBar session) [] series engine := by
  have looped : ExitsWithinBars series
      ((scan (processCandle session) [] series).run engine).2.journal ↔
        ExitsWithinBars series engine.journal ∧
          AtEachStep (processCandle session) (AskedStopWithinBar session) [] series engine := by
    refine scan_iff _ (fun next => ExitsWithinBars series next.journal) ?_ ?_ [] invested
    · intro history candle _ before
      exact processCandle_invested session history candle
    · intro history candle member before
      exact processCandle_within session stampedOnce checked history member
  rw [← looped, backtest, run_bind]
  cases (scan (processCandle session) [] series).run engine with
  | mk outcome next =>
    cases outcome with
    | error raised => rfl
    | ok points =>
      simp only [bind_pure_comp, run_map]
      apply (closeOnEnd_appends session config series next).exitsWithinBars
      intro entry reason
      exact not_levelExit reason

end Series

end Loop

section Runs

variable (config : BacktestConfig) (text : SymbolText) (symbol : String) (market : Market)
  (candles : List Candle) (strategy : StrategyCallback)

/-- The journal of the backtest's engine when the run ends, also when it raises. -/
def bookedJournal : List PaperTradeJournalEntry :=
  match validatedCandles candles, PaperTradingEngine.create config.startingCash
    (some config.costModel) (some config.riskLimits) with
  | .ok orderedCandles, .ok engine =>
    ((backtest (.of text symbol market strategy) config orderedCandles).run engine).2.journal
  | _, _ => []

/-- A run which returns has returned this journal. -/
theorem tradeJournal_eq_bookedJournal {result : BacktestResult}
    (returned : runSingleSymbol config text symbol market candles strategy = .ok result) :
    result.tradeJournal = bookedJournal config text symbol market candles strategy := by
  obtain ⟨engine, last, validated, created, ran, journal, -⟩ := runSingleSymbol_ok returned
  simp only [bookedJournal, validated, created, ran, journal]

/-- In a run over valid candles, every position which is checked against a bar
has its stop no higher than that bar, or cannot be exited there. -/
def CheckedStopsWithinBars : Prop :=
  ∀ engine, validatedCandles candles = .ok candles →
    PaperTradingEngine.create config.startingCash (some config.costModel)
      (some config.riskLimits) = .ok engine →
    AtEachStep (processCandle (.of text symbol market strategy))
      (AskedStopWithinBar (.of text symbol market strategy)) [] candles engine

/-- Every accepted stop or target exit of a backtest asks for no more than the
high of its bar, if and only if no position is checked against a bar which lies
entirely below its stop. -/
theorem exitsWithinBars_iff :
    ExitsWithinBars candles (bookedJournal config text symbol market candles strategy) ↔
      CheckedStopsWithinBars config text symbol market candles strategy := by
  have nothing : ExitsWithinBars candles [] := fun _ member => absurd member List.not_mem_nil
  unfold bookedJournal CheckedStopsWithinBars
  cases validated : validatedCandles candles with
  | error raised =>
    refine iff_of_true nothing ?_
    rintro engine ⟨⟩
  | ok ordered =>
    obtain ⟨rfl, checked, distinct⟩ := validatedCandles_ok validated
    cases created : PaperTradingEngine.create config.startingCash (some config.costModel)
        (some config.riskLimits) with
    | error raised =>
      refine iff_of_true nothing ?_
      rintro engine - ⟨⟩
    | ok engine =>
      obtain ⟨positive, rfl⟩ := PaperTradingEngine.create_ok created
      have booked := backtest_within (.of text symbol market strategy)
        (stampedOnce_of_nodup distinct) checked config
        (invested_fresh _ ⟨config.startingCash, positive⟩ config.costModel config.riskLimits)
      refine (booked.trans (and_iff_right nothing)).trans ?_
      constructor
      · rintro within other - ⟨⟩
        exact within
      · intro within
        exact within _ rfl rfl

end Runs

/-- A strategy which always buys with its stop at 95. -/
def stopAt95 : StrategyCallback := fun _ =>
  .ok (some { symbol := "ABC", market := .india, quantity := 10, stopLoss := 95 })

/-- An entry at 101, and then a bar which trades between 79 and 82. -/
def gapSeries : List Candle :=
  [{ timestamp := .utc 0, «open» := 100, high := 101, low := 99, close := 100 },
    { timestamp := .utc 300000000, «open» := 101, high := 102, low := 100, close := 101 },
    { timestamp := .utc 600000000, «open» := 80, high := 82, low := 79, close := 81 }]

/-- Under the default configuration the gap is filled at the stop, 13 above the
highest price of its bar. -/
theorem bookedJournal_above_bar :
    ¬ExitsWithinBars gapSeries (bookedJournal {} .plain "ABC" .india gapSeries stopAt95) := by
  decide +kernel

end AlphaAgent.Backtesting
