import AlphaAgent.Backtesting.Loop

/-!
# No lookahead

What a backtest books and marks up to a candle is a function of the candles up
to it. A run is divided at a candle: the candles before it lead to an engine,
which later candles cannot change back, since they book at other instants. Two
runs over the same first candles then share that engine.
-/

namespace AlphaAgent.Backtesting

open Foundation Fallible Paper

/-- The entries which were booked at one of the candles. -/
def bookedAt (candles : List Candle) (journal : List PaperTradeJournalEntry) :
    List PaperTradeJournalEntry :=
  journal.filter fun entry => ∃ candle ∈ candles, entry.timestamp = stamp candle

/-- The entry orders which were booked at a candle, accepted or blocked. -/
def enteredAt (candle : Candle) (journal : List PaperTradeJournalEntry) :
    List PaperTradeJournalEntry :=
  journal.filter fun entry => entry.side = .buy ∧ entry.timestamp = stamp candle

/-- Candles at distinct instants have distinct stamps. -/
theorem stamp_ne_of_nodup {before after : List Candle}
    (distinct : ((before ++ after).map (·.timestamp.instant)).Nodup) {candle later : Candle}
    (member : candle ∈ before) (follows : later ∈ after) : stamp later ≠ stamp candle := by
  intro same
  rw [List.map_append, List.nodup_append] at distinct
  have instant : later.timestamp.instant = candle.timestamp.instant :=
    congrArg DateTime.wallClock same
  exact distinct.2.2 _ (List.mem_map_of_mem member) _ (List.mem_map_of_mem follows) instant.symm

section Loop

variable (session : Session)

/-- The strategy is asked with the history alone, and its order takes nothing
but the open and the timestamp from the candle. -/
theorem askStrategy_congr (history : List Candle) {candle other : Candle}
    (timestamp : candle.timestamp = other.timestamp) (opens : candle.open = other.open) :
    askStrategy session history candle = askStrategy session history other := by
  have request : ∀ signal, entryRequest session signal candle =
      entryRequest session signal other := by
    intro signal
    simp only [entryRequest, timestamp, opens]
  simp only [askStrategy, submitSignal, request]

/-- A backtest which leaves its position open ends with the loop. -/
theorem backtest_of_keptOpen {config : BacktestConfig} {candles : List Candle}
    {engine last : PaperTradingEngine} {points : List EquityCurvePoint}
    (keptOpen : config.closeOpenPositionsOnEnd = false)
    (returned : (backtest session config candles).run engine = (.ok points, last)) :
    (scan (processCandle session) [] candles).run engine = (.ok points, last) := by
  obtain ⟨marked, next, ran, continued⟩ := run_bind_ok engine returned
  obtain ⟨closing, final, closed, ended⟩ := run_bind_ok next continued
  have nothing : (closeOnEnd session config candles).run next = (.ok [], next) := by
    unfold closeOnEnd
    simp only [run_bind, run_get]
    cases candles.getLast? with
    | none => rfl
    | some finalCandle => simp [keptOpen]
  rw [nothing] at closed
  cases closed
  rw [List.append_nil] at ended
  cases ended
  exact ran

/-- Of what a candle and the candles after it book, only the strategy's order
enters at that candle. -/
theorem enteredAt_of_ask {history rest : List Candle} {candle : Candle}
    {engine last : PaperTradingEngine} {points : List EquityCurvePoint}
    (distinct : ∀ later ∈ rest, stamp later ≠ stamp candle)
    (returned : (scan (processCandle session) history (candle :: rest)).run engine =
      (.ok points, last)) :
    enteredAt candle last.journal =
      enteredAt candle ((askStrategy session history candle).run engine).2.journal := by
  rw [scan] at returned
  obtain ⟨point, next, processed, continued⟩ := run_bind_ok engine returned
  obtain ⟨later, final, ran, ended⟩ := run_bind_ok next continued
  cases ended
  obtain ⟨_, asked, entered, checked⟩ := run_bind_ok engine processed
  obtain ⟨_, exited, left, marked⟩ := run_bind_ok asked checked
  have rested := candles_appends session (history ++ [candle]) rest next
  rw [ran] at rested
  have kept := equityPoint_keeps session candle exited
  rw [marked] at kept
  obtain rfl : next = exited := kept
  have exits := checkExit_appends session candle asked
  rw [left] at exits
  calc enteredAt candle last.journal = enteredAt candle next.journal := by
        apply rested.filter_eq
        rintro entry ⟨later, member, booked⟩
        have other : entry.timestamp ≠ stamp candle := by
          rw [booked]
          exact distinct later member
        simp [other]
    _ = enteredAt candle asked.journal := by
        apply exits.filter_eq
        rintro entry ⟨-, sells⟩
        simp [sells]
    _ = enteredAt candle ((askStrategy session history candle).run engine).2.journal := by
        rw [entered]

end Loop

section Runs

variable {config : BacktestConfig} {text : SymbolText} {symbol : String} {market : Market}
  {strategy : StrategyCallback}

/-- A run divided before a candle: the candles before it lead to an engine with
their points and their entries, and the entry order of the candle is the one
which the strategy places there. -/
theorem runSingleSymbol_divides {candles : List Candle} {result : BacktestResult} (k : ℕ)
    (keptOpen : config.closeOpenPositionsOnEnd = false)
    (ran : runSingleSymbol config text symbol market candles strategy = .ok result) :
    ∃ engine middle,
      PaperTradingEngine.create config.startingCash (some config.costModel)
        (some config.riskLimits) = .ok engine ∧
      (scan (processCandle (.of text symbol market strategy)) [] (candles.take k)).run engine =
        (.ok (result.equityCurve.take k), middle) ∧
      bookedAt (candles.take k) result.tradeJournal = bookedAt (candles.take k) middle.journal ∧
      ∀ candle, candles[k]? = some candle →
        enteredAt candle result.tradeJournal = enteredAt candle
          ((askStrategy (.of text symbol market strategy) (candles.take k) candle).run
            middle).2.journal := by
  obtain ⟨engine, last, validated, created, returned, journal, -⟩ := runSingleSymbol_ok ran
  obtain ⟨-, -, distinct⟩ := validatedCandles_ok validated
  rw [← List.take_append_drop k candles] at distinct
  have looped := backtest_of_keptOpen _ keptOpen returned
  obtain ⟨middle, ranEarly, ranLate⟩ := scan_take _ k looped
  refine ⟨engine, middle, created, ranEarly, ?_, ?_⟩
  · have rested := candles_appends (.of text symbol market strategy)
      ([] ++ candles.take k) (candles.drop k) middle
    rw [ranLate] at rested
    rw [journal]
    apply rested.filter_eq
    rintro entry ⟨later, follows, booked⟩
    rw [decide_eq_false_iff_not]
    rintro ⟨candle, member, same⟩
    exact stamp_ne_of_nodup distinct member follows (booked.symm.trans same)
  · intro candle reached
    have next : candles.drop k = candle :: candles.drop (k + 1) := by
      obtain ⟨inside, rfl⟩ := List.getElem?_eq_some_iff.mp reached
      exact List.drop_eq_getElem_cons inside
    rw [next] at ranLate distinct
    rw [journal]
    refine enteredAt_of_ask _ (fun later follows => ?_) ranLate
    rw [List.append_cons] at distinct
    exact stamp_ne_of_nodup distinct (List.mem_append_right _ (List.mem_singleton_self candle))
      follows

/-- Two backtests over series which agree on the first `k` candles book the same
entries and mark the same points at these candles; and the entry order at the
next candle is the same as soon as that candle has the same timestamp and the
same open in both series. -/
theorem runSingleSymbol_no_lookahead {first second : List Candle} {one other : BacktestResult}
    (k : ℕ) (keptOpen : config.closeOpenPositionsOnEnd = false)
    (agree : first.take k = second.take k)
    (ranOne : runSingleSymbol config text symbol market first strategy = .ok one)
    (ranOther : runSingleSymbol config text symbol market second strategy = .ok other) :
    bookedAt (first.take k) one.tradeJournal = bookedAt (second.take k) other.tradeJournal ∧
      one.equityCurve.take k = other.equityCurve.take k ∧
      ∀ candle another, first[k]? = some candle → second[k]? = some another →
        candle.timestamp = another.timestamp → candle.open = another.open →
        enteredAt candle one.tradeJournal = enteredAt another other.tradeJournal := by
  obtain ⟨engine, middle, created, ranEarly, booked, entered⟩ :=
    runSingleSymbol_divides k keptOpen ranOne
  obtain ⟨engine', middle', created', ranEarly', booked', entered'⟩ :=
    runSingleSymbol_divides k keptOpen ranOther
  -- Both engines start alike and run over the same first candles.
  obtain rfl : engine = engine' := Except.ok.inj (created.symm.trans created')
  rw [agree, ranEarly'] at ranEarly
  obtain ⟨points, rfl⟩ := Prod.mk.inj ranEarly
  refine ⟨?_, (Except.ok.inj points).symm, ?_⟩
  · rw [booked, booked', agree]
  · intro candle another reached reached' timestamp opens
    have sameStamp : stamp candle = stamp another := by rw [stamp, stamp, timestamp]
    rw [entered candle reached, ← askStrategy_congr _ _ timestamp.symm opens.symm, agree]
    rw [entered' another reached']
    simp only [enteredAt, sameStamp]

end Runs

/-- A strategy which always buys. -/
def alwaysBuy : StrategyCallback := fun _ =>
  .ok (some { symbol := "ABC", market := .india, quantity := 10, stopLoss := 95,
              takeProfit := some 110 })

/-- Two candles, of which the second reaches the target, and one which opens at 106. -/
def seriesEndingWith (high low close : ℚ) : List Candle :=
  [{ timestamp := .utc 0, «open» := 100, high := 101, low := 99, close := 100 },
    { timestamp := .utc 300000000, «open» := 101, high := 112, low := 100, close := 105 },
    { timestamp := .utc 600000000, «open» := 106, high, low, close }]

/-- The default configuration, leaving the last position open. -/
def keepOpen : BacktestConfig := { closeOpenPositionsOnEnd := false }

private theorem ok_of_map {ε α β : Type} {change : α → β} {result : Except ε α} {value : β}
    (mapped : result.map change = .ok value) :
    ∃ returned, result = .ok returned ∧ change returned = value := by
  cases result with
  | error raised => cases mapped
  | ok returned => exact ⟨returned, rfl, Except.ok.inj mapped⟩

/-- A calm and a crashing third candle: only the second stops the position, and
both runs enter it at the same open. -/
theorem runSingleSymbol_no_lookahead_crash :
    ∃ calm crash : BacktestResult,
      runSingleSymbol keepOpen .plain "ABC" .india (seriesEndingWith 108 103 104) alwaysBuy =
        .ok calm ∧
      runSingleSymbol keepOpen .plain "ABC" .india (seriesEndingWith 106 90 91) alwaysBuy =
        .ok crash ∧
      calm.tradeJournal.map (·.side) = [OrderSide.buy, .sell, .buy] ∧
      crash.tradeJournal.map (·.side) = [OrderSide.buy, .sell, .buy, .sell] ∧
      bookedAt ((seriesEndingWith 108 103 104).take 2) calm.tradeJournal =
        bookedAt ((seriesEndingWith 106 90 91).take 2) crash.tradeJournal ∧
      calm.equityCurve.take 2 = crash.equityCurve.take 2 ∧
      ∀ candle another, (seriesEndingWith 108 103 104)[2]? = some candle →
        (seriesEndingWith 106 90 91)[2]? = some another →
        candle.timestamp = another.timestamp → candle.open = another.open →
        enteredAt candle calm.tradeJournal = enteredAt another crash.tradeJournal := by
  have sidesCalm : (runSingleSymbol keepOpen .plain "ABC" .india (seriesEndingWith 108 103 104)
      alwaysBuy).map (fun result => result.tradeJournal.map (·.side)) =
        .ok [.buy, .sell, .buy] := by decide +kernel
  have sidesCrash : (runSingleSymbol keepOpen .plain "ABC" .india (seriesEndingWith 106 90 91)
      alwaysBuy).map (fun result => result.tradeJournal.map (·.side)) =
        .ok [.buy, .sell, .buy, .sell] := by decide +kernel
  obtain ⟨calm, ranCalm, calmSides⟩ := ok_of_map sidesCalm
  obtain ⟨crash, ranCrash, crashSides⟩ := ok_of_map sidesCrash
  exact ⟨calm, crash, ranCalm, ranCrash, calmSides, crashSides,
    runSingleSymbol_no_lookahead 2 rfl rfl ranCalm ranCrash⟩

end AlphaAgent.Backtesting
