import AlphaAgent.Backtesting.Engine
import AlphaAgent.Paper.Effects

/-!
# The candle loop

What the loop does to the journal, and how a loop which returned splits at any
candle. Every entry which is booked while a candle is processed carries that
candle's instant; the strategy's orders are BUYs and the exit check's are SELLs.
-/

namespace AlphaAgent.Backtesting

open Foundation Fallible Paper

/-- The timestamp of the entries booked at a candle. -/
def stamp (candle : Candle) : DateTime := .utc candle.timestamp.instant

/-- The journal only grew, by entries of one kind. -/
def Appends (booked : PaperTradeJournalEntry → Prop) (engine next : PaperTradingEngine) : Prop :=
  ∃ entries, next.journal = engine.journal ++ entries ∧ ∀ entry ∈ entries, booked entry

theorem Appends.refl (booked : PaperTradeJournalEntry → Prop) (engine : PaperTradingEngine) :
    Appends booked engine engine :=
  ⟨[], (List.append_nil _).symm, fun _ member => absurd member List.not_mem_nil⟩

theorem Appends.trans {booked : PaperTradeJournalEntry → Prop} {a b c : PaperTradingEngine}
    (first : Appends booked a b) (second : Appends booked b c) : Appends booked a c := by
  obtain ⟨early, grown, earlyBooked⟩ := first
  obtain ⟨late, grownLater, lateBooked⟩ := second
  refine ⟨early ++ late, by rw [grownLater, grown, List.append_assoc], ?_⟩
  intro entry member
  rcases List.mem_append.mp member with inEarly | inLate
  · exact earlyBooked entry inEarly
  · exact lateBooked entry inLate

theorem Appends.mono {booked other : PaperTradeJournalEntry → Prop} {a b : PaperTradingEngine}
    (appends : Appends booked a b) (implies : ∀ entry, booked entry → other entry) :
    Appends other a b := by
  obtain ⟨entries, grown, allBooked⟩ := appends
  exact ⟨entries, grown, fun entry member => implies entry (allBooked entry member)⟩

/-- A filter which drops every appended entry reads the old journal. -/
theorem Appends.filter_eq {booked : PaperTradeJournalEntry → Prop} {a b : PaperTradingEngine}
    (appends : Appends booked a b) {keep : PaperTradeJournalEntry → Bool}
    (drops : ∀ entry, booked entry → keep entry = false) :
    b.journal.filter keep = a.journal.filter keep := by
  obtain ⟨entries, grown, allBooked⟩ := appends
  have none : entries.filter keep = [] := by
    rw [List.filter_eq_nil_iff]
    intro entry member
    rw [drops entry (allBooked entry member)]
    exact Bool.false_ne_true
  rw [grown, List.filter_append, none, List.append_nil]

theorem appends_bind {α β : Type} {booked : PaperTradeJournalEntry → Prop} {first : PaperM α}
    {rest : α → PaperM β} (moves : Along (Appends booked) first)
    (continues : ∀ value, Along (Appends booked) (rest value)) :
    Along (Appends booked) (first >>= rest) := by
  apply along_bind
  · intro _ _ _ early late
    exact early.trans late
  · exact moves
  · exact continues

theorem submitOrder_appends (text : SymbolText) (request : PaperOrderRequest)
    (exitReason : PaperExitReason) :
    Along (Appends fun entry => entry.timestamp = .utc request.submittedAt.instant ∧
      entry.side = request.side ∧ (entry.exitReason = .none ∨ entry.exitReason = exitReason))
      (submitOrder text request exitReason) := by
  intro engine
  rcases run_submitOrder text engine request exitReason with
    ⟨raised, failed⟩ | ⟨submittedAt, result, converted, -, books⟩
  · rw [failed]
    exact .refl _ engine
  · obtain ⟨grown, timestamp, sideAndReason⟩ := books.journal
    refine ⟨[result.journalEntry], grown, fun entry member => ?_⟩
    obtain rfl := List.mem_singleton.mp member
    exact ⟨timestamp.trans (DateTime.toUtc_eq_utc converted), sideAndReason⟩

section Loop

variable (session : Session)

/-- Asking the strategy leaves the engine alone, or submits the order of the
signal which the strategy returned for its history. -/
theorem askStrategy_cases (history : List Candle) (candle : Candle) (engine : PaperTradingEngine) :
    ((askStrategy session history candle).run engine).2 = engine ∨
      ∃ signal, session.strategy history = .ok (some signal) ∧
        ((askStrategy session history candle).run engine).2 =
          ((submitOrder session.text (entryRequest session signal candle)).run engine).2 := by
  simp only [askStrategy, run_bind, run_get]
  split
  · simp only [run_bind, run_ofExcept]
    cases session.strategy history with
    | error raised => exact .inl rfl
    | ok answer =>
      cases answer with
      | none => exact .inl rfl
      | some signal =>
        simp only [submitSignal]
        split
        · exact .inl rfl
        · simp only [run_map]
          exact .inr ⟨signal, rfl, rfl⟩
  · exact .inl rfl

theorem askStrategy_appends (history : List Candle) (candle : Candle) :
    Along (Appends fun entry => entry.timestamp = stamp candle ∧ entry.side = .buy ∧
      entry.exitReason = .none) (askStrategy session history candle) := by
  intro engine
  rcases askStrategy_cases session history candle engine with nothing | ⟨signal, -, submitted⟩
  · rw [nothing]
    exact .refl _ engine
  · rw [submitted]
    apply (submitOrder_appends _ _ _ engine).mono
    rintro entry ⟨timestamp, side, reason⟩
    exact ⟨timestamp, side, reason.elim id id⟩

/-- The two ways in which an exit check ends: it finds nothing to do, or it
submits the whole position at a level which the bar reached. -/
theorem checkExit_cases (candle : Candle) (engine : PaperTradingEngine) :
    ((checkExit session candle).run engine).2 = engine ∧
        (∀ position, engine.positions.get? session.symbol = some position →
          position.market = session.market → position.stopLoss < candle.low) ∨
      ∃ position price check exitReason,
        engine.positions.get? session.symbol = some position ∧
        ((checkExit session candle).run engine).2 =
          ((submitOrder session.text (exitRequest position price candle.timestamp check)
            exitReason).run engine).2 ∧
        (exitReason = .stopLoss ∧ price = position.stopLoss ∧ candle.low ≤ position.stopLoss ∨
          exitReason = .profitTarget ∧ price ≤ candle.high ∧ position.stopLoss < candle.low) := by
  simp only [checkExit, evaluateExit, run_bind, run_get, session.normalized]
  cases held : engine.positions.get? session.symbol with
  | none =>
    refine .inl ⟨rfl, ?_⟩
    rintro _ ⟨⟩
  | some position =>
    by_cases mismatch : position.market ≠ session.market
    · simp only [ne_eq, mismatch, not_false_eq_true, if_true]
      refine .inl ⟨rfl, ?_⟩
      rintro _ ⟨⟩ same
      exact absurd same mismatch
    by_cases stopped : candle.low ≤ position.stopLoss
    · simp only [mismatch, stopped, if_true, if_false, run_map]
      exact .inr ⟨position, position.stopLoss, "stop_loss", .stopLoss, rfl, rfl,
        .inl ⟨rfl, rfl, stopped⟩⟩
    · simp only [mismatch, stopped, if_false]
      cases reached : position.takeProfit.filter (candle.high ≥ ·) with
      | none =>
        refine .inl ⟨rfl, ?_⟩
        rintro _ ⟨⟩ -
        exact not_le.mp stopped
      | some takeProfit =>
        have atMost : takeProfit ≤ candle.high := by
          simpa using (Option.filter_eq_some_iff.mp reached).2
        simp only [run_map]
        exact .inr ⟨position, takeProfit, "profit_target", .profitTarget, rfl, rfl,
          .inr ⟨rfl, atMost, not_le.mp stopped⟩⟩

theorem checkExit_appends (candle : Candle) :
    Along (Appends fun entry => entry.timestamp = stamp candle ∧ entry.side = .sell)
      (checkExit session candle) := by
  intro engine
  rcases checkExit_cases session candle engine with
    ⟨nothing, -⟩ | ⟨position, price, check, exitReason, -, submitted, -⟩
  · rw [nothing]
    exact .refl _ engine
  · rw [submitted]
    apply (submitOrder_appends _ _ _ engine).mono
    rintro entry ⟨timestamp, side, -⟩
    exact ⟨timestamp, side⟩

theorem equityPoint_keeps (candle : Candle) (engine : PaperTradingEngine) :
    ((equityPoint session candle).run engine).2 = engine := by
  simp only [equityPoint, run_bind, run_get, run_ofExcept]
  cases engine.snapshot session.text candle.timestamp
      (some (Dict.empty.set session.symbol candle.close)) with
  | error raised => rfl
  | ok snapshot => rfl

theorem closeOnEnd_appends (config : BacktestConfig) (candles : List Candle) :
    Along (Appends fun entry => entry.exitReason = .none ∨ entry.exitReason = .endOfBacktest)
      (closeOnEnd session config candles) := by
  have marked : ∀ finalCandle, Along (Appends fun entry => entry.exitReason = .none ∨
      entry.exitReason = .endOfBacktest)
      (equityPoint session finalCandle >>= fun point => (pure [point] : PaperM _)) := by
    intro finalCandle
    rw [bind_pure_comp]
    exact along_map _ (along_of_keeps (Appends.refl _) (equityPoint_keeps session finalCandle))
  intro engine
  unfold closeOnEnd
  rw [run_bind, run_get]
  cases candles.getLast? with
  | none => exact .refl _ engine
  | some finalCandle =>
    dsimp only
    split
    · apply appends_bind
      · intro before
        unfold closeOpenPosition
        simp only [run_bind, run_get]
        exact (submitOrder_appends _ _ _ before).mono fun _ booked => booked.2.2
      · intro _
        exact marked finalCandle
    · exact .refl _ engine

/-- A pass whose strategy raised ends there. -/
theorem processCandle_raised {history : List Candle} {candle : Candle}
    {engine asked : PaperTradingEngine} {raised : RaisedError}
    (ran : (askStrategy session history candle).run engine = (.error raised, asked)) :
    (processCandle session history candle).run engine = (.error raised, asked) := by
  rw [processCandle, run_bind, ran]

/-- A pass which asked the strategy leaves the engine as the exit check does. -/
theorem processCandle_engine {history : List Candle} {candle : Candle}
    {engine asked : PaperTradingEngine}
    (ran : (askStrategy session history candle).run engine = (.ok (), asked)) :
    ((processCandle session history candle).run engine).2 =
      ((checkExit session candle).run asked).2 := by
  simp only [processCandle, run_bind, ran]
  cases exited : (checkExit session candle).run asked with
  | mk outcome next =>
    cases outcome with
    | error raised => rfl
    | ok result => exact equityPoint_keeps session candle next

theorem processCandle_appends (history : List Candle) (candle : Candle) :
    Along (Appends fun entry => entry.timestamp = stamp candle)
      (processCandle session history candle) := by
  apply appends_bind
  · intro engine
    exact (askStrategy_appends session history candle engine).mono fun _ => And.left
  · intro _
    apply appends_bind
    · intro engine
      exact (checkExit_appends session candle engine).mono fun _ => And.left
    · intro _
      exact along_of_keeps (Appends.refl _) (equityPoint_keeps session candle)

theorem candles_appends (history candles : List Candle) :
    Along (Appends fun entry => ∃ candle ∈ candles, entry.timestamp = stamp candle)
      (scan (processCandle session) history candles) := by
  apply along_scan
  · exact Appends.refl _
  · intro _ _ _ early late
    exact early.trans late
  · intro earlier candle member engine
    apply (processCandle_appends session earlier candle engine).mono
    intro entry booked
    exact ⟨candle, member, booked⟩

end Loop

/-- At distinct instants, a stamp is the stamp of one candle. -/
theorem stampedOnce_of_nodup {series : List Candle}
    (distinct : (series.map (·.timestamp.instant)).Nodup) :
    ∀ candle ∈ series, ∀ other ∈ series, stamp candle = stamp other → other = candle := by
  intro candle member other otherMember same
  have instant : other.timestamp.instant = candle.timestamp.instant :=
    congrArg DateTime.wallClock same.symm
  exact List.inj_on_of_nodup_map distinct otherMember member instant

/-- A checked candle has a positive price range which contains its open and close. -/
theorem checkCandle_ok {candle : Candle} (checked : checkCandle candle = .ok ()) :
    0 < candle.high ∧ candle.low ≤ candle.high := by
  rw [checkCandle] at checked
  split at checked
  · cases checked
  · next positive =>
    split at checked
    · cases checked
    · next consistent =>
      rw [not_or, not_lt, gt_iff_lt, not_lt] at consistent
      constructor
      · exact (not_le.mp positive).trans_le ((min_le_left _ _).trans (min_le_right _ _))
      · calc candle.low ≤ min candle.open candle.close := consistent.2
          _ ≤ candle.open := min_le_left _ _
          _ ≤ max candle.open candle.close := le_max_left _ _
          _ ≤ candle.high := consistent.1

theorem checkCandle_close {candle : Candle} (checked : checkCandle candle = .ok ()) :
    0 < candle.close := by
  rw [checkCandle] at checked
  split at checked
  · cases checked
  · next positive =>
    exact (not_le.mp positive).trans_le ((min_le_right _ _).trans (min_le_right _ _))

private theorem forM_ok {candles : List Candle} (checked : candles.forM checkCandle = .ok ()) :
    ∀ candle ∈ candles, checkCandle candle = .ok () := by
  induction candles with
  | nil => exact fun _ member => absurd member List.not_mem_nil
  | cons candle rest ih =>
    cases first : checkCandle candle with
    | error raised => simp [List.forM_cons, first, bind, Except.bind] at checked
    | ok _ =>
      simp only [List.forM_eq_forM, List.forM_cons, first, bind, Except.bind] at checked
      intro other member
      rcases List.mem_cons.mp member with rfl | later
      · exact first
      · exact ih checked other later

/-- Validation returns the candles themselves, checked and at distinct instants. -/
theorem validatedCandles_ok {candles ordered : List Candle}
    (validated : validatedCandles candles = .ok ordered) :
    ordered = candles ∧ (∀ candle ∈ candles, checkCandle candle = .ok ()) ∧
      (candles.map (·.timestamp.instant)).Nodup := by
  unfold validatedCandles at validated
  cases checked : candles.forM checkCandle with
  | error raised => simp [checked, bind, Except.bind] at validated
  | ok _ =>
    simp only [checked, bind, Except.bind] at validated
    split at validated
    · cases validated
    · split at validated
      · cases validated
      · split at validated
        · cases validated
        · next distinct =>
          cases validated
          exact ⟨rfl, forM_ok checked, not_not.mp distinct⟩

/-- The steps of a backtest which returned. -/
theorem runSingleSymbol_ok {config : BacktestConfig} {text : SymbolText} {symbol : String}
    {market : Market} {candles : List Candle} {strategy : StrategyCallback}
    {result : BacktestResult}
    (returned : runSingleSymbol config text symbol market candles strategy = .ok result) :
    ∃ engine last, validatedCandles candles = .ok candles ∧
      PaperTradingEngine.create config.startingCash (some config.costModel)
        (some config.riskLimits) = .ok engine ∧
      (backtest (.of text symbol market strategy) config candles).run engine =
        (.ok result.equityCurve, last) ∧
      result.tradeJournal = last.journal ∧
      result.metrics = backtestMetrics last.journal result.equityCurve config.startingCash := by
  unfold runSingleSymbol at returned
  cases validated : validatedCandles candles with
  | error raised => simp [validated, bind, Except.bind] at returned
  | ok ordered =>
    obtain ⟨rfl, -⟩ := validatedCandles_ok validated
    cases created : PaperTradingEngine.create config.startingCash (some config.costModel)
        (some config.riskLimits) with
    | error raised => simp [validated, created, bind, Except.bind] at returned
    | ok engine =>
      simp only [validated, created, bind, Except.bind] at returned
      split at returned
      · cases returned
      · next equityCurve final ran =>
        cases returned
        exact ⟨engine, final, rfl, rfl, ran, rfl, rfl⟩

end AlphaAgent.Backtesting
