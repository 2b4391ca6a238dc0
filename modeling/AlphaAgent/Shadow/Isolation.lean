import AlphaAgent.Shadow.Invariants
import AlphaAgent.Shadow.Providers

/-!
# Isolation of a failing symbol

The loops over the symbols catch platform errors, and the US cycle those of its
exchange rate: a cycle then runs as it does without the symbol, or without the
market. Any other error rolls the one session back, with all symbols in it.
-/

namespace AlphaAgent.Shadow

open Foundation

namespace Cycle

/-- The rounds of a market. -/
def rounds (cycle : Cycle) : Market → List SymbolRound
  | .india => cycle.indiaRounds
  | .us => cycle.usRounds

/-- The cycle with other rounds of a market. -/
def withRounds (cycle : Cycle) (market : Market) (rounds : List SymbolRound) : Cycle :=
  match market with
  | .india => { cycle with indiaRounds := rounds }
  | .us => { cycle with usRounds := rounds }

/-- The loop of a market is reached: it is open, and there is a rate for its prices. -/
def Trades (cycle : Cycle) : Market → Prop
  | .india => cycle.indiaOpen = true
  | .us => cycle.usOpen = true ∧ ∃ rate, cycle.usdInr = .ok ⟨some rate, true⟩

/-- The cycle asks for the quotes of a market. -/
def Scans (cycle : Cycle) (market : Market) : Prop :=
  cycle.settings.shadowTrainingEnabled = true ∧ cycle.Trades market

end Cycle

/-- The tables have the same observations and samples of what is concerned. -/
def SameRows (concerns : Market → String → Bool) (first second : Database) : Prop :=
  first.observations.filter (fun row => concerns row.market row.symbol) =
      second.observations.filter (fun row => concerns row.market row.symbol) ∧
    first.samples.filter (fun sample => concerns sample.market sample.symbol) =
      second.samples.filter (fun sample => concerns sample.market sample.symbol)

/-- Every symbol but one. -/
def otherThan (market : Market) (symbol : String) (other : Market) (otherSymbol : String) : Bool :=
  !(other = market && otherSymbol = symbol)

/-- The cycle completes, and leaves what is concerned as another cycle does. -/
def CompletesLike (environment : Environment) (database : Database) (cycle without : Cycle)
    (concerns : Market → String → Bool) : Prop :=
  database.Completes ⟨environment, cycle⟩ ∧ SameRows concerns
    (database.afterCycle ⟨environment, cycle⟩) (database.afterCycle ⟨environment, without⟩)

section Caught

variable {session : ℕ} {cycle : Cycle} {market : Market} {fxRate : ℚ} {round : SymbolRound}
  {raised : RaisedError}

/-- A round whose quote raises does what the handler of the loop does. -/
theorem scanSymbol_failed (fails : round.quote = .error raised) :
    scanSymbol session cycle market fxRate round =
      if isTradingAlpha raised then return () else throw raised := by
  rw [scanSymbol, fails]
  rfl

/-- A loop goes on as if an entry were not there whose round does nothing. -/
theorem forM_skip {body : SymbolRound → SessionM Unit} (skips : body round = pure ())
    (before after : List SymbolRound) :
    (before ++ round :: after).forM body = (before ++ after).forM body := by
  induction before with
  | nil =>
    have first : (round :: after).forM body = (body round >>= fun _ => after.forM body) := rfl
    rw [List.nil_append, first, skips]
    rfl
  | cons earlier rest ih =>
    have split : ∀ entries, (earlier :: entries).forM body =
        (body earlier >>= fun _ => entries.forM body) := fun _ => rfl
    rw [List.cons_append, List.cons_append, split, split, ih]

section Without

variable {before after : List SymbolRound}

theorem runIndiaCycle_without (rounds : cycle.indiaRounds = before ++ round :: after)
    (fails : round.quote = .error raised)
    (caught : isTradingAlpha raised = true ∨ ¬cycle.Trades .india) :
    runIndiaCycle session cycle =
      runIndiaCycle session { cycle with indiaRounds := before ++ after } := by
  have same : scanSymbol session { cycle with indiaRounds := before ++ after } .india 1 =
      scanSymbol session cycle .india 1 := rfl
  rw [runIndiaCycle, runIndiaCycle, same, rounds]
  rcases caught with platform | closed
  · rw [forM_skip]
    rw [scanSymbol_failed fails, if_pos platform]
  · rw [Cycle.Trades] at closed
    rw [if_neg closed, if_neg closed]

theorem runUsCycle_without (rounds : cycle.usRounds = before ++ round :: after)
    (fails : round.quote = .error raised)
    (caught : isTradingAlpha raised = true ∨ ¬cycle.Trades .us) :
    runUsCycle session cycle =
      runUsCycle session { cycle with usRounds := before ++ after } := by
  have same : ∀ rate, scanSymbol session { cycle with usRounds := before ++ after } .us rate =
      scanSymbol session cycle .us rate := fun _ => rfl
  rw [runUsCycle, runUsCycle]
  rcases caught with platform | unasked
  · have skips : ∀ rate, cycle.usRounds.forM (scanSymbol session cycle .us rate) =
        (before ++ after).forM (scanSymbol session cycle .us rate) := by
      intro rate
      rw [rounds, forM_skip]
      rw [scanSymbol_failed fails, if_pos platform]
    simp only [skips, same]
  · by_cases isOpen : cycle.usOpen = true
    · rw [if_pos isOpen, if_pos isOpen]
      cases fx : cycle.usdInr with
      | error foreign => rfl
      | ok status =>
        obtain ⟨rate, isFresh⟩ := status
        cases rate with
        | none => rfl
        | some rate =>
          cases isFresh with
          | false => rfl
          | true => exact absurd ⟨isOpen, rate, fx⟩ unasked
    · rw [if_neg isOpen, if_neg isOpen]

/-- With a caught failure, or where nothing is asked, the cycle is the one without the symbol. -/
theorem runCycle_without (rounds : cycle.rounds market = before ++ round :: after)
    (fails : round.quote = .error raised)
    (caught : isTradingAlpha raised = true ∨ ¬cycle.Scans market) :
    runCycle session cycle = runCycle session (cycle.withRounds market (before ++ after)) := by
  by_cases enabled : cycle.settings.shadowTrainingEnabled = true
  · have scans : isTradingAlpha raised = true ∨ ¬cycle.Trades market :=
      caught.imp_right fun unasked trades => unasked ⟨enabled, trades⟩
    cases market with
    | india =>
      have india : runIndiaCycle session cycle = _ := runIndiaCycle_without rounds fails scans
      rw [runCycle, runCycle, cycleBody, india]
      rfl
    | us =>
      have us : runUsCycle session cycle = _ := runUsCycle_without rounds fails scans
      rw [runCycle, runCycle, cycleBody, us]
      rfl
  · have off :
        ¬(cycle.withRounds market (before ++ after)).settings.shadowTrainingEnabled = true := by
      cases market with
      | india => exact enabled
      | us => exact enabled
    rw [runCycle, runCycle, if_neg enabled, if_neg off]

end Without

/-- A US cycle whose rate raises does what its handler does. -/
theorem runUsCycle_failed (isOpen : cycle.usOpen = true) (fails : cycle.usdInr = .error raised) :
    runUsCycle session cycle = if isTradingAlpha raised then return () else throw raised := by
  rw [runUsCycle, if_pos isOpen, fails]

/-- With a caught failure of its rate, or where it is not asked for, the cycle is
the one in which the US market is closed. -/
theorem runCycle_without_us (fails : cycle.usdInr = .error raised)
    (caught : isTradingAlpha raised = true ∨
      ¬(cycle.settings.shadowTrainingEnabled = true ∧ cycle.usOpen = true)) :
    runCycle session cycle = runCycle session { cycle with usOpen := false } := by
  by_cases enabled : cycle.settings.shadowTrainingEnabled = true
  · have us : runUsCycle session cycle = runUsCycle session { cycle with usOpen := false } := by
      have closed : runUsCycle session { cycle with usOpen := false } = return () := rfl
      rw [closed]
      by_cases isOpen : cycle.usOpen = true
      · rcases caught with platform | unasked
        · rw [runUsCycle_failed isOpen fails, if_pos platform]
        · exact absurd ⟨enabled, isOpen⟩ unasked
      · rw [runUsCycle, if_neg isOpen]
    rw [runCycle, runCycle, cycleBody, us]
    rfl
  · rw [runCycle, runCycle, if_neg enabled, if_neg enabled]

end Caught

section Escaped

variable {session : ℕ} {cycle : Cycle} {market : Market} {round : SymbolRound}
  {raised : RaisedError}

/-- The computation does not return, whatever state it starts in. -/
abbrev NeverReturns {α : Type} (work : SessionM α) : Prop :=
  Work.Triple serialContract (fun _ _ => True) work (fun _ _ _ => False) fun _ _ _ => True

variable {α β : Type}

theorem neverReturns_throw : NeverReturns (throw raised : SessionM α) :=
  Work.Triple.throw fun _ _ _ => trivial

theorem NeverReturns.first {first : SessionM α} (never : NeverReturns first)
    (rest : α → SessionM β) : NeverReturns (first >>= rest) :=
  Work.Triple.bind never fun _ _ _ returned => returned.elim

theorem NeverReturns.second {rest : α → SessionM β} (never : ∀ value, NeverReturns (rest value))
    (first : SessionM α) : NeverReturns (first >>= rest) :=
  Work.Triple.bind (Work.Triple.anything (fun _ _ => trivial) first) never

/-- A loop does not return when one of its rounds does not. -/
theorem neverReturns_forM {body : SymbolRound → SessionM Unit} (never : NeverReturns (body round))
    (before after : List SymbolRound) : NeverReturns ((before ++ round :: after).forM body) := by
  induction before with
  | nil => exact never.first _
  | cons earlier rest ih => exact NeverReturns.second (fun _ => ih) (body earlier)

/-- A cycle which does not get through its loops does not return. -/
theorem neverReturns_runCycle (enabled : cycle.settings.shadowTrainingEnabled = true)
    (never : NeverReturns (runIndiaCycle session cycle) ∨ NeverReturns (runUsCycle session cycle)) :
    NeverReturns (runCycle session cycle) := by
  rw [runCycle, if_pos enabled]
  have body : NeverReturns (cycleBody session cycle) := by
    refine NeverReturns.second (fun _ => NeverReturns.second (fun _ => NeverReturns.second (fun _ =>
      NeverReturns.second (fun _ => ?_) _) _) _) _
    rcases never with india | us
    · exact india.first _
    · exact NeverReturns.second (fun _ => us.first _) _
  exact Work.Triple.tryCatch body fun _ =>
    NeverReturns.second (fun _ => neverReturns_throw) (rollback session)

/-- With an error which is no platform error, a cycle does not return once it asks
for the quotes of the market. -/
theorem neverReturns_of_symbol {before after : List SymbolRound}
    (rounds : cycle.rounds market = before ++ round :: after)
    (fails : round.quote = .error raised) (foreign : isTradingAlpha raised = false)
    (scans : cycle.Scans market) : NeverReturns (runCycle session cycle) := by
  obtain ⟨enabled, trades⟩ := scans
  have scanned : ∀ rate, NeverReturns (scanSymbol session cycle market rate round) := by
    intro rate
    rw [scanSymbol_failed fails, if_neg (by simp [foreign])]
    exact neverReturns_throw
  apply neverReturns_runCycle enabled
  cases market with
  | india =>
    left
    have loop : cycle.indiaRounds = before ++ round :: after := rounds
    have isOpen : cycle.indiaOpen = true := trades
    rw [runIndiaCycle, if_pos isOpen, loop]
    exact neverReturns_forM (scanned 1) before after
  | us =>
    right
    have loop : cycle.usRounds = before ++ round :: after := rounds
    obtain ⟨isOpen, rate, fx⟩ := trades
    rw [runUsCycle, if_pos isOpen, fx]
    have loops := neverReturns_forM (scanned rate) before after
    rw [← loop] at loops
    exact loops

theorem neverReturns_of_rate (fails : cycle.usdInr = .error raised)
    (foreign : isTradingAlpha raised = false)
    (asked : cycle.settings.shadowTrainingEnabled = true ∧ cycle.usOpen = true) :
    NeverReturns (runCycle session cycle) := by
  apply neverReturns_runCycle asked.1
  right
  rw [runUsCycle_failed asked.2 fails, if_neg (by simp [foreign])]
  exact neverReturns_throw

/-- A cycle which does not return does not complete. -/
theorem NeverReturns.not_completes (never : NeverReturns (runCycle 0 cycle))
    (environment : Environment) (database : Database) :
    ¬database.Completes ⟨environment, cycle⟩ := by
  have answers : ∀ store op, serialContract.answers store op
      (performer environment op store).1 (performer environment op store).2 :=
    fun store op => ⟨environment, rfl⟩
  have ends := (never [] { committed := database } trivial).run answers
  rw [Database.Completes]
  split at ends
  · exact ends.elim
  · next raised last escaped =>
    rw [escaped]
    intro same
    cases same

end Escaped

/-- A cycle completes like the one without a failure when the failure is skipped,
and only then, where it does not return otherwise. -/
theorem completesLike_iff {environment : Environment} {database : Database}
    {cycle without : Cycle} {raised : RaisedError} {asked : Prop}
    (skips : isTradingAlpha raised = true ∨ ¬asked → runCycle 0 cycle = runCycle 0 without)
    (escapes : isTradingAlpha raised = false → asked → NeverReturns (runCycle 0 cycle))
    (completes : database.Completes ⟨environment, without⟩) (concerns : Market → String → Bool) :
    CompletesLike environment database cycle without concerns ↔
      isTradingAlpha raised = true ∨ ¬asked := by
  constructor
  · intro like
    by_contra escaped
    push Not at escaped
    have never := escapes (Bool.eq_false_iff.mpr escaped.1) escaped.2
    exact never.not_completes environment database like.1
  · intro handled
    rw [CompletesLike, Database.Completes, Database.afterCycle, Database.afterCycle, skips handled]
    exact ⟨completes, rfl, rfl⟩

/-- Symbol isolation, exactly where it holds. Take any cycle in which the call for
one symbol fails, or the call for the exchange rate, and which completes without
that symbol, or with the US market closed. It completes, and leaves the rows of all
other symbols, or of the other market, as it would without the failure, if and only
if the provider maps the failure to a platform error or is not asked at all. -/
theorem symbolIsolation_iff (environment : Environment) (database : Database) (cycle : Cycle) :
    (∀ (market : Market) (before after : List SymbolRound) (round : SymbolRound)
      (credentials : Bool) (requested : HttpResult),
      cycle.rounds market = before ++ round :: after →
      round.quote = assessedQuote (latestQuote market credentials round.symbol requested) →
      (∃ raised, round.quote = .error raised) →
      database.Completes ⟨environment, cycle.withRounds market (before ++ after)⟩ →
        (CompletesLike environment database cycle (cycle.withRounds market (before ++ after))
            (otherThan market round.symbol) ↔
          providerMaps market credentials requested = true ∨ ¬cycle.Scans market)) ∧
    ∀ (credentials : Bool) (cached : Option FXStatus) (requested : HttpResult),
      cycle.usdInr = getUsdInr credentials cached requested →
      (∃ raised, cycle.usdInr = .error raised) →
      database.Completes ⟨environment, { cycle with usOpen := false }⟩ →
        (CompletesLike environment database cycle { cycle with usOpen := false }
            (fun other _ => other = .india) ↔
          fxMaps credentials requested = true ∨
            ¬(cycle.settings.shadowTrainingEnabled = true ∧ cycle.usOpen = true)) := by
  constructor
  · intro market before after round credentials requested rounds quoted fails completes
    obtain ⟨raised, fails⟩ := fails
    have caught : isTradingAlpha raised = providerMaps market credentials requested :=
      provider_caught (quoted ▸ fails)
    rw [← caught]
    exact completesLike_iff (runCycle_without rounds fails)
      (neverReturns_of_symbol rounds fails) completes _
  · intro credentials cached requested rate fails completes
    obtain ⟨raised, fails⟩ := fails
    have caught : isTradingAlpha raised = fxMaps credentials requested :=
      fx_caught (rate ▸ fails)
    rw [← caught]
    exact completesLike_iff (runCycle_without_us fails) (neverReturns_of_rate fails) completes _

section Runs

/-- The body of a quote which the strategy buys on. -/
def quoteBody (symbol : String) : Json :=
  .object [("data", .object [("NSE:" ++ symbol, .object
    [("last_price", .number 2500), ("average_price", .number 2480), ("volume", .number 100000),
      ("ohlc", .object [("open", .number 2475), ("high", .number 2525), ("low", .number 2460),
        ("close", .number 2465)])])])]

def requestedRound (symbol : String) (startedAt : ℤ) (requested : HttpResult) : SymbolRound where
  symbol
  quote := assessedQuote (latestQuote .india true symbol requested)
  signalId := "signal " ++ symbol
  observationId := "observation " ++ symbol
  newsBlocks := .ok false
  recordedAt := startedAt + 1
  sampledAt := startedAt + 2
  exitedAt := startedAt + 3

/-- The round of a symbol which is quoted. -/
def tcsRound : SymbolRound :=
  requestedRound "TCS" 1778663700000000 (.answered 200 (some (quoteBody "TCS")))

/-- A cycle over two symbols, with what the request for the second one ends in. -/
def twoSymbols (requested : HttpResult) : Cycle where
  days := summerDays
  startedAt := 1778663700000000
  indiaRounds := [tcsRound, requestedRound "INFY" 1778663700000003 requested]

/-- A cycle in which the US market is open, with what the request for its rate ends in. -/
def rateCycle (requested : HttpResult) : Cycle where
  days := summerDays
  startedAt := 1778663700000000
  indiaRounds := [tcsRound]
  usOpen := true
  usdInr := getUsdInr true none requested

theorem symbolIsolation_unavailable :
    (CompletesLike {} {} (twoSymbols (.answered 503 none))
        ((twoSymbols (.answered 503 none)).withRounds .india [tcsRound]) (otherThan .india "INFY") ↔
      providerMaps .india true (.answered 503 none) = true ∨
        ¬(twoSymbols (.answered 503 none)).Scans .india) ∧
    (CompletesLike {} {} (rateCycle (.answered 503 none))
        { rateCycle (.answered 503 none) with usOpen := false } (fun other _ => other = .india) ↔
      fxMaps true (.answered 503 none) = true ∨
        ¬((rateCycle (.answered 503 none)).settings.shadowTrainingEnabled = true ∧
          (rateCycle (.answered 503 none)).usOpen = true)) :=
  ⟨(symbolIsolation_iff {} {} (twoSymbols (.answered 503 none))).1 .india [tcsRound] []
      (requestedRound "INFY" 1778663700000003 (.answered 503 none)) true
        (.answered 503 none) rfl rfl
      ⟨_, rfl⟩ (by rw [Database.Completes]; decide +kernel),
    (symbolIsolation_iff {} {} (rateCycle (.answered 503 none))).2 true none
      (.answered 503 none) rfl
      ⟨_, rfl⟩ (by rw [Database.Completes]; decide +kernel)⟩

/-- The request times out. -/
def timedOut : HttpResult := .failed .connectTimeout "timed out"

/-- One symbol which times out leaves nothing of the other one, and neither does
the exchange rate. -/
theorem symbolIsolation_timeout :
    (({} : Database).Completes ⟨{}, (twoSymbols timedOut).withRounds .india [tcsRound]⟩ ∧
      ¬CompletesLike {} {} (twoSymbols timedOut)
        ((twoSymbols timedOut).withRounds .india [tcsRound])
        (otherThan .india "INFY") ∧
      (({} : Database).afterCycle ⟨{}, (twoSymbols timedOut).withRounds .india
        [tcsRound]⟩).observations.map ShadowObservation.symbol = ["TCS"] ∧
      (({} : Database).afterCycle ⟨{}, twoSymbols timedOut⟩).observations = []) ∧
    ({} : Database).Completes ⟨{}, { rateCycle timedOut with usOpen := false }⟩ ∧
      ¬CompletesLike {} {} (rateCycle timedOut) { rateCycle timedOut with usOpen := false }
        (fun other _ => other = .india) ∧
      (({} : Database).afterCycle ⟨{}, { rateCycle timedOut with
        usOpen := false }⟩).observations.map ShadowObservation.symbol = ["TCS"] ∧
      (({} : Database).afterCycle ⟨{}, rateCycle timedOut⟩).observations = [] := by
  refine ⟨⟨?_, fun like => ?_, by decide +kernel, by decide +kernel⟩, ?_, fun like => ?_,
    by decide +kernel, by decide +kernel⟩
  · rw [Database.Completes]
    decide +kernel
  · have completes := like.1
    revert completes
    rw [Database.Completes]
    decide +kernel
  · rw [Database.Completes]
    decide +kernel
  · have completes := like.1
    revert completes
    rw [Database.Completes]
    decide +kernel

end Runs
end AlphaAgent.Shadow
