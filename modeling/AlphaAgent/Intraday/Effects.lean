import AlphaAgent.Intraday.Pipeline

/-!
# What a call does to the positions

A call captures the positions once, before its strategies are asked, so what a
strategy gets through does not depend on what was opened in the same call.
`attempt` is the trade which the strategy in one place gets through all checks,
`passing` the trades of a call, and `processSnapshot_run` says that a call opens
these and does nothing else to the positions. All results about the pipeline
are read off it.
-/

namespace AlphaAgent.Intraday

open Agentic Foundation

/-- What a round of the loop opens: nothing when it raised. -/
def filled : Except RaisedError (Option VirtualPosition) → List VirtualPosition
  | .ok position => position.toList
  | .error _ => []

/-- What rounds of the loop open: the first one which raises ends the loop. -/
def filledInTurn : List (Except RaisedError (Option VirtualPosition)) → List VirtualPosition
  | [] => []
  | .error _ :: _ => []
  | .ok position :: rest => position.toList ++ filledInTurn rest

section Attempt

variable (settings : PipelineSettings) (call : SnapshotCall) (judgement : Judgement)

/-- What an approved signal gets through the simulated fill. -/
def attemptFill (place : ℕ) (signal : Signal) (approval : RiskApproval) :
    Except RaisedError (Option VirtualPosition) := do
  let order ← ShadowExecutionSimulator.simulate settings.config signal approval call.snapshot
    (.utc (call.orderedAt place))
  let _ ← call.reviews.reviewExecution place
  return VirtualPositionManager.openPosition signal order

/-- What a valid signal gets through the risk manager and the risk auditor. -/
def attemptScored (place : ℕ) (scored : ScoredSignal) :
    Except RaisedError (Option VirtualPosition) :=
  let approval := RiskManager.approve settings.config scored judgement.quality judgement.state
    (some judgement.regime.regime)
  if approval.approved = false then .ok none
  else do
    let riskReview ← call.reviews.reviewRisk place
    if riskReview.block then .ok none
    else attemptFill settings call place scored.signal approval

/-- What the strategy in a place gets through all checks. -/
def attempt (place : ℕ) (strategy : IntradayStrategy) :
    Except RaisedError (Option VirtualPosition) := do
  match ← strategy call.snapshot judgement.regime with
  | none => return none
  | some signal =>
    let review ← call.reviews.reviewSignal place
    let scored := applyConfidence settings.config
      (SignalScoringEngine.score settings.config signal) review.confidenceMultiplier
    if review.block then return none
    else if scored.decision ≠ .valid then return none
    else attemptScored settings call judgement place scored

/-- The checks which the trade of a signal has passed. -/
structure Passed (place : ℕ) (signal : Signal) (position : VirtualPosition) : Prop where
  approved : ∃ scored : ScoredSignal, scored.signal = signal ∧ scored.decision = .valid ∧
    (RiskManager.approve settings.config scored judgement.quality judgement.state
      (some judgement.regime.regime)).approved = true
  filled : ∃ order : ShadowOrder, order.timestamp = .utc (call.orderedAt place) ∧
    VirtualPositionManager.openPosition signal order = some position

/-- The attempts of strategies which stand from a place on. -/
def attempts (first : ℕ) (strategies : List IntradayStrategy) :
    List (Except RaisedError (Option VirtualPosition)) :=
  (strategies.zipIdx first).map fun entry => attempt settings call judgement entry.2 entry.1

variable {settings call judgement}

theorem attemptFill_filled {place : ℕ} {signal : Signal} {approval : RiskApproval}
    {position : VirtualPosition}
    (passes : attemptFill settings call place signal approval = .ok (some position)) :
    ∃ order : ShadowOrder, order.timestamp = .utc (call.orderedAt place) ∧
      VirtualPositionManager.openPosition signal order = some position := by
  obtain ⟨order, simulated, reviewed⟩ := Fallible.except_bind_ok passes
  obtain ⟨review, -, opened⟩ := Fallible.except_bind_ok reviewed
  exact ⟨order, ShadowExecutionSimulator.simulate_timestamp simulated, Except.ok.inj opened⟩

theorem attemptScored_passed {place : ℕ} {scored : ScoredSignal} {position : VirtualPosition}
    (valid : scored.decision = .valid)
    (passes : attemptScored settings call judgement place scored = .ok (some position)) :
    Passed settings call judgement place scored.signal position := by
  unfold attemptScored at passes
  dsimp only at passes
  cases approved : (RiskManager.approve settings.config scored judgement.quality judgement.state
    (some judgement.regime.regime)).approved with
  | false =>
    rw [if_pos approved] at passes
    cases passes
  | true =>
    rw [if_neg (by simp [approved])] at passes
    obtain ⟨review, -, executed⟩ := Fallible.except_bind_ok passes
    split at executed
    · cases executed
    · exact ⟨⟨scored, rfl, valid, approved⟩, attemptFill_filled executed⟩

/-- A trade which a strategy gets through is one of its signal, which passed all checks. -/
theorem attempt_passed {place : ℕ} {strategy : IntradayStrategy} {position : VirtualPosition}
    (passes : attempt settings call judgement place strategy = .ok (some position)) :
    ∃ signal, strategy call.snapshot judgement.regime = .ok (some signal) ∧
      Passed settings call judgement place signal position := by
  obtain ⟨generated, generates, asked⟩ := Fallible.except_bind_ok passes
  cases generated with
  | none => cases asked
  | some signal =>
    obtain ⟨review, -, scored⟩ := Fallible.except_bind_ok asked
    dsimp only at scored
    split at scored
    · cases scored
    · split at scored
      · cases scored
      · next valid =>
        have passed := attemptScored_passed (not_not.mp valid) scored
        rw [applyConfidence_signal] at passed
        exact ⟨signal, generates, passed⟩

theorem mem_filledInTurn {first : ℕ} {strategies : List IntradayStrategy}
    {position : VirtualPosition}
    (member : position ∈ filledInTurn (attempts settings call judgement first strategies)) :
    ∃ place, ∃ strategy ∈ strategies,
      attempt settings call judgement place strategy = .ok (some position) := by
  induction strategies generalizing first with
  | nil => cases member
  | cons strategy rest ih =>
    rw [attempts, List.zipIdx_cons, List.map_cons] at member
    cases attempted : attempt settings call judgement first strategy with
    | error raised =>
      rw [attempted] at member
      cases member
    | ok made =>
      rw [attempted, filledInTurn, List.mem_append, Option.mem_toList] at member
      rcases member with here | later
      · exact ⟨first, strategy, List.mem_cons_self, by rw [attempted, Option.mem_def.mp here]⟩
      · obtain ⟨place, other, listed, passes⟩ := ih later
        exact ⟨place, other, List.mem_cons_of_mem strategy listed, passes⟩

end Attempt

/-- A pipeline after positions were opened and entries were written. -/
def IntradayShadowPipeline.opening (pipeline : IntradayShadowPipeline)
    (positions : List VirtualPosition) (entries : List JournalEntry) : IntradayShadowPipeline :=
  { pipeline with
    positions := pipeline.positions ++ positions
    journal := pipeline.journal ++ entries }

theorem IntradayShadowPipeline.opening_opening (pipeline : IntradayShadowPipeline)
    (first second : List VirtualPosition) (entries later : List JournalEntry) :
    (pipeline.opening first entries).opening second later =
      pipeline.opening (first ++ second) (entries ++ later) := by
  simp [opening]

/-- The computation opens these positions and beyond that only writes to the journal. -/
def Opens {α : Type} (computation : Fallible RaisedError IntradayShadowPipeline α)
    (positions : List VirtualPosition) : Prop :=
  ∀ pipeline, ∃ entries, (computation.run pipeline).2 = pipeline.opening positions entries

/-- The computation opens what an attempt gets through, and raises what it raises. -/
structure Performs {α : Type} (computation : Fallible RaisedError IntradayShadowPipeline α)
    (result : Except RaisedError (Option VirtualPosition)) : Prop where
  opens : Opens computation (filled result)
  raises : ∀ pipeline, (computation.run pipeline).1.map (fun _ => ()) = result.map fun _ => ()

section Performs

variable {α β : Type}

theorem opens_pure (value : α) : Opens (pure value) [] := by
  intro pipeline
  refine ⟨[], ?_⟩
  simp [IntradayShadowPipeline.opening]

theorem performs_pure (value : α) : Performs (pure value) (.ok none) :=
  ⟨opens_pure value, fun _ => rfl⟩

/-- Opening one position is what a filled attempt does. -/
theorem performs_open (position : VirtualPosition) (value : α) :
    Performs (do
      modify fun pipeline => { pipeline with positions := pipeline.positions ++ [position] }
      return value) (.ok (some position)) := by
  constructor
  · intro pipeline
    refine ⟨[], ?_⟩
    rw [Fallible.run_bind]
    simp [IntradayShadowPipeline.opening, filled]
  · intro pipeline
    rw [Fallible.run_bind]
    rfl

/-- Writing an entry first changes nothing else. -/
theorem opens_write {positions : List VirtualPosition} (entry : JournalEntry)
    {rest : Fallible RaisedError IntradayShadowPipeline α} (opens : Opens rest positions) :
    Opens (do writeEntry entry; rest) positions := by
  intro pipeline
  obtain ⟨entries, moved⟩ := opens { pipeline with journal := pipeline.journal ++ [entry] }
  refine ⟨entry :: entries, ?_⟩
  rw [Fallible.run_bind, writeEntry, Fallible.run_modify]
  simpa [IntradayShadowPipeline.opening] using moved

theorem performs_write {result : Except RaisedError (Option VirtualPosition)}
    (entry : JournalEntry) {rest : Fallible RaisedError IntradayShadowPipeline α}
    (performs : Performs rest result) : Performs (do writeEntry entry; rest) result := by
  refine ⟨opens_write entry performs.opens, ?_⟩
  intro pipeline
  rw [Fallible.run_bind, writeEntry, Fallible.run_modify]
  exact performs.raises _

/-- Asking something outside the pipeline is part of the attempt. -/
theorem performs_ask {asked : Except RaisedError β}
    {rest : β → Fallible RaisedError IntradayShadowPipeline α}
    {result : β → Except RaisedError (Option VirtualPosition)}
    (performs : ∀ value, Performs (rest value) (result value)) :
    Performs (do let value ← Fallible.ofExcept asked; rest value) (asked >>= result) := by
  cases asked with
  | ok value =>
    constructor
    · intro pipeline
      obtain ⟨entries, moved⟩ := (performs value).opens pipeline
      refine ⟨entries, ?_⟩
      rw [Fallible.run_bind, Fallible.run_ofExcept]
      exact moved
    · intro pipeline
      rw [Fallible.run_bind, Fallible.run_ofExcept]
      exact (performs value).raises pipeline
  | error raised =>
    constructor
    · intro pipeline
      refine ⟨[], ?_⟩
      rw [Fallible.run_bind, Fallible.run_ofExcept]
      simp [IntradayShadowPipeline.opening, filled, bind, Except.bind]
    · intro pipeline
      rw [Fallible.run_bind, Fallible.run_ofExcept]
      rfl

theorem performs_ite {condition : Prop} [Decidable condition]
    {first second : Fallible RaisedError IntradayShadowPipeline α}
    {firstResult secondResult : Except RaisedError (Option VirtualPosition)}
    (whenTrue : condition → Performs first firstResult)
    (whenFalse : ¬condition → Performs second secondResult) :
    Performs (if condition then first else second)
      (if condition then firstResult else secondResult) := by
  split
  · next holds => exact whenTrue holds
  · next fails => exact whenFalse fails

end Performs

section Process

variable (settings : PipelineSettings) (call : SnapshotCall) (judgement : Judgement)

theorem executeSignal_performs (place : ℕ) (scored : ScoredSignal) (approval : RiskApproval)
    (rows : StrategyRows) :
    Performs (executeSignal settings call place scored approval rows)
      (attemptFill settings call place scored.signal approval) := by
  unfold executeSignal attemptFill
  apply performs_write
  apply performs_ask
  intro order
  apply performs_ask
  intro review
  apply performs_write
  dsimp only
  split
  · next unfilled =>
    rw [unfilled]
    exact performs_pure _
  · next position opened =>
    rw [opened]
    exact performs_open position _

theorem processScored_performs (place : ℕ) (scored : ScoredSignal) (rows : StrategyRows) :
    Performs (processScored settings call judgement place scored rows)
      (attemptScored settings call judgement place scored) := by
  unfold processScored attemptScored
  apply performs_ite
  · intro _
    exact performs_write _ (performs_pure _)
  · intro _
    apply performs_ask
    intro riskReview
    apply performs_ite
    · intro _
      exact performs_write _ (performs_pure _)
    · intro _
      exact executeSignal_performs settings call place scored _ _

/-- One round of the loop does what its strategy's attempt says. -/
theorem processStrategy_performs (earlier : List IntradayStrategy) (strategy : IntradayStrategy) :
    Performs (processStrategy settings call judgement earlier strategy)
      (attempt settings call judgement earlier.length strategy) := by
  unfold processStrategy attempt
  apply performs_ask
  intro generated
  cases generated with
  | none => exact performs_pure _
  | some signal =>
    apply performs_ask
    intro review
    apply performs_ite
    · intro _
      exact performs_write _ (performs_pure _)
    · intro _
      apply performs_ite
      · intro _
        exact performs_write _ (performs_pure _)
      · intro _
        exact processScored_performs settings call judgement earlier.length _ _

/-- The loop opens what its strategies get through in turn. -/
theorem scan_opens (earlier strategies : List IntradayStrategy) :
    Opens (Fallible.scan (processStrategy settings call judgement) earlier strategies)
      (filledInTurn (attempts settings call judgement earlier.length strategies)) := by
  induction strategies generalizing earlier with
  | nil => exact opens_pure []
  | cons strategy rest ih =>
    intro pipeline
    have performs := processStrategy_performs settings call judgement earlier strategy
    obtain ⟨entries, moved⟩ := performs.opens pipeline
    have raises := performs.raises pipeline
    rw [Fallible.scan, Fallible.run_bind, attempts, List.zipIdx_cons, List.map_cons]
    cases stepped : (processStrategy settings call judgement earlier strategy).run pipeline with
    | mk outcome next =>
      rw [stepped] at moved raises
      cases attempted : attempt settings call judgement earlier.length strategy with
      | error raised =>
        rw [attempted] at raises moved
        cases outcome with
        | ok rows => cases raises
        | error _ => exact ⟨entries, moved⟩
      | ok position =>
        rw [attempted] at raises moved
        cases outcome with
        | error _ => cases raises
        | ok rows =>
          obtain ⟨later, continued⟩ := ih (earlier ++ [strategy]) next
          refine ⟨entries ++ later, ?_⟩
          rw [List.length_append, List.length_singleton] at continued
          have here : next = pipeline.opening position.toList entries := moved
          simp only [bind_pure_comp, Fallible.run_map, continued]
          rw [here, IntradayShadowPipeline.opening_opening]
          rfl

/-- After the regime review the loop decides what is opened, unless the review blocks. -/
theorem processStrategies_opens (result : SnapshotResult) :
    Opens (processStrategies settings call judgement result)
      (match call.reviews.reviewRegime with
        | .ok review =>
          if review.block then []
          else filledInTurn (attempts settings call judgement 0 settings.strategies)
        | .error _ => []) := by
  intro pipeline
  unfold processStrategies
  rw [Fallible.run_bind, Fallible.run_ofExcept]
  cases call.reviews.reviewRegime with
  | error raised => exact opens_pure () pipeline
  | ok review =>
    dsimp only
    split
    · exact opens_write _ (opens_pure _) pipeline
    · rw [bind_pure_comp, Fallible.run_map]
      exact scan_opens settings call judgement [] settings.strategies pipeline

end Process

section Call

variable (settings : PipelineSettings) (pipeline : IntradayShadowPipeline) (call : SnapshotCall)

/-- The risk state of a call: the one it is given, or a fresh one with the
positions held before the call. -/
def SnapshotCall.state : ShadowRiskState :=
  call.riskState.getD { openPositions := pipeline.positions }

/-- What the strategies of a call are judged by, given its quality report. -/
def SnapshotCall.judgement (quality : DataQualityReport) : Judgement where
  quality
  regime := MarketRegimeClassifier.classify settings.config call.snapshot
  state := call.state pipeline

/-- The kill switch or the universe filter ends the call before a review is asked. -/
def SnapshotCall.turnedAway (quality : DataQualityReport) : Prop :=
  (KillSwitchManager.evaluate settings.config pipeline.killSwitch (call.state pipeline)
      (some quality)).triggered = true ∨
    ¬(UniverseFilter.check settings.text settings.config call.snapshot quality).allowed = true

instance (quality : DataQualityReport) :
    Decidable (call.turnedAway settings pipeline quality) :=
  inferInstanceAs (Decidable (_ ∨ _))

/-- The trades whose signals pass: the call reaches its strategies, and the score,
the reviews, the risk manager, who sees the positions held before the call, and
the simulated fill let the signal through. -/
def passing : List VirtualPosition :=
  match DataQualityMonitor.check settings.config call.snapshot (.utc call.checkedAt) with
  | .error _ => []
  | .ok quality =>
    if call.turnedAway settings pipeline quality then []
    else
      match call.reviews.reviewRegime with
      | .ok review =>
        if review.block then []
        else
          filledInTurn (attempts settings call (call.judgement settings pipeline quality) 0
            settings.strategies)
      | .error _ => []

/-- A call opens what gets through all checks; beyond that it only writes to the
journal and sets the kill switch. -/
theorem processSnapshot_run :
    ∃ entries killSwitch, ((processSnapshot settings call).run pipeline).2 =
      { pipeline.opening (passing settings pipeline call) entries with killSwitch } := by
  unfold processSnapshot passing
  rw [Fallible.run_bind, Fallible.run_get]
  dsimp only
  rw [Fallible.run_bind, Fallible.run_ofExcept]
  cases DataQualityMonitor.check settings.config call.snapshot (.utc call.checkedAt) with
  | error raised =>
    refine ⟨[], pipeline.killSwitch, ?_⟩
    simp [IntradayShadowPipeline.opening]
  | ok quality =>
    dsimp only
    rw [Fallible.run_bind, Fallible.run_modify]
    dsimp only
    split
    · next away =>
      have turnedAway : call.turnedAway settings pipeline quality := away
      rw [if_pos turnedAway]
      obtain ⟨entries, moved⟩ := opens_write _ (opens_pure _) _
      exact ⟨entries, _, moved⟩
    · next asked =>
      have admitted : ¬call.turnedAway settings pipeline quality := asked
      rw [if_neg admitted]
      obtain ⟨entries, moved⟩ := processStrategies_opens settings call _ _ _
      exact ⟨entries, _, moved⟩

/-- The positions which a call adds to a pipeline. -/
def newPositions : List VirtualPosition :=
  ((processSnapshot settings call).run pipeline).2.positions.drop pipeline.positions.length

theorem newPositions_eq : newPositions settings pipeline call = passing settings pipeline call := by
  obtain ⟨entries, killSwitch, moved⟩ := processSnapshot_run settings pipeline call
  rw [newPositions, moved]
  exact List.drop_left

/-- A trade which passes in a call is one of a strategy's signal, which passed all checks. -/
theorem mem_passing {position : VirtualPosition}
    (member : position ∈ passing settings pipeline call) :
    ∃ quality place, ∃ strategy ∈ settings.strategies, ∃ signal,
      strategy call.snapshot (MarketRegimeClassifier.classify settings.config call.snapshot) =
        .ok (some signal) ∧
      Passed settings call (call.judgement settings pipeline quality) place signal position := by
  unfold passing at member
  split at member
  · cases member
  · next quality checked =>
    split at member
    · cases member
    · split at member
      · split at member
        · cases member
        · obtain ⟨place, strategy, listed, passes⟩ := mem_filledInTurn member
          obtain ⟨signal, generates, passed⟩ := attempt_passed passes
          exact ⟨quality, place, strategy, listed, signal, generates, passed⟩
      · cases member

end Call

/-- Five rising minutes with rising volume, from 09:15 UTC on 2026-05-13. -/
def relianceCandles : List Candle :=
  [⟨.utc 1778663700000000, 201 / 2, 199 / 2, 100, 1000⟩,
    ⟨.utc 1778663760000000, 203 / 2, 201 / 2, 101, 1300⟩,
    ⟨.utc 1778663820000000, 205 / 2, 203 / 2, 102, 1600⟩,
    ⟨.utc 1778663880000000, 207 / 2, 205 / 2, 103, 1900⟩,
    ⟨.utc 1778663940000000, 209 / 2, 207 / 2, 104, 2200⟩]

/-- A snapshot of 09:30 UTC which two of the default strategies signal on. -/
def relianceSnapshot : MarketDataSnapshot where
  market := .india
  symbol := "RELIANCE"
  timestamp := .utc 1778664600000000
  lastPrice := 104
  vwap := some (1036 / 10)
  volume := 100000
  openingRangeHigh15m := some 103
  openingRangeLow15m := some 99
  atr := some 1
  bid := some (10398 / 100)
  ask := some (10402 / 100)
  candles1m := relianceCandles
  candles3m := relianceCandles
  candles5m := relianceCandles
  indexTrend := some (4 / 1000)
  sectorTrend := some (3 / 1000)
  marketBreadth := some (7 / 10)
  gapPct := some (6 / 1000)

/-- An orchestrator whose review is disabled. -/
def AgenticReviews.disabled : AgenticReviews where
  enabled := false
  regime := .ok {}
  signal _ := .ok {}
  risk _ := .ok {}
  execution _ := .ok {}

/-- The snapshot, processed without agents within two seconds. -/
def relianceCall : SnapshotCall where
  snapshot := relianceSnapshot
  checkedAt := 1778664601000000
  orderedAt _ := 1778664602000000
  reviews := .disabled

example : (newPositions ⟨.plain, {}, defaultStrategies .plain⟩ {} relianceCall).map
    (fun position => (position.strategy, position.quantity)) =
      [("VWAP_TREND_LONG", 833), ("OPENING_RANGE_BREAKOUT_BREAKDOWN", 250)] := by
  decide +kernel

end AlphaAgent.Intraday
