import AlphaAgent.Foundation.Calls
import AlphaAgent.Intraday.Effects
import Mathlib.Data.List.Forall2

/-!
# The rows of the journal

`JournalConserved` pairs the signals of a run with the rows which decide them,
the acceptances among these with the rows of their orders, and the filled ones
with the positions opened. All three pairings are in order, so they append. A
signal leaves the loop with a rejection, or with an acceptance and an order;
the calls of a run append what their signals leave.
-/

namespace AlphaAgent.Intraday

open Agentic Foundation

namespace JournalEntry

variable (entry : JournalEntry)

def isAcceptance : Bool := entry.eventType = "SIGNAL_ACCEPTED"

def isRejection : Bool := entry.eventType = "SIGNAL_REJECTED"

/-- The row accepts or rejects a signal. -/
def isDecision : Bool := entry.isAcceptance || entry.isRejection

def isFill : Bool := entry.eventType = "SHADOW_ORDER_FILLED"

/-- The row is about an order. -/
def isOrder : Bool := entry.isFill || entry.eventType = "SHADOW_ORDER_REJECTED"

/-- The row is about the signal. -/
structure Describes (signal : Signal) : Prop where
  symbol : entry.symbol = signal.symbol
  direction : entry.direction = signal.direction.value
  strategy : entry.strategy = signal.strategyName
  regime : entry.regime = signal.regimeAtSignal.value
  entryPrice : entry.entryPrice = some signal.entryPrice
  stopLoss : entry.stopLoss = some signal.stopLoss
  target : entry.target = some signal.targetPrice
  riskReward : entry.riskReward = some signal.riskRewardRatio
  candleSnapshot : entry.candleSnapshot = signal.candleSnapshot

/-- The row books what the position was opened with. -/
structure Books (position : VirtualPosition) : Prop where
  symbol : entry.symbol = position.symbol
  direction : entry.direction = position.direction.value
  quantity : entry.quantity = some position.quantity
  fill : entry.simulatedFillPrice = some position.entryPrice

end JournalEntry

open JournalEntry

/-- Each signal has one decision, each acceptance one order of the same signal
for the accepted quantity, and each fill one position. -/
structure JournalConserved (signals : List Signal) (entries : List JournalEntry)
    (positions : List VirtualPosition) : Prop where
  decided : List.Forall₂ (fun signal entry => entry.Describes signal) signals
    (entries.filter isDecision)
  ordered : List.Forall₂ (fun accepted order => accepted.quantity = order.quantity ∧
      ∃ signal ∈ signals, accepted.Describes signal ∧ order.Describes signal)
    (entries.filter isAcceptance) (entries.filter isOrder)
  opened : List.Forall₂ Books (entries.filter isFill) positions

namespace JournalConserved

variable {signals later : List Signal} {entries rows : List JournalEntry}
  {positions opened : List VirtualPosition}

/-- Nothing was generated and only a row about the snapshot was written. -/
theorem of_block {rows : List JournalEntry}
    (blocks : ∀ entry ∈ rows, entry.isDecision = false ∧ entry.isOrder = false) :
    JournalConserved [] rows [] := by
  have none : ∀ {kind : JournalEntry → Bool}, (∀ entry ∈ rows, kind entry = false) →
      rows.filter kind = [] := by
    intro kind absent
    rw [List.filter_eq_nil_iff]
    intro entry member
    rw [absent entry member]
    decide
  have decisions : rows.filter isDecision = [] := none fun entry member => (blocks entry member).1
  have orders : rows.filter isOrder = [] := none fun entry member => (blocks entry member).2
  have acceptances : rows.filter isAcceptance = [] := none fun entry member =>
    (Bool.or_eq_false_iff.mp (blocks entry member).1).1
  have fills : rows.filter isFill = [] := none fun entry member =>
    (Bool.or_eq_false_iff.mp (blocks entry member).2).1
  exact ⟨by rw [decisions]; exact .nil, by rw [acceptances, orders]; exact .nil,
    by rw [fills]; exact .nil⟩

/-- What two parts of a run leave is conserved together. -/
theorem append (first : JournalConserved signals entries positions)
    (second : JournalConserved later rows opened) :
    JournalConserved (signals ++ later) (entries ++ rows) (positions ++ opened) where
  decided := by
    rw [List.filter_append]
    exact List.rel_append first.decided second.decided
  ordered := by
    rw [List.filter_append, List.filter_append]
    refine List.rel_append (first.ordered.imp ?_) (second.ordered.imp ?_)
    · rintro accepted order ⟨quantity, signal, member, described⟩
      exact ⟨quantity, signal, List.mem_append_left later member, described⟩
    · rintro accepted order ⟨quantity, signal, member, described⟩
      exact ⟨quantity, signal, List.mem_append_right signals member, described⟩
  opened := by
    rw [List.filter_append]
    exact List.rel_append first.opened second.opened

end JournalConserved

/-- What a rejected signal leaves: its rejection. -/
theorem JournalConserved.of_rejection {scored : ScoredSignal} {entry : JournalEntry}
    (rejects : entry.eventType = "SIGNAL_REJECTED") (describes : entry.Describes scored.signal) :
    JournalConserved [scored.signal] [entry] [] := by
  have decision : entry.isDecision = true := by simp [isDecision, isRejection, rejects]
  have notAccepted : entry.isAcceptance = false := by simp [isAcceptance, rejects]
  have noOrder : entry.isOrder = false := by simp [isOrder, isFill, rejects]
  have noFill : entry.isFill = false := by simp [isFill, rejects]
  constructor
  · rw [List.filter_cons_of_pos decision]
    exact .cons describes .nil
  · rw [List.filter_cons_of_neg (by simp [notAccepted]),
      List.filter_cons_of_neg (by simp [noOrder])]
    exact .nil
  · rw [List.filter_cons_of_neg (by simp [noFill])]
    exact .nil

/-- What the simulator makes of an approved signal: an order for it, of the
approved quantity, with a fill price exactly when it is filled. -/
theorem ShadowExecutionSimulator.simulate_order {config : IntradayShadowConfig} {signal : Signal}
    {approval : RiskApproval} {snapshot : MarketDataSnapshot} {now : DateTime} {order : ShadowOrder}
    (approved : approval.approved = true) (positive : 0 < approval.quantity)
    (simulated : simulate config signal approval snapshot now = .ok order) :
    order.symbol = signal.symbol ∧ order.direction = signal.direction ∧
      order.quantity = approval.quantity ∧
      (order.fillStatus = .filled ↔ ∃ fill, order.simulatedFill = some fill) := by
  have executable : ¬(¬approval.approved = true ∨ approval.quantity ≤ 0) := by
    rw [not_or, not_not]
    exact ⟨approved, not_le.mpr positive⟩
  unfold simulate at simulated
  dsimp only at simulated
  rw [if_neg executable] at simulated
  split_ifs at simulated <;> cases simulated <;> simp

/-- A filled order of a positive quantity opens a position which its row books,
and no other order opens one. -/
theorem VirtualPositionManager.openPosition_order (signal : Signal) {order : ShadowOrder}
    (positive : 0 < order.quantity)
    (filled : order.fillStatus = .filled ↔ ∃ fill, order.simulatedFill = some fill) :
    (order.fillStatus = .filled → ∃ position, openPosition signal order = some position ∧
        position.symbol = signal.symbol ∧ position.direction = signal.direction ∧
        position.quantity = order.quantity ∧ order.simulatedFill = some position.entryPrice) ∧
      (order.fillStatus ≠ .filled → openPosition signal order = none) := by
  unfold openPosition
  cases simulatedFill : order.simulatedFill with
  | none =>
    refine ⟨fun fills => ?_, fun _ => rfl⟩
    rw [filled, simulatedFill] at fills
    obtain ⟨_, absent⟩ := fills
    cases absent
  | some fill =>
    have fills : order.fillStatus = .filled := filled.mpr ⟨fill, simulatedFill⟩
    have opens : ¬(order.fillStatus ≠ .filled ∨ order.quantity ≤ 0) := by
      rw [not_or, not_not]
      exact ⟨fills, not_le.mpr positive⟩
    refine ⟨fun _ => ?_, fun unfilled => absurd fills unfilled⟩
    dsimp only
    rw [if_neg opens]
    exact ⟨_, rfl, rfl, rfl, rfl, rfl⟩

/-- The row of an accepted signal. -/
def acceptedEntry (scored : ScoredSignal) (approval : RiskApproval) : JournalEntry :=
  { signalEntry "SIGNAL_ACCEPTED" scored with
    quantity := some approval.quantity
    riskAmount := some approval.riskAmount }

theorem acceptedEntry_describes (scored : ScoredSignal) (approval : RiskApproval) :
    (acceptedEntry scored approval).Describes scored.signal := by
  constructor <;> rfl

/-- What an accepted signal leaves: its acceptance, its order, and the position of a fill. -/
theorem JournalConserved.of_execution {config : IntradayShadowConfig} {scored : ScoredSignal}
    {approval : RiskApproval} {snapshot : MarketDataSnapshot} {now : DateTime} {order : ShadowOrder}
    (approved : approval.approved = true) (positive : 0 < approval.quantity)
    (simulated : ShadowExecutionSimulator.simulate config scored.signal approval snapshot now =
      .ok order) :
    JournalConserved [scored.signal]
      [acceptedEntry scored approval, orderEntry scored approval order]
      (VirtualPositionManager.openPosition scored.signal order).toList := by
  obtain ⟨symbol, direction, quantity, filled⟩ :=
    ShadowExecutionSimulator.simulate_order approved positive simulated
  obtain ⟨opens, opensNone⟩ := VirtualPositionManager.openPosition_order scored.signal
    (quantity ▸ positive) filled
  have describes : (orderEntry scored approval order).Describes scored.signal := by
    refine ⟨symbol, ?_, rfl, rfl, rfl, rfl, rfl, rfl, rfl⟩
    rw [← direction]
    rfl
  have decisions : [acceptedEntry scored approval, orderEntry scored approval order].filter
      isDecision = [acceptedEntry scored approval] := by
    by_cases fills : order.fillStatus = .filled <;>
      simp [isDecision, isAcceptance, isRejection, acceptedEntry, orderEntry, signalEntry, fills]
  have acceptances : [acceptedEntry scored approval, orderEntry scored approval order].filter
      isAcceptance = [acceptedEntry scored approval] := by
    by_cases fills : order.fillStatus = .filled <;>
      simp [isAcceptance, acceptedEntry, orderEntry, signalEntry, fills]
  have orders : [acceptedEntry scored approval, orderEntry scored approval order].filter isOrder =
      [orderEntry scored approval order] := by
    by_cases fills : order.fillStatus = .filled <;>
      simp [isOrder, isFill, acceptedEntry, orderEntry, signalEntry, fills]
  constructor
  · rw [decisions]
    exact .cons (acceptedEntry_describes scored approval) .nil
  · rw [acceptances, orders]
    refine .cons ⟨congrArg some quantity.symm, scored.signal, List.mem_singleton.mpr rfl,
      acceptedEntry_describes scored approval, describes⟩ .nil
  · by_cases fills : order.fillStatus = .filled
    · obtain ⟨position, opened, sameSymbol, sameDirection, sameQuantity, fill⟩ := opens fills
      have booked : [acceptedEntry scored approval, orderEntry scored approval order].filter
          isFill = [orderEntry scored approval order] := by
        simp [isFill, acceptedEntry, orderEntry, signalEntry, fills]
      rw [booked, opened]
      refine .cons ⟨symbol.trans sameSymbol.symm, ?_, congrArg some sameQuantity.symm, fill⟩ .nil
      rw [sameDirection, ← direction]
      rfl
    · have booked : [acceptedEntry scored approval, orderEntry scored approval order].filter
          isFill = [] := by
        simp [isFill, acceptedEntry, orderEntry, signalEntry, fills]
      rw [booked, opensNone fills]
      exact .nil

/-- Where the computation returns, it has added rows and positions which conserve the signals. -/
def Conserves {α : Type} (computation : Fallible RaisedError IntradayShadowPipeline α)
    (signals : List Signal) : Prop :=
  ∀ pipeline value next, computation.run pipeline = (.ok value, next) →
    ∃ entries positions, next = pipeline.opening positions entries ∧
      JournalConserved signals entries positions

section Conserves

variable {α β : Type}

theorem conserves_pure (value : α) : Conserves (pure value) [] := by
  intro pipeline returned next ran
  cases ran
  refine ⟨[], [], ?_, .of_block (by simp)⟩
  simp [IntradayShadowPipeline.opening]

theorem conserves_ask {asked : Except RaisedError β}
    {rest : β → Fallible RaisedError IntradayShadowPipeline α} {signals : List Signal}
    (conserves : ∀ value, asked = .ok value → Conserves (rest value) signals) :
    Conserves (do let value ← Fallible.ofExcept asked; rest value) signals := by
  intro pipeline value next ran
  obtain ⟨answer, middle, answered, continued⟩ := Fallible.run_bind_ok pipeline ran
  rw [Fallible.run_ofExcept, Prod.mk.injEq] at answered
  obtain ⟨given, rfl⟩ := answered
  exact conserves answer given _ value next continued

theorem conserves_ite {condition : Prop} [Decidable condition]
    {first second : Fallible RaisedError IntradayShadowPipeline α} {signals : List Signal}
    (whenTrue : condition → Conserves first signals)
    (whenFalse : ¬condition → Conserves second signals) :
    Conserves (if condition then first else second) signals := by
  split
  · next holds => exact whenTrue holds
  · next fails => exact whenFalse fails

/-- A computation which only writes a row leaves this row. -/
theorem conserves_write {signals : List Signal} {entry : JournalEntry}
    (conserved : JournalConserved signals [entry] []) (value : α) :
    Conserves (do writeEntry entry; return value) signals := by
  intro pipeline returned next ran
  obtain ⟨_, middle, wrote, continued⟩ := Fallible.run_bind_ok pipeline ran
  cases wrote
  cases continued
  refine ⟨[entry], [], ?_, conserved⟩
  simp [IntradayShadowPipeline.opening]

/-- Two computations in sequence conserve the signals of both. -/
theorem conserves_bind {first : Fallible RaisedError IntradayShadowPipeline β}
    {rest : β → Fallible RaisedError IntradayShadowPipeline α} {signals later : List Signal}
    (conserves : Conserves first signals) (continues : ∀ value, Conserves (rest value) later) :
    Conserves (first >>= rest) (signals ++ later) := by
  intro pipeline value next ran
  obtain ⟨middle, between, started, continued⟩ := Fallible.run_bind_ok pipeline ran
  obtain ⟨entries, positions, moved, conserved⟩ := conserves pipeline middle between started
  obtain ⟨rows, opened, movedOn, conservedToo⟩ := continues middle between value next continued
  refine ⟨entries ++ rows, positions ++ opened, ?_, conserved.append conservedToo⟩
  rw [movedOn, moved, IntradayShadowPipeline.opening_opening]

end Conserves

section Process

variable (settings : PipelineSettings) (call : SnapshotCall) (judgement : Judgement)

/-- An accepted signal is executed: its acceptance, its order, and the position of a fill. -/
theorem executeSignal_conserves (place : ℕ) {scored : ScoredSignal} {approval : RiskApproval}
    (approved : approval.approved = true) (positive : 0 < approval.quantity)
    (rows : StrategyRows) :
    Conserves (executeSignal settings call place scored approval rows) [scored.signal] := by
  intro pipeline value next ran
  unfold executeSignal at ran
  obtain ⟨_, accepted, wrote, ran⟩ := Fallible.run_bind_ok pipeline ran
  cases wrote
  obtain ⟨order, _, simulated, ran⟩ := Fallible.run_bind_ok _ ran
  rw [Fallible.run_ofExcept, Prod.mk.injEq] at simulated
  obtain ⟨simulated, rfl⟩ := simulated
  obtain ⟨review, _, reviewed, ran⟩ := Fallible.run_bind_ok _ ran
  rw [Fallible.run_ofExcept, Prod.mk.injEq] at reviewed
  obtain ⟨-, rfl⟩ := reviewed
  obtain ⟨_, ordered, wrote, ran⟩ := Fallible.run_bind_ok _ ran
  cases wrote
  refine ⟨[acceptedEntry scored approval, orderEntry scored approval order],
    (VirtualPositionManager.openPosition scored.signal order).toList, ?_,
    .of_execution approved positive simulated⟩
  dsimp only at ran
  cases opened : VirtualPositionManager.openPosition scored.signal order with
  | none =>
    rw [opened] at ran
    cases ran
    simp [IntradayShadowPipeline.opening, acceptedEntry]
  | some position =>
    rw [opened] at ran
    obtain ⟨_, _, wrote, ran⟩ := Fallible.run_bind_ok _ ran
    cases wrote
    cases ran
    simp [IntradayShadowPipeline.opening, acceptedEntry]

theorem processScored_conserves (place : ℕ) (scored : ScoredSignal) (rows : StrategyRows) :
    Conserves (processScored settings call judgement place scored rows) [scored.signal] := by
  unfold processScored
  apply conserves_ite
  · intro _
    exact conserves_write (.of_rejection rfl (by constructor <;> rfl)) _
  · intro approved
    rw [Bool.not_eq_false] at approved
    apply conserves_ask
    intro riskReview _
    apply conserves_ite
    · intro _
      exact conserves_write (.of_rejection rfl (by constructor <;> rfl)) _
    · intro _
      exact executeSignal_conserves settings call place approved
        (RiskManager.approve_quantity approved) _

/-- The signal which a strategy generates, if it does. -/
def generatedBy (snapshot : MarketDataSnapshot) (regime : RegimeResult)
    (strategy : IntradayStrategy) : Option Signal :=
  (strategy snapshot regime).toOption.join

/-- One round of the loop conserves the signal of its strategy. -/
theorem processStrategy_conserves (earlier : List IntradayStrategy) (strategy : IntradayStrategy) :
    Conserves (processStrategy settings call judgement earlier strategy)
      (generatedBy call.snapshot judgement.regime strategy).toList := by
  unfold processStrategy
  apply conserves_ask
  intro generated generates
  have signals : generatedBy call.snapshot judgement.regime strategy = generated := by
    rw [generatedBy, generates]
    rfl
  rw [signals]
  cases generated with
  | none => exact conserves_pure _
  | some signal =>
    apply conserves_ask
    intro review _
    have own : (some signal).toList = [(applyConfidence settings.config
        (SignalScoringEngine.score settings.config signal)
          review.confidenceMultiplier).signal] := by
      rw [applyConfidence_signal]
      rfl
    rw [own]
    apply conserves_ite
    · intro _
      exact conserves_write (.of_rejection rfl (by constructor <;> rfl)) _
    · intro _
      apply conserves_ite
      · intro _
        exact conserves_write (.of_rejection rfl (by constructor <;> rfl)) _
      · intro _
        exact processScored_conserves settings call judgement earlier.length _ _

/-- The loop conserves the signals of its strategies. -/
theorem scan_conserves (earlier strategies : List IntradayStrategy) :
    Conserves (Fallible.scan (processStrategy settings call judgement) earlier strategies)
      (strategies.filterMap (generatedBy call.snapshot judgement.regime)) := by
  induction strategies generalizing earlier with
  | nil => exact conserves_pure []
  | cons strategy rest ih =>
    have signals : (strategy :: rest).filterMap (generatedBy call.snapshot judgement.regime) =
        (generatedBy call.snapshot judgement.regime strategy).toList ++
          (rest.filterMap (generatedBy call.snapshot judgement.regime) ++ []) := by
      cases generated : generatedBy call.snapshot judgement.regime strategy <;>
        simp [generated]
    rw [signals, Fallible.scan]
    refine conserves_bind (processStrategy_conserves settings call judgement earlier strategy) ?_
    intro rows
    exact conserves_bind (ih (earlier ++ [strategy])) fun _ => conserves_pure _

end Process

section Call

variable (settings : PipelineSettings) (pipeline : IntradayShadowPipeline) (call : SnapshotCall)

/-- The signals which the strategies generate in a call: none where the quality
check, the kill switch, the universe filter or the regime review ends it first. -/
def generated : List Signal :=
  match DataQualityMonitor.check settings.config call.snapshot (.utc call.checkedAt) with
  | .error _ => []
  | .ok quality =>
    if call.turnedAway settings pipeline quality then []
    else
      match call.reviews.reviewRegime with
      | .ok review =>
        if review.block then []
        else settings.strategies.filterMap (generatedBy call.snapshot
          (MarketRegimeClassifier.classify settings.config call.snapshot))
      | .error _ => []

theorem blockEntry_quiet (eventType reason : String)
    (quiet : eventType ∉ ["SIGNAL_ACCEPTED", "SIGNAL_REJECTED", "SHADOW_ORDER_FILLED",
      "SHADOW_ORDER_REJECTED"]) :
    JournalConserved [] [blockEntry call eventType reason] [] := by
  apply JournalConserved.of_block
  intro entry member
  rw [List.mem_singleton.mp member]
  simp only [List.mem_cons, List.not_mem_nil, or_false, not_or] at quiet
  simp [isDecision, isAcceptance, isRejection, isOrder, isFill, blockEntry, quiet]

theorem processStrategies_conserves (judgement : Judgement) (result : SnapshotResult) :
    Conserves (processStrategies settings call judgement result)
      (match call.reviews.reviewRegime with
        | .ok review =>
          if review.block then []
          else settings.strategies.filterMap (generatedBy call.snapshot judgement.regime)
        | .error _ => []) := by
  unfold processStrategies
  apply conserves_ask
  intro review reviewed
  rw [reviewed]
  dsimp only
  split
  · exact conserves_write (blockEntry_quiet call _ _ (by decide)) _
  · have scanned := conserves_bind
      (scan_conserves settings call judgement [] settings.strategies)
      fun rows => conserves_pure (({ result with reviews := [review] }).withRows rows)
    rw [List.append_nil] at scanned
    exact scanned

/-- A call which returns adds rows and positions which conserve its signals. -/
theorem processSnapshot_conserves {result : SnapshotResult}
    (returned : ((processSnapshot settings call).run pipeline).1 = .ok result) :
    ∃ entries positions killSwitch, ((processSnapshot settings call).run pipeline).2 =
        { pipeline.opening positions entries with killSwitch } ∧
      JournalConserved (generated settings pipeline call) entries positions := by
  revert returned
  unfold processSnapshot generated
  rw [Fallible.run_bind, Fallible.run_get]
  dsimp only
  rw [Fallible.run_bind, Fallible.run_ofExcept]
  cases DataQualityMonitor.check settings.config call.snapshot (.utc call.checkedAt) with
  | error raised =>
    intro returned
    cases returned
  | ok quality =>
    dsimp only
    rw [Fallible.run_bind, Fallible.run_modify]
    dsimp only
    split
    · next away =>
      intro _
      have turnedAway : call.turnedAway settings pipeline quality := away
      rw [if_pos turnedAway]
      obtain ⟨entries, positions, moved, conserved⟩ := conserves_write
        (blockEntry_quiet call "DATA_OR_UNIVERSE_BLOCK" _ (by decide)) () _ () _ rfl
      exact ⟨entries, positions, _, moved, conserved⟩
    · next asked =>
      intro returned
      have admitted : ¬call.turnedAway settings pipeline quality := asked
      rw [if_neg admitted]
      obtain ⟨entries, positions, moved, conserved⟩ := processStrategies_conserves settings call
        (call.judgement settings pipeline quality) _ _ _ _ (Prod.ext returned rfl)
      exact ⟨entries, positions, _, moved, conserved⟩

end Call

section Runs

/-- A call with what the pipeline is made of when it is made: a strategy may
answer each call in its own way. -/
abbrev StrategyCall := PipelineSettings × SnapshotCall

/-- The pipeline after a call. -/
def afterCall (pipeline : IntradayShadowPipeline) (call : StrategyCall) : IntradayShadowPipeline :=
  ((processSnapshot call.1 call.2).run pipeline).2

/-- The call returns in this state. -/
def Returns (pipeline : IntradayShadowPipeline) (call : StrategyCall) : Prop :=
  ((processSnapshot call.1 call.2).run pipeline).1.isOk = true

instance (pipeline : IntradayShadowPipeline) (call : StrategyCall) :
    Decidable (Returns pipeline call) := inferInstanceAs (Decidable (_ = true))

/-- The signals generated in a run of calls. -/
def generatedIn : IntradayShadowPipeline → List StrategyCall → List Signal
  | _, [] => []
  | pipeline, call :: rest =>
    generated call.1 pipeline call.2 ++ generatedIn (afterCall pipeline call) rest

/-- A run of calls which return adds rows to the journal and positions which
conserve the generated signals. -/
theorem journal_conservation (pipeline : IntradayShadowPipeline) (calls : List StrategyCall)
    (returns : AtEachCall afterCall Returns pipeline calls) :
    ∃ entries positions,
      (calls.foldl afterCall pipeline).journal = pipeline.journal ++ entries ∧
        (calls.foldl afterCall pipeline).positions = pipeline.positions ++ positions ∧
        JournalConserved (generatedIn pipeline calls) entries positions := by
  induction calls generalizing pipeline with
  | nil => exact ⟨[], [], by simp, by simp, .of_block (by simp)⟩
  | cons call rest ih =>
    obtain ⟨result, returned⟩ : ∃ result,
        ((processSnapshot call.1 call.2).run pipeline).1 = .ok result := by
      have isOk : ((processSnapshot call.1 call.2).run pipeline).1.isOk = true := returns.1
      cases outcome : ((processSnapshot call.1 call.2).run pipeline).1 with
      | error raised => simp [outcome, Except.isOk, Except.toBool] at isOk
      | ok result => exact ⟨result, rfl⟩
    obtain ⟨entries, positions, killSwitch, moved, conserved⟩ :=
      processSnapshot_conserves call.1 pipeline call.2 returned
    obtain ⟨rows, opened, journal, held, conservedToo⟩ := ih (afterCall pipeline call) returns.2
    refine ⟨entries ++ rows, positions ++ opened, ?_, ?_, conserved.append conservedToo⟩
    · rw [List.foldl_cons, journal, afterCall, moved, ← List.append_assoc]
      rfl
    · rw [List.foldl_cons, held, afterCall, moved, ← List.append_assoc]
      rfl

/-- A snapshot of RELIANCE under the default strategies. -/
def defaultCall : StrategyCall := (⟨.plain, {}, defaultStrategies .plain⟩, relianceCall)

/-- Two such calls return, and their signals are conserved. -/
theorem journal_conservation_reliance : ∃ entries positions,
    ([defaultCall, defaultCall].foldl afterCall {}).journal = [] ++ entries ∧
      ([defaultCall, defaultCall].foldl afterCall {}).positions = [] ++ positions ∧
      JournalConserved (generatedIn {} [defaultCall, defaultCall]) entries positions :=
  journal_conservation {} [defaultCall, defaultCall] (by decide +kernel)

end Runs

end AlphaAgent.Intraday
