import AlphaAgent.Core.MarketTime
import AlphaAgent.Intraday.AgentsRestrict
import AlphaAgent.Intraday.ExitManager
import AlphaAgent.Intraday.OpenPositions

/-!
# The cutoff for new trades

Nothing in the pipeline reads `no_new_trade_after`. A call at or after it opens
nothing exactly when the checks, which do not know the time, stop every signal
of the strategies it asks.
-/

namespace AlphaAgent.Intraday

open Foundation

section Checks

variable (settings : PipelineSettings) (pipeline : IntradayShadowPipeline) (call : SnapshotCall)
  (judgement : Judgement)

/-- The call asks its strategies: the quality check returns, neither the kill
switch nor the universe filter ends it, and the regime review does not block. -/
structure Reaches : Prop where
  checked : DataQualityMonitor.check settings.config call.snapshot (.utc call.checkedAt) =
    .ok judgement.quality
  judged : judgement = call.judgement settings pipeline judgement.quality
  admitted : ¬call.turnedAway settings pipeline judgement.quality
  reviewed : ∃ review, call.reviews.reviewRegime = .ok review ∧ review.block = false

/-- The price is still close enough to the entry to fill. -/
def PriceHolds (signal : Signal) : Prop :=
  signal.entryPrice ≠ 0 ∧
    |call.snapshot.lastPrice - signal.entryPrice| / signal.entryPrice ≤
      settings.config.maxEntryMovePct

/-- A signal passes the checks which follow the review of signals. -/
structure Accepts (place : ℕ) (scored : ScoredSignal) : Prop where
  approved : (approvalOf settings judgement scored).approved = true
  audited : ∃ review, call.reviews.reviewRisk place = .ok review ∧ review.block = false
  priced : PriceHolds settings call scored.signal
  executed : ∃ review, call.reviews.reviewExecution place = .ok review

/-- The strategy in a place gives a signal which passes every check. -/
def SignalPasses (place : ℕ) (strategy : IntradayStrategy) : Prop :=
  ∃ signal review, strategy call.snapshot judgement.regime = .ok (some signal) ∧
    call.reviews.reviewSignal place = .ok review ∧ review.block = false ∧
    (applyConfidence settings.config (SignalScoringEngine.score settings.config signal)
      review.confidenceMultiplier).decision = .valid ∧
    Accepts settings call judgement place (applyConfidence settings.config
      (SignalScoringEngine.score settings.config signal) review.confidenceMultiplier)

end Checks

/-- Something is opened in turn exactly when a round before which none raises opens it. -/
theorem filledInTurn_ne_nil {results : List (Except RaisedError (Option VirtualPosition))} :
    filledInTurn results ≠ [] ↔
      ∃ place : ℕ, (∃ position, results[place]? = some (Except.ok (some position))) ∧
        ∀ earlier < place, ∃ made, results[earlier]? = some (Except.ok made) := by
  induction results with
  | nil => simp [filledInTurn]
  | cons result rest ih =>
    cases result with
    | error raised =>
      refine iff_of_false (by simp [filledInTurn]) ?_
      rintro ⟨place, ⟨position, located⟩, returned⟩
      cases place with
      | zero => cases located
      | succ place =>
        obtain ⟨made, first⟩ := returned 0 (Nat.succ_pos place)
        cases first
    | ok made =>
      cases made with
      | some position =>
        refine iff_of_true (by simp [filledInTurn]) ⟨0, ⟨position, rfl⟩, ?_⟩
        intro earlier before
        omega
      | none =>
        rw [filledInTurn, Option.toList_none, List.nil_append, ih]
        constructor
        · rintro ⟨place, ⟨position, located⟩, returned⟩
          refine ⟨place + 1, ⟨position, located⟩, ?_⟩
          intro earlier before
          cases earlier with
          | zero => exact ⟨none, rfl⟩
          | succ earlier => exact returned earlier (by omega)
        · rintro ⟨place, ⟨position, located⟩, returned⟩
          cases place with
          | zero => cases located
          | succ place =>
            refine ⟨place, ⟨position, located⟩, ?_⟩
            intro earlier before
            exact returned (earlier + 1) (by omega)

theorem getElem?_attempts {settings : PipelineSettings} {call : SnapshotCall}
    {judgement : Judgement} {strategies : List IntradayStrategy} {place : ℕ}
    {made : Except RaisedError (Option VirtualPosition)} :
    (attempts settings call judgement 0 strategies)[place]? = some made ↔
      ∃ strategy, strategies[place]? = some strategy ∧
        attempt settings call judgement place strategy = made := by
  rw [attempts, List.getElem?_map, List.getElem?_zipIdx, Nat.zero_add]
  simp

section Attempt

variable (settings : PipelineSettings) (call : SnapshotCall) (judgement : Judgement) (place : ℕ)

/-- An approved order is filled at a price which holds, and at no other. -/
theorem attemptFill_some {signal : Signal} {approval : RiskApproval}
    (approved : approval.approved = true) (sized : 0 < approval.quantity) :
    (∃ position, attemptFill settings call place signal approval = .ok (some position)) ↔
      PriceHolds settings call signal ∧
        ∃ review, call.reviews.reviewExecution place = .ok review := by
  have placeable : ¬(¬approval.approved = true ∨ approval.quantity ≤ 0) := by
    rintro (refused | empty)
    · exact refused approved
    · exact absurd empty (not_le.mpr sized)
  unfold attemptFill ShadowExecutionSimulator.simulate
  dsimp only
  rw [if_neg placeable]
  by_cases unpriced : signal.entryPrice = 0
  · rw [if_pos unpriced]
    refine iff_of_false ?_ fun holds => holds.1.1 unpriced
    rintro ⟨position, made⟩
    cases made
  · rw [if_neg unpriced]
    by_cases moved : settings.config.maxEntryMovePct <
        |call.snapshot.lastPrice - signal.entryPrice| / signal.entryPrice
    · rw [if_pos moved]
      refine iff_of_false ?_ fun holds => absurd holds.1.2 (not_le.mpr moved)
      rintro ⟨position, made⟩
      cases executed : call.reviews.reviewExecution place with
      | error raised =>
        rw [executed] at made
        cases made
      | ok review =>
        rw [executed] at made
        cases made
    · rw [if_neg moved]
      cases call.reviews.reviewExecution place with
      | error raised =>
        refine iff_of_false ?_ ?_
        · rintro ⟨position, made⟩
          cases made
        · rintro ⟨-, review, reviewed⟩
          cases reviewed
      | ok review =>
        refine iff_of_true ?_ ⟨⟨unpriced, not_lt.mp moved⟩, review, rfl⟩
        have fills : ¬(FillStatus.filled ≠ .filled ∨ approval.quantity ≤ 0) := by
          rintro (unfilled | empty)
          · exact unfilled rfl
          · exact absurd empty (not_le.mpr sized)
        exact ⟨_, congrArg Except.ok (if_neg fills)⟩

theorem attemptScored_some (scored : ScoredSignal) :
    (∃ position, attemptScored settings call judgement place scored = .ok (some position)) ↔
      Accepts settings call judgement place scored := by
  rw [attemptScored_eq]
  cases approved : (approvalOf settings judgement scored).approved with
  | false =>
    refine iff_of_false ?_ fun accepts => by simp [accepts.approved] at approved
    rintro ⟨position, made⟩
    cases made
  | true =>
    rw [if_neg (by simp)]
    have fills := @attemptFill_some settings call place scored.signal _ approved
      (RiskManager.approve_quantity approved)
    cases audited : call.reviews.reviewRisk place with
    | error raised =>
      refine iff_of_false ?_ ?_
      · rintro ⟨position, made⟩
        cases made
      · intro accepts
        obtain ⟨review, returned, -⟩ := accepts.audited
        rw [audited] at returned
        cases returned
    | ok review =>
      change (∃ position, (if review.block = true then Except.ok none
        else attemptFill settings call place scored.signal (approvalOf settings judgement scored)) =
          Except.ok (some position)) ↔ _
      by_cases blocks : review.block = true
      · rw [if_pos blocks]
        refine iff_of_false ?_ ?_
        · rintro ⟨position, made⟩
          cases made
        · intro accepts
          obtain ⟨other, returned, passes⟩ := accepts.audited
          rw [audited] at returned
          cases returned
          rw [blocks] at passes
          cases passes
      · rw [if_neg blocks, fills]
        constructor
        · rintro ⟨priced, executed⟩
          exact ⟨approved, ⟨review, audited, by simpa using blocks⟩, priced, executed⟩
        · intro accepts
          exact ⟨accepts.priced, accepts.executed⟩

/-- A strategy gets a trade through exactly when its signal passes every check. -/
theorem attempt_some (strategy : IntradayStrategy) :
    (∃ position, attempt settings call judgement place strategy = .ok (some position)) ↔
      SignalPasses settings call judgement place strategy := by
  constructor
  · rintro ⟨position, made⟩
    obtain ⟨generated, generates, asked⟩ := Fallible.except_bind_ok made
    cases generated with
    | none => cases asked
    | some signal =>
      obtain ⟨review, reviewed, scored⟩ := Fallible.except_bind_ok asked
      dsimp only at scored
      split at scored
      · cases scored
      · next passes =>
        split at scored
        · cases scored
        · next valid =>
          exact ⟨signal, review, generates, reviewed, by simpa using passes, not_not.mp valid,
            (attemptScored_some settings call judgement place _).mp ⟨position, scored⟩⟩
  · rintro ⟨signal, review, generates, reviewed, passes, valid, accepts⟩
    obtain ⟨position, made⟩ := (attemptScored_some settings call judgement place _).mpr accepts
    refine ⟨position, ?_⟩
    have unblocked : ¬review.block = true := by simp [passes]
    have goesOn : attempt settings call judgement place strategy =
        if review.block = true then .ok none
        else if (applyConfidence settings.config (SignalScoringEngine.score settings.config signal)
          review.confidenceMultiplier).decision ≠ .valid then .ok none
        else attemptScored settings call judgement place (applyConfidence settings.config
          (SignalScoringEngine.score settings.config signal) review.confidenceMultiplier) := by
      rw [attempt, generates]
      change (call.reviews.reviewSignal place >>= _) = _
      rw [reviewed]
      rfl
    rw [goesOn, if_neg unblocked, if_neg (not_not.mpr valid), made]

end Attempt

section Cutoff

variable (settings : PipelineSettings) (zones : MarketZones)

/-- In a place before which none raises, a strategy of the call gives a signal
which passes every check. -/
def SomePasses (call : SnapshotCall) (judgement : Judgement) : Prop :=
  ∃ place, (∃ strategy, settings.strategies[place]? = some strategy ∧
      SignalPasses settings call judgement place strategy) ∧
    ∀ earlier < place, ∀ strategy, settings.strategies[earlier]? = some strategy →
      ∃ made, attempt settings call judgement earlier strategy = .ok made

theorem filledInTurn_attempts_ne_nil (call : SnapshotCall) (judgement : Judgement) :
    filledInTurn (attempts settings call judgement 0 settings.strategies) ≠ [] ↔
      SomePasses settings call judgement := by
  rw [filledInTurn_ne_nil]
  unfold SomePasses
  constructor
  · rintro ⟨place, ⟨position, located⟩, returned⟩
    obtain ⟨strategy, listed, made⟩ := getElem?_attempts.mp located
    refine ⟨place, ⟨strategy, listed, (attempt_some ..).mp ⟨position, made⟩⟩, ?_⟩
    intro earlier before other otherListed
    obtain ⟨result, resulted⟩ := returned earlier before
    obtain ⟨same, sameListed, returns⟩ := getElem?_attempts.mp resulted
    cases otherListed.symm.trans sameListed
    exact ⟨result, returns⟩
  · rintro ⟨place, ⟨strategy, listed, passes⟩, returned⟩
    obtain ⟨position, made⟩ := (attempt_some ..).mpr passes
    refine ⟨place, ⟨position, getElem?_attempts.mpr ⟨strategy, listed, made⟩⟩, ?_⟩
    intro earlier before
    have within : place < settings.strategies.length := (List.getElem?_eq_some_iff.mp listed).1
    obtain ⟨other, otherListed⟩ : ∃ other, settings.strategies[earlier]? = some other :=
      ⟨_, List.getElem?_eq_getElem (before.trans within)⟩
    obtain ⟨result, returns⟩ := returned earlier before other otherListed
    exact ⟨result, getElem?_attempts.mpr ⟨other, otherListed, returns⟩⟩

/-- A call opens something exactly when it asks its strategies and the signal of
one of them passes. -/
theorem passing_ne_nil (pipeline : IntradayShadowPipeline) (call : SnapshotCall) :
    passing settings pipeline call ≠ [] ↔
      ∃ judgement, Reaches settings pipeline call judgement ∧
        SomePasses settings call judgement := by
  constructor
  · intro opens
    unfold passing at opens
    split at opens
    · exact absurd rfl opens
    · next quality checked =>
      by_cases away : call.turnedAway settings pipeline quality
      · rw [if_pos away] at opens
        exact absurd rfl opens
      · rw [if_neg away] at opens
        split at opens
        · next review reviewed =>
          cases blocks : review.block with
          | true =>
            rw [if_pos blocks] at opens
            exact absurd rfl opens
          | false =>
            rw [if_neg (by simp [blocks])] at opens
            exact ⟨call.judgement settings pipeline quality,
              ⟨checked, rfl, away, review, reviewed, blocks⟩,
              (filledInTurn_attempts_ne_nil settings call _).mp opens⟩
        · exact absurd rfl opens
  · rintro ⟨judgement, reaches, passes⟩
    obtain ⟨review, reviewed, unblocked⟩ := reaches.reviewed
    unfold passing
    rw [reaches.checked]
    dsimp only
    rw [if_neg reaches.admitted, reviewed]
    dsimp only
    rw [if_neg (by simp [unblocked]), ← reaches.judged]
    exact (filledInTurn_attempts_ne_nil settings call judgement).mpr passes

/-- The snapshot is of the market's cutoff time or a later time of its day. -/
def AfterCutoff (snapshot : MarketDataSnapshot) : Prop :=
  ∃ cutoff, parseTime settings.config.noNewTradeAfter = .ok cutoff ∧
    cutoff ≤ zones.localTime snapshot.market snapshot.timestamp.instant

/-- A call on a snapshot after the cutoff opens nothing. -/
def OpensNothingLate (pipeline : IntradayShadowPipeline) (call : PipelineCall) : Prop :=
  ∀ snapshot, call = .process snapshot → AfterCutoff settings zones snapshot.snapshot →
    newPositions settings pipeline snapshot = []

/-- In a call on a snapshot after the cutoff, the checks stop every signal of
the strategies which it asks. -/
def StopsLateSignals (pipeline : IntradayShadowPipeline) (call : PipelineCall) : Prop :=
  ∀ snapshot, call = .process snapshot → AfterCutoff settings zones snapshot.snapshot →
    ∀ judgement, Reaches settings pipeline snapshot judgement →
      ¬SomePasses settings snapshot judgement

theorem opensNothingLate_call (pipeline : IntradayShadowPipeline) (call : PipelineCall) :
    OpensNothingLate settings zones pipeline call ↔
      StopsLateSignals settings zones pipeline call := by
  unfold OpensNothingLate StopsLateSignals
  refine forall_congr' fun snapshot => forall_congr' fun _ => forall_congr' fun _ => ?_
  rw [newPositions_eq, ← not_ne_iff, passing_ne_nil]
  push Not
  rfl

/-- Over any run, nothing is opened after the cutoff exactly when other checks
stop every signal which comes after it. -/
theorem opensNothingLate_iff (calls : List PipelineCall) :
    AtEachCall (IntradayShadowPipeline.call settings) (OpensNothingLate settings zones) {} calls ↔
      AtEachCall (IntradayShadowPipeline.call settings) (StopsLateSignals settings zones) {}
        calls :=
  atEachCall_congr fun pipeline call => opensNothingLate_call settings zones pipeline call

/-- A snapshot of 15:00 in India, the default cutoff, opens positions. -/
theorem opensNothingLate_broken :
    ¬AtEachCall (IntradayShadowPipeline.call defaultSettings)
      (OpensNothingLate defaultSettings .summer) {} [.process relianceCall] := by
  rintro ⟨opensNothing, -⟩
  have late : AfterCutoff defaultSettings .summer relianceCall.snapshot :=
    ⟨timeOfDay 15 0, by decide, by decide⟩
  exact absurd (opensNothing relianceCall rfl late) (by decide +kernel)

end Cutoff
end AlphaAgent.Intraday
