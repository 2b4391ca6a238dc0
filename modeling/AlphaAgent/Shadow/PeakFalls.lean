import AlphaAgent.Shadow.RescaledBook

/-!
# A giveback and the price

The exit policy compares the PnL of a mark with the peak of the PnL of earlier
marks. Both are amounts of rupees, but the size and the rate of an observation
are found anew at each mark, while a sample keeps those of its own. So a mark at
the highest price so far can pass for a fall from the peak: `Misread` says when,
and over a run of cycles and rescales there is no other way to it.
-/

namespace AlphaAgent.Shadow

open Foundation ProfitProtection

/-- What was closed for a giveback was marked at a higher price before. -/
def FallsFromPeak (tables : Database) : Prop :=
  ∀ row ∈ tables.observations, row.status = .closed .profitGiveback →
    ∃ sample ∈ tables.samplesOf row.id,
      sample.sampleKind = .intradayMark ∧ row.currentPrice < sample.currentPrice

instance : DecidablePred FallsFromPeak := fun tables =>
  inferInstanceAs (Decidable (∀ row ∈ tables.observations, _ → _))

section Decision

/-- The decision is not to close for a giveback. -/
def KeepsGain (decision : ShadowExitDecision) : Prop :=
  decision.action ≠ .exitProfitGiveback

theorem KeepsGain.ite {condition : Prop} [Decidable condition]
    {first second : ShadowExitDecision} (left : KeepsGain first) (right : KeepsGain second) :
    KeepsGain (if condition then first else second) := by
  split
  · exact left
  · exact right

/-- The exit service knows of no giveback. -/
theorem evaluateObservation_keepsGain (settings : ShadowSettings)
    (observation : ShadowObservation) : KeepsGain (evaluateObservation settings observation) := by
  have decided : ∀ {action : ExitAction} (progressToTarget progressToStop : Option ℚ),
      action ≠ .exitProfitGiveback →
        KeepsGain { action, progressToTarget, progressToStop } :=
    fun _ _ other => other
  rw [evaluateObservation]
  refine .ite (decided _ _ (by decide)) (.ite (decided _ _ (by decide)) ?_)
  split
  · -- One branch for each check of the levels, of the PnL and of the price.
    repeat refine .ite (decided _ _ (by decide)) ?_
    exact decided _ _ (by decide)
  · exact decided _ _ (by decide)

variable {cycle : Cycle} {samples : List ShadowTrainingSample} {observation : ShadowObservation}

/-- A giveback is decided where the exit service closes nothing and the path gives back. -/
theorem exitDecision_giveback_iff
    (start : ∀ only, byTime (samples.filter (SampleFilter.ofObservation observation.id).selects) =
      [only] → only.hypotheticalPnlInr = 0) :
    (exitDecision cycle samples observation).action = .exitProfitGiveback ↔
      (evaluateObservation cycle.exitSettings observation).action ∉ closeActions ∧
        PathGivesBack cycle.settings observation.hypotheticalPnlInr
          (byTime (samples.filter (SampleFilter.ofObservation observation.id).selects)) := by
  have along : (profitPathExitDecision cycle.settings observation _).map
      ShadowExitDecision.action = _ := profitPathExitDecision_action start
  have service : (evaluateObservation cycle.exitSettings observation).action ≠
      .exitProfitGiveback := evaluateObservation_keepsGain cycle.exitSettings observation
  rw [exitDecision]
  by_cases closes : (evaluateObservation cycle.exitSettings observation).action ∈ closeActions
  · rw [if_pos closes]
    exact iff_of_false service fun both => both.1 closes
  · rw [if_neg closes]
    change ((profitPathExitDecision cycle.settings observation (byTime _)).getD _).action = _ ↔ _
    by_cases givesBack : PathGivesBack cycle.settings observation.hypotheticalPnlInr
        (byTime (samples.filter (SampleFilter.ofObservation observation.id).selects))
    · rw [if_pos givesBack, Option.map_eq_some_iff] at along
      obtain ⟨decision, decided, action⟩ := along
      rw [decided, Option.getD_some]
      exact iff_of_true action ⟨closes, givesBack⟩
    · rw [if_neg givesBack, Option.map_eq_none_iff] at along
      rw [along, Option.getD_none]
      exact iff_of_false service fun both => givesBack both.2

theorem closedStatus_eq_giveback (action : ExitAction) :
    closedStatus action = .profitGiveback ↔ action = .exitProfitGiveback := by
  cases action <;> decide

/-- A turn closes its observation for a giveback where the policy decides on one. -/
theorem recordedRow_giveback_iff {turn : Turn} {assessment : Assessment}
    (isOpen : observation.isOpen = true) :
    (recordedRow cycle samples observation turn assessment).status = .closed .profitGiveback ↔
      cycle.settings.intradayShadowExitEnabled = true ∧
        (exitDecision cycle samples observation).action = .exitProfitGiveback := by
  rw [recordedRow, recordExit]
  by_cases exits : Exits cycle samples observation
  · have status : (Exit.closed cycle (turnExit turn assessment observation
        (exitDecision cycle samples observation))).status =
          .closed (closedStatus (exitDecision cycle samples observation).action) := rfl
    rw [if_pos exits, Option.elim_some, status, ObservationStatus.closed.injEq,
      closedStatus_eq_giveback]
    exact (and_iff_right exits.1).symm
  · rw [if_neg exits, Option.elim_none]
    have opened : observation.status = .openObservation := of_decide_eq_true isOpen
    rw [opened]
    refine iff_of_false ObservationStatus.noConfusion ?_
    rintro ⟨enabled, action⟩
    exact exits ⟨enabled, isOpen, by rw [action]; decide⟩

end Decision

section Misreading

/-- The observation as a turn marks it at a price. -/
def markedRow (cycle : Cycle) (turn : Turn) (lastPrice : ℚ) (assessment : Assessment)
    (row : ShadowObservation) : ShadowObservation :=
  row.assigned (.mark (markOf cycle turn.fxRate turn.round lastPrice assessment row))

/-- Rupees for a unit of the price, at the size and the rate which a mark finds. -/
def markScale (cycle : Cycle) (fxRate : ℚ) (row : ShadowObservation) : ℚ :=
  (shadowSize cycle.settings row.entryPrice fxRate).1 * fxRate

/-- The gain of a lockable peak, at its own size and rate, is given back by the
gain of a mark at the size and the rate of the mark. -/
def GainShrinks (cycle : Cycle) (fxRate lastPrice : ℚ) (row : ShadowObservation)
    (peak : ShadowTrainingSample) : Prop :=
  canLockProfit cycle.settings peak = true ∧ 0 < peak.gain row.entryPrice ∧
    cycle.settings.intradayProfitGivebackExitPct * peak.gain row.entryPrice ≤
      max (peak.gain row.entryPrice - (lastPrice - row.entryPrice) * markScale cycle fxRate row) 0

/-- The mark of an open observation at the highest price so far, at which no exit
of the exit service is due, but where the size and the rate are by so much smaller
than those of the peak that its gain shrinks. -/
structure Misread (cycle : Cycle) (turn : Turn) (lastPrice : ℚ) (assessment : Assessment)
    (path : List ShadowTrainingSample) (row : ShadowObservation) : Prop where
  enabled : cycle.settings.intradayShadowExitEnabled = true
  quiet : (evaluateObservation cycle.exitSettings
    (markedRow cycle turn lastPrice assessment row)).action ∉ closeActions
  highest : ∀ sample ∈ path, sample.currentPrice ≤ lastPrice
  shrunk : ∃ peak ∈ peakOf (byTime path), GainShrinks cycle turn.fxRate lastPrice row peak

variable {cycle : Cycle} {turn : Turn} {lastPrice : ℚ} {assessment : Assessment}
  {path : List ShadowTrainingSample} {row : ShadowObservation}

theorem peakOf_mem {peak : ShadowTrainingSample} (isPeak : peak ∈ peakOf (byTime path)) :
    peak ∈ path := by
  have sorted : (byTime path).Perm path := List.perm_insertionSort _ path
  cases ordered : byTime path with
  | nil =>
    rw [ordered] at isPeak
    cases isPeak
  | cons first rest =>
    rw [ordered] at isPeak
    obtain rfl : peakSample first rest = peak := Option.some.inj isPeak
    rw [← sorted.mem_iff, ordered]
    exact peakSample_mem first rest

/-- The exit policy closes the mark of an observation for a giveback of its path. -/
def ClosesOnGiveback (cycle : Cycle) (turn : Turn) (lastPrice : ℚ) (assessment : Assessment)
    (path : List ShadowTrainingSample) (row : ShadowObservation) : Prop :=
  cycle.settings.intradayShadowExitEnabled = true ∧
    (evaluateObservation cycle.exitSettings
      (markedRow cycle turn lastPrice assessment row)).action ∉ closeActions ∧
    PathGivesBack cycle.settings (markedRow cycle turn lastPrice assessment row).hypotheticalPnlInr
      (byTime path)

/-- The gain of the mark is its PnL, so what shrinks is what the path gives back. -/
theorem misread_iff (inUnits : InUnits row.entryPrice path) :
    Misread cycle turn lastPrice assessment path row ↔
      ClosesOnGiveback cycle turn lastPrice assessment path row ∧
        ∀ sample ∈ path, sample.currentPrice ≤ lastPrice := by
  have pnl : (markedRow cycle turn lastPrice assessment row).hypotheticalPnlInr =
      (lastPrice - row.entryPrice) * markScale cycle turn.fxRate row := mul_assoc _ _ _
  have gives : ∀ peak ∈ path, GivesBack cycle.settings
      ((lastPrice - row.entryPrice) * markScale cycle turn.fxRate row) peak ↔
        GainShrinks cycle turn.fxRate lastPrice row peak := by
    intro peak member
    rw [GivesBack, GainShrinks, inUnits.gains peak member]
    refine and_congr_right fun _ => and_congr_right fun positive => ?_
    exact le_div_iff₀ positive
  rw [ClosesOnGiveback, pnl]
  constructor
  · rintro ⟨enabled, quiet, highest, peak, isPeak, shrunk⟩
    exact ⟨⟨enabled, quiet, peak, isPeak, (gives peak (peakOf_mem isPeak)).mpr shrunk⟩, highest⟩
  · rintro ⟨⟨enabled, quiet, peak, isPeak, givesBack⟩, highest⟩
    exact ⟨enabled, quiet, highest, peak, isPeak, (gives peak (peakOf_mem isPeak)).mp givesBack⟩

/-- A gain at a higher price which is only a share of another one is the gain of
a scale which is only that share of the other one. -/
theorem scale_le_of_gain_le {entry price peakPrice scale peakScale share : ℚ}
    (sized : 0 ≤ peakScale) (gains : 0 < (peakPrice - entry) * peakScale)
    (rises : peakPrice ≤ price) (part : 0 ≤ share)
    (less : (price - entry) * scale ≤ share * ((peakPrice - entry) * peakScale)) :
    scale ≤ share * peakScale := by
  have ahead : 0 < peakPrice - entry := pos_of_mul_pos_left gains sized
  have further : peakPrice - entry ≤ price - entry := sub_le_sub_right rises entry
  have above : 0 < price - entry := ahead.trans_le further
  refine le_of_mul_le_mul_left ?_ above
  calc (price - entry) * scale
      ≤ share * ((peakPrice - entry) * peakScale) := less
    _ = (peakPrice - entry) * (share * peakScale) := mul_left_comm _ _ _
    _ ≤ (price - entry) * (share * peakScale) :=
      mul_le_mul_of_nonneg_right further (mul_nonneg part sized)

/-- Where a giveback takes a loss of gain, a mark is misread only if its size and
its rate have shrunk by the share of the giveback since the mark at the peak. -/
theorem Misread.shrinks (misread : Misread cycle turn lastPrice assessment path row)
    (threshold : 0 < cycle.settings.intradayProfitGivebackExitPct)
    (share : cycle.settings.intradayProfitGivebackExitPct ≤ 1)
    (sized : ∀ sample ∈ path, 0 ≤ sample.scale) :
    ∃ peak ∈ path, markScale cycle turn.fxRate row ≤
      (1 - cycle.settings.intradayProfitGivebackExitPct) * peak.scale := by
  obtain ⟨peak, isPeak, -, gains, falls⟩ := misread.shrunk
  have member := peakOf_mem isPeak
  refine ⟨peak, member, scale_le_of_gain_le (sized peak member) gains
    (misread.highest peak member) (sub_nonneg.mpr share) ?_⟩
  rw [← ShadowTrainingSample.gain]
  rcases le_max_iff.mp falls with lost | nothing
  · rw [one_sub_mul]
    exact le_sub_comm.mp lost
  · exact absurd nothing (not_le.mpr (mul_pos threshold gains))

/-- The turn marks the open observation of its symbol, and records the mark. -/
structure MarkTaken (cycle : Cycle) (turn : Turn) (before after : Database) (lastPrice : ℚ)
    (assessment : Assessment) (row : ShadowObservation) : Prop where
  quoted : turn.round.quote = .ok (some lastPrice, assessment)
  positive : 0 < lastPrice
  member : row ∈ before.observations
  isOpen : row.isOpen = true
  market : row.market = turn.market
  symbol : row.symbol = turn.round.symbol
  rows : after.observations = replaced before.observations (recordedRow cycle before.samples
    (markedRow cycle turn lastPrice assessment row) turn assessment)
  samples : after.samples = before.samples ++ recordedSamples cycle before.samples
    (markedRow cycle turn lastPrice assessment row) turn assessment

/-- The turn misreads a mark which it takes. -/
def MisreadTurn (cycle : Cycle) (turn : Turn) (before after : Database) : Prop :=
  ∃ lastPrice assessment row, MarkTaken cycle turn before after lastPrice assessment row ∧
    Misread cycle turn lastPrice assessment (before.samplesOf row.id) row

/-- Turns of which one misreads a mark. -/
inductive MisreadTurns (cycle : Cycle) : List Turn → Database → Database → Prop
  | here {turn : Turn} {rest : List Turn} {before between after : Database}
      (step : TurnStep cycle turn before between) (misread : MisreadTurn cycle turn before between)
      (steps : Turns cycle rest between after) : MisreadTurns cycle (turn :: rest) before after
  | later {turn : Turn} {rest : List Turn} {before between after : Database}
      (step : TurnStep cycle turn before between) (steps : MisreadTurns cycle rest between after) :
      MisreadTurns cycle (turn :: rest) before after

/-- A mark is misread in the step: the turns of its cycle lead to what it commits
by a turn which misreads one. A rescale takes no marks. -/
def Database.Misreads (tables : Database) : BookStep → Prop
  | .cycle call =>
    MisreadTurns call.cycle call.cycle.turns (tables.opening call.cycle) (tables.afterCycle call)
  | .rescale _ => False

end Misreading

section Steps

variable {cycle : Cycle} {turn : Turn} {before between after : Database}

/-- A turn leaves a closed observation and its samples as they are. -/
theorem TurnEffect.closed_row (effect : TurnEffect cycle turn before after)
    (lifecycle : Lifecycle before) {row : ShadowObservation} (member : row ∈ before.observations)
    (isClosed : row.isOpen = false) :
    row ∈ after.observations ∧ after.samplesOf row.id = before.samplesOf row.id := by
  cases effect with
  | kept rows samples =>
    rw [rows, Database.samplesOf, samples, Database.samplesOf]
    exact ⟨member, rfl⟩
  | opened quoted positive absent unblocked new fresh rows samples =>
    rw [rows]
    refine ⟨List.mem_append_left _ member, samplesOf_others samples fun sample recorded same => ?_⟩
    rw [← owner_of_recordedSamples _ _ _ _ _ recorded, same] at fresh
    exact fresh (List.mem_map_of_mem member)
  | @marked lastPrice assessment earlier observation quoted positive held isOpen market symbol new
      rows samples =>
    have own : observation.id = earlier.id := by
      rw [new, assigned_id]
    have apart : row.id ≠ earlier.id := by
      intro same
      rw [lifecycle.eq_of_id member held same, isOpen] at isClosed
      cases isClosed
    constructor
    · rw [rows]
      have kept := List.mem_map_of_mem (f := fun row =>
        if row.id = (recordedRow cycle before.samples observation turn assessment).id then
          recordedRow cycle before.samples observation turn assessment
        else row) member
      rwa [if_neg (by rw [recordedRow_id, own]; exact apart)] at kept
    · refine samplesOf_others samples fun sample recorded same => apart ?_
      rw [← same, owner_of_recordedSamples _ _ _ _ _ recorded, own]

@[simp] theorem recordedRow_currentPrice (samples : List ShadowTrainingSample)
    (observation : ShadowObservation) (assessment : Assessment) :
    (recordedRow cycle samples observation turn assessment).currentPrice =
      observation.currentPrice := by
  rw [recordedRow, recordExit]
  split
  · rfl
  · rfl

/-- A turn closes what it marks for a giveback where the path gives back from its PnL. -/
theorem recordedRow_marked_iff {lastPrice : ℚ} {assessment : Assessment} {row : ShadowObservation}
    (inUnits : InUnits row.entryPrice (before.samplesOf row.id)) (isOpen : row.isOpen = true) :
    (recordedRow cycle before.samples (markedRow cycle turn lastPrice assessment row) turn
        assessment).status = .closed .profitGiveback ↔
      ClosesOnGiveback cycle turn lastPrice assessment (before.samplesOf row.id) row := by
  have stillOpen : (markedRow cycle turn lastPrice assessment row).isOpen = true := isOpen
  rw [recordedRow_giveback_iff stillOpen, exitDecision_giveback_iff]
  · rfl
  · -- With one sample only, it is the one without a gain.
    intro only alone
    obtain ⟨start, started, none⟩ := inUnits.entry
    have ordered : start ∈ byTime (before.samplesOf row.id) :=
      (List.perm_insertionSort _ _).mem_iff.mpr started
    rw [show byTime (before.samplesOf row.id) = [only] from alone] at ordered
    rw [← List.mem_singleton.mp ordered]
    exact none

/-- A turn which opens an observation does not close it for a giveback: there is no
path yet to give back from. -/
theorem recordedRow_opened_ne {assessment : Assessment} {observation : ShadowObservation}
    (lifecycle : Lifecycle before)
    (fresh : observation.id ∉ before.observations.map ShadowObservation.id)
    (isOpen : observation.isOpen = true) :
    (recordedRow cycle before.samples observation turn assessment).status ≠
      .closed .profitGiveback := by
  have own : byTime (before.samples.filter
      (SampleFilter.ofObservation observation.id).selects) = [] :=
    congrArg byTime (samplesOf_fresh lifecycle fresh)
  intro closed
  rw [recordedRow_giveback_iff isOpen, exitDecision_giveback_iff, own] at closed
  · obtain ⟨-, -, peak, isPeak, -⟩ := closed
    cases isPeak
  · intro only alone
    rw [own] at alone
    cases alone

/-- What was closed before has its higher mark still. -/
theorem FallsFromPeak.grown (falls : FallsFromPeak before) {added : List ShadowTrainingSample}
    (samples : after.samples = before.samples ++ added) {row : ShadowObservation}
    (member : row ∈ before.observations) (closed : row.status = .closed .profitGiveback) :
    ∃ sample ∈ after.samplesOf row.id,
      sample.sampleKind = .intradayMark ∧ row.currentPrice < sample.currentPrice := by
  obtain ⟨sample, own, higher⟩ := falls row member closed
  refine ⟨sample, ?_, higher⟩
  rw [Database.samplesOf, samples, List.filter_append]
  exact List.mem_append_left _ own

/-- A turn which misreads no mark closes for a giveback only below an earlier mark. -/
theorem TurnEffect.fallsFromPeak (effect : TurnEffect cycle turn before after)
    (lifecycle : Lifecycle before) (inUnits : MarkedInUnits before) (falls : FallsFromPeak before)
    (faithful : ¬MisreadTurn cycle turn before after) : FallsFromPeak after := by
  intro row member closed
  cases effect with
  | kept rows samples =>
    rw [rows] at member
    exact falls.grown (samples.trans (List.append_nil _).symm) member closed
  | @opened lastPrice assessment observation quoted positive absent unblocked new fresh rows
      samples =>
    rw [rows] at member
    rcases List.mem_append.mp member with old | last
    · exact falls.grown samples old closed
    · have isOpen : observation.isOpen = true := by
        rw [new]
        rfl
      rw [List.mem_singleton.mp last] at closed
      exact absurd closed (recordedRow_opened_ne lifecycle fresh isOpen)
  | @marked lastPrice assessment earlier observation quoted positive held isOpen market symbol new
      rows samples =>
    have replacing := member
    rw [rows] at replacing
    rcases mem_replaced replacing with rfl | ⟨old, -⟩
    · subst new
      have units := inUnits earlier held isOpen
      by_contra none
      refine faithful ⟨lastPrice, assessment, earlier,
        ⟨quoted, positive, held, isOpen, market, symbol, rows, samples⟩,
        (misread_iff units).mpr ⟨(recordedRow_marked_iff units isOpen).mp closed, ?_⟩⟩
      intro sample own
      by_contra higher
      refine none ⟨sample, ?_, units.marks sample own, ?_⟩
      · rw [recordedRow_id, samplesOf_recorded samples, assigned_id]
        exact List.mem_append_left _ own
      · rw [recordedRow_currentPrice]
        exact not_le.mp higher
    · exact falls.grown samples old closed

/-- An observation closed for a giveback at the highest of its marks. -/
structure ClosedAtHighest (tables : Database) (row : ShadowObservation) : Prop where
  member : row ∈ tables.observations
  status : row.status = .closed .profitGiveback
  highest : ∀ sample ∈ tables.samplesOf row.id, sample.currentPrice ≤ row.currentPrice

theorem ClosedAtHighest.not_fallsFromPeak {row : ShadowObservation}
    (closed : ClosedAtHighest after row) : ¬FallsFromPeak after := by
  intro falls
  obtain ⟨sample, own, -, higher⟩ := falls row closed.member closed.status
  exact absurd (closed.highest sample own) (not_le.mpr higher)

/-- A turn which misreads a mark closes an observation at the highest of its marks. -/
theorem MisreadTurn.closes (misread : MisreadTurn cycle turn before after)
    (inUnits : MarkedInUnits before) : ∃ row, ClosedAtHighest after row := by
  obtain ⟨lastPrice, assessment, row, taken, misreads⟩ := misread
  have units := inUnits row taken.member taken.isOpen
  obtain ⟨givesBack, highest⟩ := (misread_iff units).mp misreads
  refine ⟨_, ?_, (recordedRow_marked_iff units taken.isOpen).mpr givesBack, ?_⟩
  · rw [taken.rows]
    exact mem_of_replaced taken.member (by rw [recordedRow_id, markedRow, assigned_id])
  · rw [recordedRow_id, samplesOf_recorded taken.samples, recordedRow_currentPrice]
    intro sample own
    rcases List.mem_append.mp own with old | new
    · exact highest sample old
    · rcases mem_recordedSamples _ _ _ _ _ new with rfl | ⟨-, rfl⟩
      · exact le_rfl
      · exact le_rfl

theorem Turns.fallsFromPeak {turns : List Turn} (steps : Turns cycle turns before after)
    (lifecycle : Lifecycle before) (inUnits : MarkedInUnits before) (falls : FallsFromPeak before)
    (faithful : ¬MisreadTurns cycle turns before after) : FallsFromPeak after := by
  induction steps with
  | nil => exact falls
  | cons step steps ih =>
    have effect := step.effect lifecycle.distinct
    apply ih (lifecycle.turnStep step).1 (effect.markedInUnits lifecycle inUnits)
    · exact effect.fallsFromPeak lifecycle inUnits falls
        fun misread => faithful (.here step misread steps)
    · exact fun misread => faithful (.later step misread)

/-- Once misread, an observation stays closed at the highest of its marks. -/
theorem MisreadTurns.closes {turns : List Turn} (misread : MisreadTurns cycle turns before after)
    (lifecycle : Lifecycle before) (inUnits : MarkedInUnits before) :
    ∃ row, ClosedAtHighest after row := by
  induction misread with
  | @here turn rest before between after step misread steps =>
    obtain ⟨row, closed⟩ := misread.closes inUnits
    refine ⟨row, steps.keeps (ClosedAtHighest · row) ?_ (lifecycle.turnStep step).1 closed⟩
    intro next _ before after sound closed effect
    have isClosed : row.isOpen = false := by
      simp [ShadowObservation.isOpen, closed.status]
    obtain ⟨stays, own⟩ := effect.closed_row sound closed.member isClosed
    exact ⟨stays, closed.status, own ▸ closed.highest⟩
  | later step _ ih =>
    exact ih (lifecycle.turnStep step).1
      ((step.effect lifecycle.distinct).markedInUnits lifecycle inUnits)

theorem FallsFromPeak.opening (falls : FallsFromPeak before) (lifecycle : Lifecycle before) :
    FallsFromPeak (before.opening cycle) := by
  intro row member closed
  rcases opening_row lifecycle member with ⟨old, own⟩ | session
  · rw [own]
    exact falls row old closed
  · rw [session] at closed
    cases closed

end Steps

section Runs

/-- The tables of a run: they keep the lifecycle, and marks are in their own units. -/
structure Book (tables : Database) : Prop where
  lifecycle : Lifecycle tables
  inUnits : MarkedInUnits tables

theorem Book.empty : Book {} where
  lifecycle := .empty
  inUnits := by
    intro row member
    cases member

theorem Book.afterStep {tables : Database} (book : Book tables) (step : BookStep) :
    Book (tables.afterStep step) :=
  ⟨book.lifecycle.afterStep step, book.inUnits.afterStep book.lifecycle step⟩

/-- A step keeps givebacks below an earlier mark exactly where it misreads none. -/
theorem Book.keeps_iff {tables : Database} (book : Book tables) (step : BookStep)
    (falls : FallsFromPeak tables) :
    FallsFromPeak (tables.afterStep step) ↔ ¬tables.Misreads step := by
  cases step with
  | cycle call =>
    have started := (book.lifecycle.opening call.cycle).1
    have marked : MarkedInUnits (tables.opening call.cycle) :=
      book.inUnits.opening book.lifecycle
    constructor
    · intro still misread
      obtain ⟨row, closed⟩ := misread.closes started marked
      exact closed.not_fallsFromPeak still
    · intro faithful
      rcases afterCycle_cases call book.lifecycle.distinct with steps | same
      · exact steps.fallsFromPeak started marked (falls.opening book.lifecycle) faithful
      · rw [Database.afterStep, same]
        exact falls
  | rescale settings =>
    refine iff_of_true ?_ id
    intro row member closed
    rcases mem_rescaleShadowBook member with ⟨earlier, held, wasOpen, rfl⟩ | ⟨old, -⟩
    · have isOpen : earlier.status = .openObservation := of_decide_eq_true wasOpen
      exact absurd (isOpen.symm.trans closed) ObservationStatus.noConfusion
    · exact falls row old closed

/-- Over a run of cycles and rescales on empty tables, observations are closed for
a giveback only below one of their marks, in every state, if and only if no mark
of the run is misread. -/
theorem fallsFromPeak_iff (steps : List BookStep) :
    Throughout Database.afterStep FallsFromPeak {} steps ↔
      AtEachCall Database.afterStep (fun tables step => ¬tables.Misreads step) {} steps := by
  have initially : FallsFromPeak {} := by
    intro row member
    cases member
  have kept : ∀ tables step, Book tables → Book (Database.afterStep tables step) :=
    fun _ step book => book.afterStep step
  exact throughout_iff_of_invariant kept (fun _ step book => book.keeps_iff step)
    .empty initially

/-- A cycle which quotes one symbol in dollars. -/
def dollarCall (startedAt : ℤ) (usdInr lastPrice : ℚ) (assessment : Assessment)
    (observationId : String) : CycleCall where
  cycle :=
    { days := summerDays
      startedAt
      indiaOpen := false
      usOpen := true
      usdInr := .ok ⟨some usdInr, true⟩
      usRounds :=
        [{ symbol := "MSFT"
           quote := .ok (some lastPrice, assessment)
           signalId := "signal"
           observationId
           newsBlocks := .ok false
           recordedAt := startedAt + 1
           sampledAt := startedAt + 2
           exitedAt := startedAt + 3 }] }

/-- At 300 dollars and 83 rupees the budget buys two shares; at 84 rupees it buys
one, and the price has only risen. -/
def weakerRupeeRun : List BookStep :=
  [.cycle (dollarCall 1778682600000000 83 300 ⟨.buy, some 290, some 330⟩ "first"),
    .cycle (dollarCall 1778682660000000 83 310 ⟨.hold, some 300, some 340⟩ "second"),
    .cycle (dollarCall 1778682720000000 84 311 ⟨.hold, some 301, some 341⟩ "third")]

/-- Settings with half of the default budget. -/
def halvedBudget : ShadowSettings := { shadowHypothesisNotionalInr := 25000 }

/-- The budget is halved and the book rescaled, before a mark at a higher price. -/
def halvedBudgetRun : List BookStep :=
  let last := tcsCall 1778663820000000 103 ⟨.hold, some 98, some 113⟩ "third"
  [.cycle (tcsCall 1778663700000000 100 ⟨.buy, some 95, some 110⟩ "first"),
    .cycle (tcsCall 1778663760000000 102 ⟨.hold, some 97, some 112⟩ "second"),
    .rescale halvedBudget,
    .cycle { last with
      cycle := { last.cycle with settings := halvedBudget, exitSettings := halvedBudget } }]

/-- A weaker rupee and a halved budget each close an observation for a giveback at
the highest of its marks. -/
theorem fallsFromPeak_not_always :
    (¬Throughout Database.afterStep FallsFromPeak {} weakerRupeeRun ∧
      ((weakerRupeeRun.foldl Database.afterStep {}).samples.map fun sample =>
        (sample.currentPrice, sample.hypotheticalQuantity)) =
          [(300, 2), (310, 2), (311, 1), (311, 1)]) ∧
    (¬Throughout Database.afterStep FallsFromPeak {} halvedBudgetRun ∧
      ((halvedBudgetRun.foldl Database.afterStep {}).samples.map fun sample =>
        (sample.currentPrice, sample.hypotheticalQuantity)) =
          [(100, 500), (102, 500), (103, 250), (103, 250)]) := by
  refine ⟨⟨?_, ?_⟩, ?_, ?_⟩
  all_goals decide +kernel

end Runs
end AlphaAgent.Shadow
