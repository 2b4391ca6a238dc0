import AlphaAgent.Shadow.Overnight
import AlphaAgent.Shadow.PathExits

/-!
# The report agrees with the live exits

Over a serial run with one set of settings and a clock that does not go back, the
samples of every observation are a path of marks, of which only the last could
call for an exit: an open observation has no more, an exit on a mark adds the
sample which records it, and so does the close of a session.
-/

namespace AlphaAgent.Shadow

open ProfitProtection

/-- The samples of an observation. -/
def Database.samplesOf (tables : Database) (id : String) : List ShadowTrainingSample :=
  tables.samples.filter (SampleFilter.ofObservation id).selects

section Rows

variable (settings : ShadowSettings) (row : ShadowObservation) (path : List ShadowTrainingSample)
  (mark : ShadowTrainingSample)

/-- The marks of an observation up to now. -/
structure Followed (now : ℤ) : Prop where
  sorted : (path ++ [mark]).Pairwise (·.sampleAt ≤ ·.sampleAt)
  times : ∀ sample ∈ path ++ [mark], sample.sampleAt ≤ now
  lastMarked : row.lastMarkedAt ≤ mark.sampleAt
  entered : ∀ sample ∈ path ++ [mark], sample.entryPrice = row.entryPrice
  start : ∀ first ∈ (path ++ [mark]).head?, first.hypotheticalPnlInr = 0
  inside : ∀ sample ∈ path, 0 < sample.hypotheticalQuantity → ∀ stopLoss takeProfit,
    Levels row stopLoss takeProfit →
      stopLoss < sample.currentPrice ∧ sample.currentPrice < takeProfit
  mirrors : Mirrors row mark
  entry : 0 < row.entryPrice
  sized : 0 < row.hypotheticalQuantity → Sized row

/-- What follows the last mark of an observation among its samples. -/
inductive Ending : List ShadowTrainingSample → Prop
  | stays (isOpen : row.isOpen = true)
      (quiet : (liveDecision settings row path).action ∉ closeActions) : Ending []
  | exited (exit : ShadowExit) {sample : ShadowTrainingSample}
      (closes : exit.action ∈ closeActions)
      (action : (liveDecision settings row path).action = exit.action)
      (recorded : row.metadataJson.shadowExit = some exit)
      (status : row.status = .closed (closedStatus exit.action))
      (mirrors : Mirrors row sample) (entered : sample.entryPrice = row.entryPrice)
      (later : mark.sampleAt ≤ sample.sampleAt) : Ending [sample]
  | sessionClosed {sample : ShadowTrainingSample}
      (quiet : (liveDecision settings row path).action ∉ closeActions)
      (status : row.status = .closed .sessionClose)
      (mirrors : Mirrors row sample) (entered : sample.entryPrice = row.entryPrice)
      (earlier : sample.sampleAt ≤ mark.sampleAt) : Ending [sample]

end Rows

/-- The samples of every observation are its marks, and what follows them. -/
def Tracked (settings : ShadowSettings) (now : ℤ) (tables : Database) : Prop :=
  ∀ row ∈ tables.observations, ∃ path mark ending,
    tables.samplesOf row.id = path ++ mark :: ending ∧ Followed row path mark now ∧
      Ending settings row path mark ending

section Marks

variable {settings : ShadowSettings} {row : ShadowObservation} {path : List ShadowTrainingSample}
  {mark : ShadowTrainingSample} {ending : List ShadowTrainingSample} {now : ℤ}

theorem Followed.mono (followed : Followed row path mark now) {later : ℤ} (inOrder : now ≤ later) :
    Followed row path mark later :=
  { followed with times := fun sample member => (followed.times sample member).trans inOrder }

theorem Tracked.mono {tables : Database} (tracked : Tracked settings now tables) {later : ℤ}
    (inOrder : now ≤ later) : Tracked settings later tables := by
  intro row member
  obtain ⟨path, mark, ending, own, followed, ends⟩ := tracked row member
  exact ⟨path, mark, ending, own, followed.mono inOrder, ends⟩

/-- A close keeps what is followed. -/
theorem Followed.closed (exit : Exit) (followed : Followed exit.observation path mark now)
    (cycle : Cycle) : Followed (exit.closed cycle) path mark now where
  sorted := followed.sorted
  times := followed.times
  lastMarked := followed.lastMarked
  entered := followed.entered
  start := followed.start
  inside sample member positive stopLoss takeProfit levels :=
    followed.inside sample member positive stopLoss takeProfit
      ⟨levels.stop, levels.target, levels.stopPositive, levels.targetPositive⟩
  mirrors := ⟨followed.mirrors.currentPrice, followed.mirrors.quantity, followed.mirrors.pnl,
    followed.mirrors.pct, followed.mirrors.assessment⟩
  entry := followed.entry
  sized positive :=
    have sized := followed.sized positive
    ⟨sized.entered, sized.priced, sized.quantity, sized.notional, sized.pct⟩

theorem Followed.start_path (followed : Followed row path mark now) :
    ∀ first ∈ path.head?, first.hypotheticalPnlInr = 0 := by
  intro first isFirst
  apply followed.start first
  rw [List.head?_append, Option.mem_def.mp isFirst]
  rfl

/-- A last mark which calls for no exit lies within the levels, as the earlier ones do. -/
theorem Followed.inside_of_quiet (followed : Followed row path mark now)
    (quiet : (liveDecision settings row path).action ∉ closeActions) :
    ∀ sample ∈ path ++ [mark], 0 < sample.hypotheticalQuantity → ∀ stopLoss takeProfit,
      Levels row stopLoss takeProfit →
        stopLoss < sample.currentPrice ∧ sample.currentPrice < takeProfit := by
  intro sample member positive stopLoss takeProfit levels
  rcases List.mem_append.mp member with earlier | last
  · exact followed.inside sample earlier positive stopLoss takeProfit levels
  · have mirrors := followed.mirrors
    obtain rfl := List.mem_singleton.mp last
    have sized := followed.sized (mirrors.quantity ▸ positive)
    have closes : closing (liveDecision settings row path).action = _ :=
      closing_liveDecision sized levels followed.start_path
    rw [closing, if_neg quiet] at closes
    obtain ⟨above, below, -⟩ := exitOf_eq_none.mp closes.symm
    rw [mirrors.currentPrice]
    exact ⟨not_le.mp above, not_le.mp below⟩

/-- What is open has its last mark as its last sample. -/
theorem Ending.of_isOpen (ends : Ending settings row path mark ending)
    (isOpen : row.isOpen = true) :
    ending = [] ∧ (liveDecision settings row path).action ∉ closeActions := by
  cases ends with
  | stays _ quiet => exact ⟨rfl, quiet⟩
  | exited _ _ _ _ status => simp [ShadowObservation.isOpen, status] at isOpen
  | sessionClosed _ status => simp [ShadowObservation.isOpen, status] at isOpen

variable {cycle : Cycle} {turn : Turn} {assessment : Assessment} {observation : ShadowObservation}

/-- The exit policy decides on the earlier samples of the observation. -/
theorem exitDecision_eq_liveDecision {samples : List ShadowTrainingSample}
    (shared : cycle.settings = settings ∧ cycle.exitSettings = settings)
    (own : samples.filter (SampleFilter.ofObservation observation.id).selects = path)
    (sorted : path.Pairwise (·.sampleAt ≤ ·.sampleAt)) :
    exitDecision cycle samples observation = liveDecision settings observation path := by
  rw [exitDecision, own, sorted.insertionSort_eq, shared.1, shared.2, liveDecision]

/-- A close changes nothing of what the exit policy reads. -/
theorem liveDecision_closed (exit : Exit) : liveDecision settings (exit.closed cycle) path =
    liveDecision settings exit.observation path := rfl

/-- A turn ends the samples of its observation as its exit policy decides. -/
theorem recorded_ending {samples : List ShadowTrainingSample}
    (shared : cycle.settings = settings ∧ cycle.exitSettings = settings)
    (enabled : settings.intradayShadowExitEnabled = true) (isOpen : observation.isOpen = true)
    (own : samples.filter (SampleFilter.ofObservation observation.id).selects = path)
    (sorted : path.Pairwise (·.sampleAt ≤ ·.sampleAt))
    (ended : turn.round.sampledAt ≤ turn.round.exitedAt) :
    Ending settings (recordedRow cycle samples observation turn assessment) path
      (markSample turn assessment observation)
      ((recordExit cycle samples observation turn assessment).map Exit.sample).toList := by
  have decided : exitDecision cycle samples observation = liveDecision settings observation path :=
    exitDecision_eq_liveDecision shared own sorted
  rw [recordedRow, recordExit]
  by_cases exits : Exits cycle samples observation
  · let exit := turnExit turn assessment observation (exitDecision cycle samples observation)
    have action : (liveDecision settings (exit.closed cycle) path).action = exit.record.action := by
      rw [liveDecision_closed]
      exact congrArg ShadowExitDecision.action decided.symm
    rw [if_pos exits]
    exact .exited exit.record exits.2.2 action rfl rfl ⟨rfl, rfl, rfl, rfl, rfl⟩ rfl ended
  · rw [if_neg exits]
    refine .stays isOpen fun closes => exits ⟨?_, isOpen, ?_⟩
    · rw [shared.1]
      exact enabled
    · rw [decided]
      exact closes

theorem Followed.recorded (samples : List ShadowTrainingSample)
    (followed : Followed observation path mark now) :
    Followed (recordedRow cycle samples observation turn assessment) path mark now := by
  rw [recordedRow, recordExit]
  split
  · exact Followed.closed (turnExit turn assessment observation _) followed cycle
  · exact followed

/-- A size which is positive costs something. -/
theorem shadowSize_notional {entryPrice fxRate : ℚ}
    (positive : 0 < (shadowSize settings entryPrice fxRate).1) :
    0 < (shadowSize settings entryPrice fxRate).2 := by
  have shares : (0 : ℚ) < (shadowSize settings entryPrice fxRate).1 := by exact_mod_cast positive
  have priced : 0 < entryPrice * fxRate := by
    by_contra free
    rw [shadowSize, if_neg free] at positive
    exact lt_irrefl 0 positive
  have costs := mul_pos shares priced
  rwa [← mul_assoc] at costs

/-- What is opened is followed by its first mark. -/
theorem followed_opened {lastPrice : ℚ} (positive : 0 < lastPrice)
    (started : turn.round.recordedAt ≤ turn.round.sampledAt)
    (ended : turn.round.sampledAt ≤ turn.round.exitedAt) :
    let observation := newObservation cycle turn.market turn.fxRate turn.round lastPrice assessment
    Followed observation [] (markSample turn assessment observation) turn.round.exitedAt where
  sorted := List.pairwise_singleton _ _
  times := by
    intro sample member
    rw [List.mem_singleton.mp member]
    exact ended
  lastMarked := started
  entered := by
    intro sample member
    rw [List.mem_singleton.mp member]
    rfl
  start := by
    intro first isFirst
    obtain rfl := Option.some.inj isFirst
    rfl
  inside := by
    intro sample member
    cases member
  mirrors := ⟨rfl, rfl, rfl, rfl, rfl⟩
  entry := positive
  sized := by
    intro shares
    refine ⟨positive, positive, shares, shadowSize_notional shares, ?_⟩
    exact (zero_div _).symm

/-- A mark of what is open continues its path. -/
theorem Followed.marked (followed : Followed row path mark now)
    (quiet : (liveDecision settings row path).action ∉ closeActions) {lastPrice : ℚ}
    (positive : 0 < lastPrice) (arrived : now ≤ turn.round.recordedAt)
    (started : turn.round.recordedAt ≤ turn.round.sampledAt)
    (ended : turn.round.sampledAt ≤ turn.round.exitedAt) :
    let observation :=
      row.assigned (.mark (markOf cycle turn.fxRate turn.round lastPrice assessment row))
    Followed observation (path ++ [mark]) (markSample turn assessment observation)
      turn.round.exitedAt where
  sorted := by
    refine List.pairwise_append.mpr ⟨followed.sorted, List.pairwise_singleton _ _, ?_⟩
    intro sample member last isLast
    rw [List.mem_singleton.mp isLast]
    exact ((followed.times sample member).trans arrived).trans started
  times := by
    intro sample member
    rcases List.mem_append.mp member with earlier | last
    · exact (((followed.times sample earlier).trans arrived).trans started).trans ended
    · rw [List.mem_singleton.mp last]
      exact ended
  lastMarked := started
  entered := by
    intro sample member
    rcases List.mem_append.mp member with earlier | last
    · exact followed.entered sample earlier
    · rw [List.mem_singleton.mp last]
      rfl
  start := by
    intro first isFirst
    apply followed.start first
    cases path with
    | nil => exact isFirst
    | cons head tail => exact isFirst
  inside sample member shares stopLoss takeProfit levels :=
    followed.inside_of_quiet quiet sample member shares stopLoss takeProfit
      ⟨levels.stop, levels.target, levels.stopPositive, levels.targetPositive⟩
  mirrors := ⟨rfl, rfl, rfl, rfl, rfl⟩
  entry := followed.entry
  sized := by
    intro shares
    have notional := shadowSize_notional shares
    refine ⟨followed.entry, positive, shares, notional, ?_⟩
    exact congrArg (_ / ·) (if_neg notional.ne')

end Marks

section Turns

variable {settings : ShadowSettings} {cycle : Cycle} {turn : Turn} {before after : Database}
  {now : ℤ}

/-- New samples which belong to other observations are not an observation's own. -/
theorem samplesOf_others {id : String} {added : List ShadowTrainingSample}
    (grown : after.samples = before.samples ++ added)
    (others : ∀ sample ∈ added, sample.observationId ≠ id) :
    after.samplesOf id = before.samplesOf id := by
  have none : added.filter (SampleFilter.ofObservation id).selects = [] := by
    rw [List.filter_eq_nil_iff]
    intro sample member
    simpa [SampleFilter.selects] using others sample member
  rw [Database.samplesOf, grown, List.filter_append, none, List.append_nil, Database.samplesOf]

/-- What a turn records of an observation comes after its own earlier samples. -/
theorem samplesOf_recorded {samples : List ShadowTrainingSample}
    {observation : ShadowObservation} {assessment : Assessment}
    (grown : after.samples = before.samples ++
      recordedSamples cycle samples observation turn assessment) :
    after.samplesOf observation.id = before.samplesOf observation.id ++
      recordedSamples cycle samples observation turn assessment := by
  have own : (recordedSamples cycle samples observation turn assessment).filter
      (SampleFilter.ofObservation observation.id).selects =
        recordedSamples cycle samples observation turn assessment := by
    rw [List.filter_eq_self]
    intro sample member
    simpa [SampleFilter.selects] using owner_of_recordedSamples _ _ _ _ _ member
  rw [Database.samplesOf, grown, List.filter_append, own, Database.samplesOf]

theorem samplesOf_fresh (lifecycle : Lifecycle before) {id : String}
    (fresh : id ∉ before.observations.map ShadowObservation.id) : before.samplesOf id = [] := by
  rw [Database.samplesOf, List.filter_eq_nil_iff]
  intro sample member selected
  have owner := lifecycle.owned sample member
  simp only [SampleFilter.selects, decide_eq_true_eq] at selected
  rw [selected] at owner
  exact fresh owner

/-- A turn under the settings, with exits enabled, keeps the observations tracked. -/
theorem TurnEffect.tracked (effect : TurnEffect cycle turn before after)
    (lifecycle : Lifecycle before)
    (shared : cycle.settings = settings ∧ cycle.exitSettings = settings)
    (enabled : settings.intradayShadowExitEnabled = true)
    (arrived : now ≤ turn.round.recordedAt)
    (started : turn.round.recordedAt ≤ turn.round.sampledAt)
    (ended : turn.round.sampledAt ≤ turn.round.exitedAt) (tracked : Tracked settings now before) :
    Tracked settings turn.round.exitedAt after := by
  have later := tracked.mono ((arrived.trans started).trans ended)
  intro row member
  cases effect.row member with
  | kept old samples others =>
    rw [samplesOf_others samples others]
    exact later row old
  | opened quoted positive new fresh recorded samples =>
    have own := samplesOf_fresh lifecycle fresh
    rw [recorded, recordedRow_id, samplesOf_recorded samples, own, List.nil_append]
    subst new
    exact ⟨[], _, _, rfl, (followed_opened positive started ended).recorded _,
      recorded_ending shared enabled rfl own List.Pairwise.nil ended⟩
  | @marked lastPrice assessment earlier observation quoted positive held wasOpen market new
      recorded samples =>
    obtain ⟨path, mark, ending, own, followed, ends⟩ := tracked earlier held
    obtain ⟨rfl, quiet⟩ := ends.of_isOpen wasOpen
    rw [recorded, recordedRow_id, samplesOf_recorded samples]
    subst new
    rw [assigned_id, own]
    have continued : Followed (earlier.assigned (.mark (markOf cycle turn.fxRate turn.round
        lastPrice assessment earlier))) (path ++ [mark]) (markSample turn assessment _)
          turn.round.exitedAt := followed.marked quiet positive arrived started ended
    refine ⟨path ++ [mark], _, _, rfl, continued.recorded _, ?_⟩
    refine recorded_ending shared enabled wasOpen ?_ followed.sorted ended
    rw [assigned_id]
    exact own

/-- Of the samples of selected rows, those of one row. -/
theorem filter_map_selected {rows : List ShadowObservation}
    (distinct : (rows.map ShadowObservation.id).Nodup) {row : ShadowObservation}
    (member : row ∈ rows) (selects : ShadowObservation → Bool)
    {sampleFor : ShadowObservation → ShadowTrainingSample}
    (owner : ∀ row, (sampleFor row).observationId = row.id) :
    ((rows.filter selects).map sampleFor).filter (SampleFilter.ofObservation row.id).selects =
      if selects row then [sampleFor row] else [] := by
  have own : rows.filter (fun other => decide (other.id = row.id)) = [row] := by
    have same : rows.filter (fun other => decide (other.id = row.id)) =
        rows.filter (fun other => decide (other = row)) := by
      apply List.filter_congr
      intro other otherMember
      rw [decide_eq_decide]
      exact ⟨List.inj_on_of_nodup_map distinct otherMember member, congrArg _⟩
    rw [same, List.filter_eq, List.count_eq_one_of_mem distinct.of_map member]
    rfl
  have selected : (SampleFilter.ofObservation row.id).selects ∘ sampleFor =
      fun other => decide (other.id = row.id) := by
    funext other
    simp only [Function.comp_apply, SampleFilter.selects, owner]
  rw [List.filter_map, selected, List.filter_comm, own]
  split
  · next chosen => rw [List.filter_cons_of_pos chosen, List.filter_nil, List.map_singleton]
  · next left => rw [List.filter_cons_of_neg left, List.filter_nil, List.map_nil]

/-- The close of earlier days adds the sample which closes a stale observation. -/
theorem samplesOf_afterStale (distinct : (before.observations.map ShadowObservation.id).Nodup)
    (cycle : Cycle) (market : Market) {row : ShadowObservation}
    (member : row ∈ before.observations) :
    (before.afterStale cycle market).samplesOf row.id = before.samplesOf row.id ++
      if (ObservationFilter.staleIn market (cycle.days.dayStart market cycle.startedAt)).selects row
      then [(staleExit (cycle.days.dayStart market cycle.startedAt) row).sample] else [] := by
  rw [Database.samplesOf, afterStale_samples, List.filter_append, Database.samplesOf]
  congr 1
  exact filter_map_selected distinct member _ fun _ => rfl

/-- The close of earlier days keeps the observations tracked. -/
theorem Tracked.afterStale (tracked : Tracked settings now before) (lifecycle : Lifecycle before)
    (cycle : Cycle) (market : Market) : Tracked settings now (before.afterStale cycle market) := by
  intro row member
  rw [afterStale_observations cycle market lifecycle.distinct] at member
  obtain ⟨old, oldMember, rfl⟩ := List.mem_map.mp member
  obtain ⟨path, mark, ending, own, followed, ends⟩ := tracked old oldMember
  rw [staleRow_id, samplesOf_afterStale lifecycle.distinct cycle market oldMember, own]
  rw [staleRow]
  split
  · next stale =>
    have isOpen : old.isOpen = true := by
      simp only [ObservationFilter.selects, Bool.and_eq_true] at stale
      exact stale.1.2
    obtain ⟨rfl, quiet⟩ := ends.of_isOpen isOpen
    refine ⟨path, mark, _, List.append_assoc _ _ _, followed.closed (staleExit _ old) cycle, ?_⟩
    refine .sessionClosed quiet rfl ⟨rfl, rfl, rfl, rfl, rfl⟩ rfl ?_
    exact (min_le_left _ _).trans followed.lastMarked
  · rw [List.append_nil]
    exact ⟨path, mark, ending, rfl, followed, ends⟩

theorem Tracked.opening (tracked : Tracked settings now before) (lifecycle : Lifecycle before)
    (cycle : Cycle) : Tracked settings now (before.opening cycle) := by
  obtain ⟨strategy, -⟩ := lifecycle.of_rows (withStrategy_observations before)
    (withStrategy_samples before)
  have started : Tracked settings now before.withStrategy := by
    intro row member
    rw [Database.samplesOf, withStrategy_samples]
    exact tracked row (withStrategy_observations before ▸ member)
  exact (started.afterStale strategy cycle .india).afterStale (strategy.afterStale cycle .india).1
    cycle .us

end Turns

/-- After serial cycles of one set of settings, with exits enabled, and a clock
that does not go back, the observations are tracked. -/
theorem afterCycles_tracked {settings : ShadowSettings}
    (enabled : settings.intradayShadowExitEnabled = true) (calls : List CycleCall)
    (shared : ∀ call ∈ calls,
      call.cycle.settings = settings ∧ call.cycle.exitSettings = settings)
    (clock : MonotoneClock calls) {last : ℤ}
    (ended : ∀ call ∈ calls, ∀ reading ∈ call.cycle.readings, reading ≤ last) :
    Tracked settings last (afterCycles calls) := by
  refine afterCycles_induction (fun calls tables =>
    (∀ call ∈ calls, call.cycle.settings = settings ∧ call.cycle.exitSettings = settings) →
      MonotoneClock calls → ∀ last,
        (∀ call ∈ calls, ∀ reading ∈ call.cycle.readings, reading ≤ last) →
          Tracked settings last tables)
    ?_ ?_ calls shared clock last ended
  · intro _ _ last _ row member
    cases member
  · intro calls call after ih ends shared clock last ended
    have isLast : call ∈ calls ++ [call] := List.mem_append_right _ (List.mem_singleton_self call)
    have before := ih (fun earlier member => shared earlier (List.mem_append_left _ member))
      clock.before
    rcases ends with steps | same
    · have inOrder := clock
      rw [MonotoneClock, List.flatMap_append, List.flatMap_singleton] at inOrder
      obtain ⟨-, own, apart⟩ := List.pairwise_append.mp inOrder
      have starts : Tracked settings call.cycle.startedAt (afterCycles calls) := by
        apply before
        intro earlier member reading isReading
        exact apart reading (List.mem_flatMap.mpr ⟨earlier, member, isReading⟩) _ List.mem_cons_self
      refine steps.timed (Tracked settings) ?_ ?_ (afterCycles_sound calls) own
        (starts.opening (afterCycles_sound calls) call.cycle) (ended call isLast)
      · intro now later tables inOrder holds
        exact holds.mono inOrder
      · intro turn now before after sound arrived started ended holds effect
        exact effect.tracked sound (shared call isLast) enabled arrived started ended holds
    · rw [same]
      exact before last fun earlier member => ended earlier (List.mem_append_left _ member)

section Report

variable {settings : ShadowSettings} {row : ShadowObservation} {path : List ShadowTrainingSample}
  {mark : ShadowTrainingSample} {ending : List ShadowTrainingSample} {now : ℤ}

/-- What follows the last mark records the observation as the mark does. -/
theorem Ending.mirrors (ends : Ending settings row path mark ending) :
    ∀ sample ∈ ending, Mirrors row sample ∧ sample.entryPrice = row.entryPrice := by
  intro sample member
  cases ends with
  | stays => cases member
  | exited _ _ _ _ _ mirrors entered =>
    rw [List.mem_singleton.mp member]
    exact ⟨mirrors, entered⟩
  | sessionClosed _ _ mirrors entered =>
    rw [List.mem_singleton.mp member]
    exact ⟨mirrors, entered⟩

/-- The latest sample of an observation is its last mark or the exit on it. -/
theorem Ending.latest (ends : Ending settings row path mark ending)
    (marked : ∀ sample ∈ path ++ [mark], sample.sampleAt ≤ mark.sampleAt) :
    ∃ last ∈ mark :: ending,
      ∀ sample ∈ path ++ mark :: ending, sample.sampleAt ≤ last.sampleAt := by
  have split : path ++ mark :: ending = (path ++ [mark]) ++ ending := by simp
  rw [split]
  cases ends with
  | stays =>
    rw [List.append_nil]
    exact ⟨mark, List.mem_cons_self, marked⟩
  | @exited _ sample _ _ _ _ _ _ later =>
    refine ⟨sample, List.mem_cons_of_mem _ List.mem_cons_self, ?_⟩
    intro other member
    rcases List.mem_append.mp member with earlier | last
    · exact (marked other earlier).trans later
    · rw [List.mem_singleton.mp last]
  | sessionClosed _ _ _ _ before =>
    refine ⟨mark, List.mem_cons_self, ?_⟩
    intro other member
    rcases List.mem_append.mp member with earlier | last
    · exact marked other earlier
    · rw [List.mem_singleton.mp last]
      exact before

/-- The samples of a tracked observation of positive size are recorded as the report needs. -/
theorem Followed.isRecorded (followed : Followed row path mark now)
    (ends : Ending settings row path mark ending)
    (sized : ∀ sample ∈ path, 0 < sample.hypotheticalQuantity) {stopLoss takeProfit : ℚ}
    (levels : Levels row stopLoss takeProfit) :
    Recorded row stopLoss takeProfit path (mark :: ending) where
  sorted := (List.pairwise_append.mp followed.sorted).1
  entered := by
    have split : path ++ mark :: ending = (path ++ [mark]) ++ ending := by simp
    intro sample member
    rw [split] at member
    rcases List.mem_append.mp member with earlier | last
    · exact followed.entered sample earlier
    · exact (ends.mirrors sample last).2
  start := followed.start_path
  inside sample member := followed.inside sample member (sized sample member) _ _ levels
  mirrors := by
    intro sample member
    rcases List.mem_cons.mp member with rfl | last
    · exact followed.mirrors
    · exact (ends.mirrors sample last).1
  latest := by
    apply ends.latest
    intro sample member
    rcases List.mem_append.mp member with earlier | last
    · exact (List.pairwise_append.mp followed.sorted).2.2 sample earlier mark
        (List.mem_singleton_self mark)
    · rw [List.mem_singleton.mp last]

/-- The samples of a market, symbol and day are those of one observation, of
positive size, at distinct times, and with positive levels of its entry. -/
structure OnlyObservation (days : MarketDays) (day : Day) (samples : List ShadowTrainingSample)
    (row : ShadowObservation) : Prop where
  only : ∀ sample ∈ samples, groupKey days sample = (day, row.market, row.symbol) ↔
    sample.observationId = row.id
  sized : ∀ sample ∈ samples, sample.observationId = row.id → 0 < sample.hypotheticalQuantity
  distinct : ((groupOf days samples (day, row.market, row.symbol)).map
    ShadowTrainingSample.sampleAt).Nodup
  stopLoss : ∃ stopLoss, row.metadataJson.entryAssessment.stopLoss = some stopLoss ∧ 0 < stopLoss
  takeProfit : ∃ takeProfit,
    row.metadataJson.entryAssessment.takeProfit = some takeProfit ∧ 0 < takeProfit

/-- The group of the only observation is its samples, in whatever order they come. -/
theorem OnlyObservation.group {days : MarketDays} {day : Day} {samples : List ShadowTrainingSample}
    (observed : OnlyObservation days day samples row) {tables : Database}
    (same : samples.Perm tables.samples) :
    (groupOf days samples (day, row.market, row.symbol)).Perm (tables.samplesOf row.id) := by
  have own : groupOf days samples (day, row.market, row.symbol) =
      samples.filter (SampleFilter.ofObservation row.id).selects := by
    apply List.filter_congr
    intro sample member
    rw [SampleFilter.selects, decide_eq_decide]
    exact observed.only sample member
  rw [own]
  exact same.filter _

theorem closedStatus_ne_sessionClose :
    ∀ action ∈ closeActions, closedStatus action ≠ .sessionClose := by decide

/-- What is recommended on the last mark agrees with what followed it. -/
theorem Ending.recommended (ends : Ending settings row path mark ending)
    {recommended : RecommendedExit}
    (recommends : Recommends (closing (liveDecision settings row path).action) recommended) :
    (∀ closedAs, row.status = .closed closedAs → closedAs ≠ .sessionClose →
      ∃ exit, row.metadataJson.shadowExit = some exit ∧ closedAs = closedStatus exit.action ∧
        recommended.value = exit.action.value) ∧
    (recommended.value ∉ closeActions.map ExitAction.value ↔
      row.isOpen = true ∨ row.status = .closed .sessionClose) := by
  obtain ⟨exits, quietly⟩ := recommends
  cases ends with
  | stays isOpen quiet =>
    have stays := quietly (if_neg quiet)
    refine ⟨?_, fun _ => .inl isOpen, fun _ => stays⟩
    intro closedAs status
    simp [ShadowObservation.isOpen, status] at isOpen
  | exited exit closes action recorded status =>
    rw [action, closing, if_pos closes] at exits
    have value : recommended.value = exit.action.value := exits _ rfl
    refine ⟨?_, ?_⟩
    · intro closedAs closed _
      rw [status] at closed
      cases closed
      exact ⟨exit, recorded, rfl, value⟩
    · rw [value, status]
      refine iff_of_false (not_not.mpr (List.mem_map_of_mem closes)) ?_
      rintro (isOpen | session)
      · simp [ShadowObservation.isOpen, status] at isOpen
      · exact closedStatus_ne_sessionClose _ closes (ObservationStatus.closed.inj session)
  | sessionClosed quiet status =>
    have stays := quietly (if_neg quiet)
    refine ⟨?_, fun _ => .inr status, fun _ => stays⟩
    intro closedAs closed intraday
    rw [status] at closed
    cases closed
    exact absurd rfl intraday

/-- Live exits agree with the report. Over every serial run with one set of
settings, exits enabled, a positive give-back threshold and a clock that does not
go back, take the only observation of a market, symbol and day. The action of an
exit on a mark is what the report recommends from its samples, and what it
recommends is none of the four exits if and only if the observation is open or
was closed at the end of its session. -/
theorem liveExits_agree (settings : ShadowSettings) (days : MarketDays) (calls : List CycleCall)
    (shared : ∀ call ∈ calls,
      call.cycle.settings = settings ∧ call.cycle.exitSettings = settings)
    (enabled : settings.intradayShadowExitEnabled = true)
    (threshold : 0 < settings.intradayProfitGivebackExitPct) (clock : MonotoneClock calls)
    {samples : List ShadowTrainingSample} (same : samples.Perm (afterCycles calls).samples)
    {row : ShadowObservation} (member : row ∈ (afterCycles calls).observations) {day : Day}
    (observed : OnlyObservation days day samples row) :
    ∃ recommended, recommendedFor settings days samples day row.market row.symbol =
        some recommended ∧
      (∀ closedAs, row.status = .closed closedAs → closedAs ≠ .sessionClose →
        ∃ exit, row.metadataJson.shadowExit = some exit ∧ closedAs = closedStatus exit.action ∧
          recommended.value = exit.action.value) ∧
      (recommended.value ∉ closeActions.map ExitAction.value ↔
        row.isOpen = true ∨ row.status = .closed .sessionClose) := by
  obtain ⟨last, ended⟩ := exists_last calls
  have tracked : Tracked settings last (afterCycles calls) :=
    afterCycles_tracked enabled calls shared clock ended
  obtain ⟨path, mark, ending, own, followed, ends⟩ := tracked row member
  have group := observed.group same
  rw [own] at group
  have shares : ∀ sample ∈ path ++ mark :: ending, 0 < sample.hypotheticalQuantity := by
    intro sample isOwn
    rw [← own, Database.samplesOf, List.mem_filter] at isOwn
    exact observed.sized sample (same.mem_iff.mpr isOwn.1)
      (by simpa [SampleFilter.selects] using isOwn.2)
  obtain ⟨stopLoss, stop, stopPositive⟩ := observed.stopLoss
  obtain ⟨takeProfit, target, targetPositive⟩ := observed.takeProfit
  have levels : Levels row stopLoss takeProfit := ⟨stop, target, stopPositive, targetPositive⟩
  have marked : mark ∈ path ++ mark :: ending := List.mem_append_right _ List.mem_cons_self
  have sized : Sized row := followed.sized (followed.mirrors.quantity ▸ shares mark marked)
  have isRecorded : Recorded row stopLoss takeProfit path (mark :: ending) :=
    followed.isRecorded ends (fun sample earlier => shares sample (List.mem_append_left _ earlier))
      levels
  obtain ⟨decision, found, recommends⟩ := isRecorded.recommends sized levels threshold group
    observed.distinct day row.market row.symbol
  refine ⟨decision.recommendedShadowExit, ?_, ends.recommended recommends⟩
  rw [recommendedFor, found]
  rfl

end Report

section Runs

/-- A buy at 100, a mark at a profit, and one which gives half of it back. -/
def givebackRun : List CycleCall :=
  [tcsCall 1778663700000000 100 ⟨.buy, some 95, some 110⟩ "first",
    tcsCall 1778663760000000 101 ⟨.hold, some 96, some 111⟩ "second",
    tcsCall 1778663820000000 (201 / 2) ⟨.hold, some 96, some 111⟩ "third"]

/-- The only observation of a day, from a buy between 95 and 110. -/
def OnlyBuy (day : Day) (samples : List ShadowTrainingSample) (row : ShadowObservation) : Prop :=
  (∀ sample ∈ samples, groupKey summerDays sample = (day, row.market, row.symbol) ↔
      sample.observationId = row.id) ∧
    (∀ sample ∈ samples, sample.observationId = row.id → 0 < sample.hypotheticalQuantity) ∧
    ((groupOf summerDays samples (day, row.market, row.symbol)).map
      ShadowTrainingSample.sampleAt).Nodup ∧
    row.metadataJson.entryAssessment = ⟨.buy, some 95, some 110⟩

instance (day : Day) (samples : List ShadowTrainingSample) (row : ShadowObservation) :
    Decidable (OnlyBuy day samples row) :=
  inferInstanceAs (Decidable (_ ∧ _ ∧ _ ∧ _))

theorem OnlyBuy.onlyObservation {day : Day} {samples : List ShadowTrainingSample}
    {row : ShadowObservation} (onlyBuy : OnlyBuy day samples row) :
    OnlyObservation summerDays day samples row := by
  obtain ⟨only, sized, distinct, entry⟩ := onlyBuy
  refine ⟨only, sized, distinct, ⟨95, ?_, by decide⟩, ⟨110, ?_, by decide⟩⟩
  · rw [entry]
  · rw [entry]

theorem liveExits_agree_giveback :
    (∀ row ∈ (afterCycles givebackRun).observations, ∃ recommended,
      recommendedFor {} summerDays (afterCycles givebackRun).samples 20586 row.market row.symbol =
          some recommended ∧
        (∀ closedAs, row.status = .closed closedAs → closedAs ≠ .sessionClose →
          ∃ exit, row.metadataJson.shadowExit = some exit ∧ closedAs = closedStatus exit.action ∧
            recommended.value = exit.action.value) ∧
        (recommended.value ∉ closeActions.map ExitAction.value ↔
          row.isOpen = true ∨ row.status = .closed .sessionClose)) ∧
    (afterCycles givebackRun).observations.map ShadowObservation.status =
      [.closed .profitGiveback] := by
  refine ⟨fun row member => ?_, by decide +kernel⟩
  apply liveExits_agree {} summerDays givebackRun (by decide +kernel) rfl (by decide +kernel)
    (by decide +kernel) (List.Perm.refl _) member
  apply OnlyBuy.onlyObservation
  revert row
  decide +kernel

/-- The report recommends the exit which closed the observation, whatever closed
it, and an exit only where one did. -/
def Agrees (settings : ShadowSettings) (samples : List ShadowTrainingSample) (day : Day)
    (row : ShadowObservation) : Prop :=
  ∃ recommended ∈ recommendedFor settings summerDays samples day row.market row.symbol,
    (∀ exit ∈ row.metadataJson.shadowExit, recommended.value = exit.action.value) ∧
      (recommended.value ∉ closeActions.map ExitAction.value ↔ row.isOpen = true)

instance (settings : ShadowSettings) (samples : List ShadowTrainingSample) (day : Day)
    (row : ShadowObservation) : Decidable (Agrees settings samples day row) :=
  inferInstanceAs (Decidable (∃ _ ∈ recommendedFor ..,  _ ∧ _))

/-- Some observation is the only one of its day, and the report does not agree with it. -/
def Disagrees (settings : ShadowSettings) (calls : List CycleCall) (day : Day) : Prop :=
  (∀ call ∈ calls, call.cycle.settings = settings ∧ call.cycle.exitSettings = settings) ∧
    0 < settings.intradayProfitGivebackExitPct ∧
      ∃ row ∈ (afterCycles calls).observations,
        OnlyObservation summerDays day (afterCycles calls).samples row ∧
          ¬Agrees settings (afterCycles calls).samples day row

theorem disagrees_of_onlyBuy {settings : ShadowSettings} {calls : List CycleCall} {day : Day}
    (shared : ∀ call ∈ calls,
      call.cycle.settings = settings ∧ call.cycle.exitSettings = settings)
    (threshold : 0 < settings.intradayProfitGivebackExitPct)
    (found : ∃ row ∈ (afterCycles calls).observations,
      OnlyBuy day (afterCycles calls).samples row ∧
        ¬Agrees settings (afterCycles calls).samples day row) :
    Disagrees settings calls day := by
  obtain ⟨row, member, onlyBuy, disagrees⟩ := found
  exact ⟨shared, threshold, row, member, onlyBuy.onlyObservation, disagrees⟩

/-- Settings under which nothing is closed on a mark. -/
def watchingSettings : ShadowSettings := { intradayShadowExitEnabled := false }

def watchingCall (startedAt : ℤ) (lastPrice : ℚ) (assessment : Assessment)
    (observationId : String) : CycleCall where
  cycle :=
    { (tcsCall startedAt lastPrice assessment observationId).cycle with
      settings := watchingSettings
      exitSettings := watchingSettings }

/-- A mark below the stop while exits are not enabled. -/
def watchingRun : List CycleCall :=
  [watchingCall 1778663700000000 100 ⟨.buy, some 95, some 110⟩ "first",
    watchingCall 1778663760000000 94 ⟨.hold, some 90, some 105⟩ "second"]

/-- A mark after which the clock went back by a minute. -/
def backwardRun : List CycleCall :=
  [tcsCall 1778663700000000 100 ⟨.buy, some 95, some 110⟩ "first",
    tcsCall 1778663820000000 101 ⟨.hold, some 96, some 111⟩ "second",
    tcsCall 1778663760000000 (201 / 2) ⟨.hold, some 96, some 111⟩ "third"]

/-- The report does not agree with the close of a session, nor with what stays
open while exits are not enabled, nor where the clock goes back. -/
theorem liveExits_disagree :
    (MonotoneClock overnightRun ∧ Disagrees {} overnightRun 20586) ∧
      (MonotoneClock watchingRun ∧ Disagrees watchingSettings watchingRun 20586) ∧
        Disagrees {} backwardRun 20586 := by
  refine ⟨⟨by decide +kernel, disagrees_of_onlyBuy ?_ ?_ ?_⟩,
    ⟨by decide +kernel, disagrees_of_onlyBuy ?_ ?_ ?_⟩, disagrees_of_onlyBuy ?_ ?_ ?_⟩
  all_goals decide +kernel

end Runs
end AlphaAgent.Shadow
