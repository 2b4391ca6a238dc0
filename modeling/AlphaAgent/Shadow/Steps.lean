import AlphaAgent.Shadow.Tables

/-!
# Rows and samples after a step

In tables of a lifecycle a step can be read off their rows and samples: a turn
leaves them, appends the row of a new observation or replaces the row of the open
one, and appends its samples; the close of earlier days replaces the stale rows.
-/

namespace AlphaAgent.Shadow

/-- The rows with the one of the same id replaced. -/
def replaced (rows : List ShadowObservation) (new : ShadowObservation) : List ShadowObservation :=
  rows.map fun row => if row.id = new.id then new else row

theorem mem_replaced {rows : List ShadowObservation} {new row : ShadowObservation}
    (member : row ∈ replaced rows new) : row = new ∨ row ∈ rows ∧ row.id ≠ new.id := by
  obtain ⟨earlier, earlierMember, rfl⟩ := List.mem_map.mp member
  by_cases same : earlier.id = new.id
  · exact .inl (if_pos same)
  · rw [if_neg same]
    exact .inr ⟨earlierMember, same⟩

/-- In rows of distinct ids, an assignment replaces the one row it is for. -/
theorem map_onRow {rows : List ShadowObservation} (distinct : (rows.map ShadowObservation.id).Nodup)
    {row : ShadowObservation} (member : row ∈ rows) (assignment : Assignment) :
    rows.map (Write.assign row.id assignment).onRow = replaced rows (row.assigned assignment) := by
  apply List.map_congr_left
  intro other otherMember
  rw [assigned_id]
  by_cases same : other.id = row.id
  · rw [List.inj_on_of_nodup_map distinct otherMember member same, onRow_self, if_pos rfl]
  · rw [onRow_other other same, if_neg same]

/-- A row in its own place leaves the rows as they are. -/
theorem replaced_self {rows : List ShadowObservation}
    (distinct : (rows.map ShadowObservation.id).Nodup) {row : ShadowObservation}
    (member : row ∈ rows) : replaced rows row = rows := by
  have same : ∀ other ∈ rows, (if other.id = row.id then row else other) = other := by
    intro other otherMember
    by_cases same : other.id = row.id
    · rw [if_pos same, List.inj_on_of_nodup_map distinct otherMember member same]
    · exact if_neg same
  rw [replaced, List.map_congr_left same, List.map_id']

theorem replaced_replaced (rows : List ShadowObservation) {first second : ShadowObservation}
    (same : first.id = second.id) :
    replaced (replaced rows first) second = replaced rows second := by
  rw [replaced, replaced, List.map_map]
  apply List.map_congr_left
  intro row _
  by_cases here : row.id = first.id
  · simp [here, same]
  · simp [here, same ▸ here]

theorem replaced_append_fresh {rows : List ShadowObservation} {first second : ShadowObservation}
    (same : first.id = second.id) (fresh : first.id ∉ rows.map ShadowObservation.id) :
    replaced (rows ++ [first]) second = rows ++ [second] := by
  have kept : ∀ row ∈ rows, (if row.id = second.id then second else row) = row := by
    intro row member
    refine if_neg fun clash => fresh ?_
    rw [same, ← clash]
    exact List.mem_map_of_mem member
  rw [replaced, List.map_append, List.map_congr_left kept, List.map_id', List.map_singleton,
    if_pos same]

/-- Replacing rows keeps their ids. -/
@[simp] theorem replaced_ids (rows : List ShadowObservation) (new : ShadowObservation) :
    (replaced rows new).map ShadowObservation.id = rows.map ShadowObservation.id := by
  rw [replaced, List.map_map]
  apply List.map_congr_left
  intro row _
  rw [Function.comp_apply]
  split
  · next same => exact same.symm
  · rfl

theorem mem_of_replaced {rows : List ShadowObservation} {row new : ShadowObservation}
    (member : row ∈ rows) (same : row.id = new.id) : new ∈ replaced rows new := by
  have image := List.mem_map_of_mem (f := fun row => if row.id = new.id then new else row) member
  rwa [if_pos same] at image

@[simp] theorem Exit.closed_id (cycle : Cycle) (exit : Exit) :
    (exit.closed cycle).id = exit.observation.id := assigned_id exit.observation _

section Record

variable (cycle : Cycle) (samples : List ShadowTrainingSample) (observation : ShadowObservation)
  (turn : Turn) (assessment : Assessment)

/-- The row of an observation after its turn. -/
def recordedRow : ShadowObservation :=
  (recordExit cycle samples observation turn assessment).elim observation (Exit.closed cycle)

/-- The samples of a turn. -/
def recordedSamples : List ShadowTrainingSample :=
  markSample turn assessment observation ::
    ((recordExit cycle samples observation turn assessment).map Exit.sample).toList

@[simp] theorem recordedRow_id :
    (recordedRow cycle samples observation turn assessment).id = observation.id := by
  rw [recordedRow, recordExit]
  split
  · exact Exit.closed_id cycle _
  · rfl

@[simp] theorem recordedRow_market :
    (recordedRow cycle samples observation turn assessment).market = observation.market := by
  rw [recordedRow, recordExit]
  split
  · rfl
  · rfl

@[simp] theorem recordedRow_openedAt :
    (recordedRow cycle samples observation turn assessment).openedAt = observation.openedAt := by
  rw [recordedRow, recordExit]
  split
  · rfl
  · rfl

/-- The close of a turn closes the observation of the turn. -/
theorem eq_of_recordExit {exit : Exit}
    (isExit : recordExit cycle samples observation turn assessment = some exit) :
    Exits cycle samples observation ∧
      exit = turnExit turn assessment observation (exitDecision cycle samples observation) := by
  rw [recordExit] at isExit
  split at isExit
  · next exits => exact ⟨exits, (Option.some.inj isExit).symm⟩
  · cases isExit

/-- The samples of a turn are its mark and, where it closes the observation, the exit. -/
theorem mem_recordedSamples {sample : ShadowTrainingSample}
    (member : sample ∈ recordedSamples cycle samples observation turn assessment) :
    sample = markSample turn assessment observation ∨
      Exits cycle samples observation ∧ sample =
        (turnExit turn assessment observation (exitDecision cycle samples observation)).sample := by
  rw [recordedSamples] at member
  rcases List.mem_cons.mp member with mark | closing
  · exact .inl mark
  · rw [Option.mem_toList, Option.map_eq_some_iff] at closing
    obtain ⟨exit, isExit, rfl⟩ := closing
    obtain ⟨exits, rfl⟩ := eq_of_recordExit _ _ _ _ _ isExit
    exact .inr ⟨exits, rfl⟩

theorem owner_of_recordedSamples {sample : ShadowTrainingSample}
    (member : sample ∈ recordedSamples cycle samples observation turn assessment) :
    sample.observationId = observation.id := by
  rcases mem_recordedSamples _ _ _ _ _ member with rfl | ⟨_, rfl⟩
  · rfl
  · rfl

/-- Recording replaces the row of its observation and appends its samples. -/
theorem record_rows {tables : Database}
    (distinct : (tables.observations.map ShadowObservation.id).Nodup)
    (member : observation ∈ tables.observations) :
    (tables.applyAll (recordWrites cycle samples observation turn assessment)).observations =
        replaced tables.observations (recordedRow cycle samples observation turn assessment) ∧
      (tables.applyAll (recordWrites cycle samples observation turn assessment)).samples =
        tables.samples ++ recordedSamples cycle samples observation turn assessment := by
  rw [recordWrites, recordedSamples, recordedRow, recordExit]
  split
  · exact ⟨map_onRow distinct member _, List.append_assoc tables.samples [_] [_]⟩
  · exact ⟨(replaced_self distinct member).symm, rfl⟩

end Record

/-- What a turn does to the rows and samples of tables of a lifecycle. -/
inductive TurnEffect (cycle : Cycle) (turn : Turn) (before after : Database) : Prop
  | kept (rows : after.observations = before.observations)
      (samples : after.samples = before.samples)
  | opened {lastPrice : ℚ} {assessment : Assessment} {observation : ShadowObservation}
      (quoted : turn.round.quote = .ok (some lastPrice, assessment)) (positive : 0 < lastPrice)
      (absent : openFor before.observations turn.market turn.round.symbol = none)
      (unblocked : reentryBlock cycle before.observations turn.market turn.round.symbol
        turn.round.recordedAt = none)
      (new : observation =
        newObservation cycle turn.market turn.fxRate turn.round lastPrice assessment)
      (fresh : observation.id ∉ before.observations.map ShadowObservation.id)
      (rows : after.observations = before.observations ++
        [recordedRow cycle before.samples observation turn assessment])
      (samples : after.samples = before.samples ++
        recordedSamples cycle before.samples observation turn assessment)
  | marked {lastPrice : ℚ} {assessment : Assessment} {earlier observation : ShadowObservation}
      (quoted : turn.round.quote = .ok (some lastPrice, assessment)) (positive : 0 < lastPrice)
      (member : earlier ∈ before.observations) (isOpen : earlier.isOpen = true)
      (market : earlier.market = turn.market) (symbol : earlier.symbol = turn.round.symbol)
      (new : observation = earlier.assigned
        (.mark (markOf cycle turn.fxRate turn.round lastPrice assessment earlier)))
      (rows : after.observations = replaced before.observations
        (recordedRow cycle before.samples observation turn assessment))
      (samples : after.samples = before.samples ++
        recordedSamples cycle before.samples observation turn assessment)

/-- A row after a turn: the turn has left it and its samples, opened it or marked it. -/
inductive RowEffect (cycle : Cycle) (turn : Turn) (before after : Database)
    (row : ShadowObservation) : Prop
  | kept {added : List ShadowTrainingSample} (member : row ∈ before.observations)
      (samples : after.samples = before.samples ++ added)
      (others : ∀ sample ∈ added, sample.observationId ≠ row.id)
  | opened {lastPrice : ℚ} {assessment : Assessment} {observation : ShadowObservation}
      (quoted : turn.round.quote = .ok (some lastPrice, assessment)) (positive : 0 < lastPrice)
      (new : observation =
        newObservation cycle turn.market turn.fxRate turn.round lastPrice assessment)
      (fresh : observation.id ∉ before.observations.map ShadowObservation.id)
      (recorded : row = recordedRow cycle before.samples observation turn assessment)
      (samples : after.samples = before.samples ++
        recordedSamples cycle before.samples observation turn assessment)
  | marked {lastPrice : ℚ} {assessment : Assessment} {earlier observation : ShadowObservation}
      (quoted : turn.round.quote = .ok (some lastPrice, assessment)) (positive : 0 < lastPrice)
      (member : earlier ∈ before.observations) (isOpen : earlier.isOpen = true)
      (market : earlier.market = turn.market)
      (new : observation = earlier.assigned
        (.mark (markOf cycle turn.fxRate turn.round lastPrice assessment earlier)))
      (recorded : row = recordedRow cycle before.samples observation turn assessment)
      (samples : after.samples = before.samples ++
        recordedSamples cycle before.samples observation turn assessment)

theorem TurnEffect.row {cycle : Cycle} {turn : Turn} {before after : Database}
    (effect : TurnEffect cycle turn before after) {row : ShadowObservation}
    (member : row ∈ after.observations) : RowEffect cycle turn before after row := by
  cases effect with
  | kept rows samples =>
    refine .kept (rows ▸ member) (samples.trans (List.append_nil _).symm) ?_
    rintro sample ⟨⟩
  | opened quoted positive absent unblocked new fresh rows samples =>
    rw [rows] at member
    rcases List.mem_append.mp member with earlier | last
    · refine .kept earlier samples fun sample recorded same => fresh ?_
      rw [← owner_of_recordedSamples _ _ _ _ _ recorded, same]
      exact List.mem_map_of_mem earlier
    · exact .opened quoted positive new fresh (List.mem_singleton.mp last) samples
  | marked quoted positive held isOpen market symbol new rows samples =>
    rw [rows] at member
    rcases mem_replaced member with here | ⟨old, apart⟩
    · exact .marked quoted positive held isOpen market new here samples
    · refine .kept old samples fun sample recorded same => apart ?_
      rw [recordedRow_id, ← same]
      exact owner_of_recordedSamples _ _ _ _ _ recorded

theorem mem_of_openFor {rows : List ShadowObservation} {market : Market} {symbol : String}
    {row : ShadowObservation} (found : openFor rows market symbol = some row) :
    row ∈ rows ∧ row.isOpen = true ∧ row.market = market ∧ row.symbol = symbol := by
  obtain ⟨member, selected⟩ := List.mem_filter.mp (List.mem_of_head? found)
  simp only [ObservationFilter.selects, Bool.and_eq_true, decide_eq_true_eq] at selected
  exact ⟨member, selected.2, selected.1.1, selected.1.2⟩

theorem TurnStep.effect {cycle : Cycle} {turn : Turn} {before after : Database}
    (step : TurnStep cycle turn before after)
    (distinct : (before.observations.map ShadowObservation.id).Nodup) :
    TurnEffect cycle turn before after := by
  cases step with
  | blocked => exact .kept rfl rfl
  | watched => exact .kept (withInstrument_observations ..) (withInstrument_samples ..)
  | @recorded lastPrice assessment observation entry quoted positive enters accepted =>
    cases enters with
    | opened absent buys unblocked =>
      have rows : ((before.withInstrument turn.market turn.round.symbol).apply
          (.addObservation (newObservation cycle turn.market turn.fxRate turn.round lastPrice
            assessment))).observations = before.observations ++
              [newObservation cycle turn.market turn.fxRate turn.round lastPrice assessment] := by
        rw [Database.apply, withInstrument_observations]
      have distinctAfter : (((before.withInstrument turn.market turn.round.symbol).apply
          (.addObservation (newObservation cycle turn.market turn.fxRate turn.round lastPrice
            assessment))).observations.map ShadowObservation.id).Nodup := by
        rw [rows, List.map_append, List.map_singleton, List.nodup_append', List.disjoint_singleton]
        exact ⟨distinct, List.nodup_singleton _, accepted⟩
      obtain ⟨recordedRows, recordedSamples⟩ := record_rows cycle before.samples _ turn assessment
        distinctAfter (rows ▸ List.mem_append_right _ (List.mem_singleton_self _))
      refine .opened quoted positive absent unblocked rfl accepted ?_ ?_
      · rw [recordedRows, rows]
        exact replaced_append_fresh (recordedRow_id ..).symm accepted
      · rw [recordedSamples, Database.apply, withInstrument_samples]
    | @marked earlier found =>
      obtain ⟨member, isOpen, market, symbol⟩ := mem_of_openFor found
      have rows : ((before.withInstrument turn.market turn.round.symbol).apply
          (.assign earlier.id (.mark (markOf cycle turn.fxRate turn.round lastPrice assessment
            earlier)))).observations = replaced before.observations (earlier.assigned
              (.mark (markOf cycle turn.fxRate turn.round lastPrice assessment earlier))) := by
        rw [Database.apply, withInstrument_observations]
        exact map_onRow distinct member _
      have distinctAfter : (((before.withInstrument turn.market turn.round.symbol).apply
          (.assign earlier.id (.mark (markOf cycle turn.fxRate turn.round lastPrice assessment
            earlier)))).observations.map ShadowObservation.id).Nodup := by
        rwa [rows, replaced_ids]
      obtain ⟨recordedRows, recordedSamples⟩ := record_rows cycle before.samples _ turn assessment
        distinctAfter (rows ▸ mem_of_replaced member (assigned_id ..).symm)
      refine .marked quoted positive member isOpen market symbol rfl ?_ ?_
      · rw [recordedRows, rows]
        exact replaced_replaced _ (recordedRow_id ..).symm
      · rw [recordedSamples, Database.apply, withInstrument_samples]

section Stale

variable (cycle : Cycle)

/-- The first close of a list, and then the others. -/
theorem loaded_staleWrites_cons (dayStart : ℤ) (other : ShadowObservation)
    (rest : List ShadowObservation) (row : ShadowObservation) :
    loaded ((other :: rest).flatMap fun other => (staleExit dayStart other).writes cycle) row =
      loaded (rest.flatMap fun other => (staleExit dayStart other).writes cycle)
        ((Write.assign other.id (.close ((staleExit dayStart other).closing cycle))).onRow row) :=
  rfl

/-- Assignments to rows of other ids leave the object of a row as it is. -/
theorem loaded_staleWrites {row : ShadowObservation} {dayStart : ℤ} {rows : List ShadowObservation}
    (apart : ∀ other ∈ rows, row.id ≠ other.id) :
    loaded (rows.flatMap fun other => (staleExit dayStart other).writes cycle) row = row := by
  induction rows with
  | nil => rfl
  | cons other rest ih =>
    have kept : (Write.assign other.id (.close ((staleExit dayStart other).closing cycle))).onRow
        row = row := onRow_other row (apart other List.mem_cons_self) _
    rw [loaded_staleWrites_cons, kept]
    exact ih fun next member => apart next (List.mem_cons_of_mem other member)

theorem added_append (first second : List Write) :
    added (first ++ second) = (added first).map (loaded second) ++ added second := by
  rw [added, Database.applyAll_append, observations_applyAll, ← added]

/-- Closes insert no observation. -/
theorem added_staleWrites (dayStart : ℤ) (rows : List ShadowObservation) :
    added (rows.flatMap fun row => (staleExit dayStart row).writes cycle) = [] := by
  induction rows with
  | nil => rfl
  | cons row rest ih =>
    have none : added ((staleExit dayStart row).writes cycle) = [] := rfl
    rw [List.flatMap_cons, added_append, none, ih]
    rfl

/-- A stale row is closed with its own values. -/
theorem loaded_staleWrites_self {row : ShadowObservation} {dayStart : ℤ}
    {rows : List ShadowObservation} (distinct : (rows.map ShadowObservation.id).Nodup)
    (member : row ∈ rows) :
    loaded (rows.flatMap fun other => (staleExit dayStart other).writes cycle) row =
      (staleExit dayStart row).closed cycle := by
  induction rows with
  | nil => cases member
  | cons other rest ih =>
    obtain ⟨alone, distinctRest⟩ := List.nodup_cons.mp distinct
    rw [loaded_staleWrites_cons]
    rcases List.mem_cons.mp member with rfl | later
    · rw [onRow_self]
      apply loaded_staleWrites
      intro next nextMember same
      rw [assigned_id] at same
      exact alone (same ▸ List.mem_map_of_mem nextMember)
    · have apart : row.id ≠ other.id := fun same => alone (same ▸ List.mem_map_of_mem later)
      rw [onRow_other row apart]
      exact ih distinctRest later

/-- A row after the close of earlier days. -/
def staleRow (market : Market) (row : ShadowObservation) : ShadowObservation :=
  let dayStart := cycle.days.dayStart market cycle.startedAt
  if (ObservationFilter.staleIn market dayStart).selects row then
    (staleExit dayStart row).closed cycle
  else row

variable {database : Database} (market : Market)

theorem afterStale_observations
    (distinct : (database.observations.map ShadowObservation.id).Nodup) :
    (database.afterStale cycle market).observations =
      database.observations.map (staleRow cycle market) := by
  have none : added (database.staleWrites cycle market) = [] := added_staleWrites cycle _ _
  rw [Database.afterStale, observations_applyAll, none, List.append_nil]
  apply List.map_congr_left
  intro row member
  rw [staleRow]
  by_cases stale : (ObservationFilter.staleIn market
      (cycle.days.dayStart market cycle.startedAt)).selects row = true
  · rw [if_pos stale]
    exact loaded_staleWrites_self cycle ((List.filter_sublist.map _).nodup distinct)
      (List.mem_filter.mpr ⟨member, stale⟩)
  · rw [if_neg stale]
    apply loaded_staleWrites
    intro other otherMember same
    obtain ⟨otherIn, selected⟩ := List.mem_filter.mp otherMember
    rw [List.inj_on_of_nodup_map distinct member otherIn same] at stale
    exact stale selected

theorem afterStale_samples :
    (database.afterStale cycle market).samples = database.samples ++
      (database.stale market (cycle.days.dayStart market cycle.startedAt)).map fun row =>
        (staleExit (cycle.days.dayStart market cycle.startedAt) row).sample := by
  have closes : ∀ (rows : List ShadowObservation) (tables : Database) (dayStart : ℤ),
      (tables.applyAll (rows.flatMap fun row => (staleExit dayStart row).writes cycle)).samples =
        tables.samples ++ rows.map fun row => (staleExit dayStart row).sample := by
    intro rows
    induction rows with
    | nil => exact fun tables _ => (List.append_nil tables.samples).symm
    | cons row rest ih =>
      intro tables dayStart
      rw [List.flatMap_cons, Database.applyAll_append, ih, List.map_cons]
      exact List.append_assoc tables.samples [_] _
  exact closes _ _ _

end Stale
end AlphaAgent.Shadow
