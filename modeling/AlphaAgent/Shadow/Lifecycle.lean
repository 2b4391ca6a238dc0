import AlphaAgent.Shadow.Store
import Mathlib.Data.List.Nodup

/-!
# The lifecycle of an observation

An open observation has no exit sample, a closed one has exactly one, which
records its values, and from one state of the tables to a later one nothing
about a closed observation changes. A write which assigns to open observations
only keeps all of this, except between a close and its exit sample.
-/

namespace AlphaAgent.Shadow

/-- The exit samples of an observation. -/
def Database.exitSamples (database : Database) (id : String) : List ShadowTrainingSample :=
  database.samples.filter fun sample =>
    decide (sample.observationId = id) && decide (sample.sampleKind = .shadowExit)

/-- The sample has the values of the observation, and both record one exit, at its PnL. -/
structure Records (observation : ShadowObservation) (sample : ShadowTrainingSample) : Prop where
  entryPrice : sample.entryPrice = observation.entryPrice
  currentPrice : sample.currentPrice = observation.currentPrice
  hypotheticalQuantity : sample.hypotheticalQuantity = observation.hypotheticalQuantity
  hypotheticalNotionalInr : sample.hypotheticalNotionalInr = observation.hypotheticalNotionalInr
  hypotheticalPnlInr : sample.hypotheticalPnlInr = observation.hypotheticalPnlInr
  hypotheticalPnlPct : sample.hypotheticalPnlPct = observation.hypotheticalPnlPct
  shadowExit : ∃ exit, observation.metadataJson.shadowExit = some exit ∧
    sample.metadataJson.shadowExit = some exit ∧ exit.exitPnlInr = observation.hypotheticalPnlInr

/-- Observations have ids of their own and samples belong to them; an open one
has no exit sample, a closed one has exactly one, which records it. -/
structure Lifecycle (database : Database) : Prop where
  distinct : (database.observations.map ShadowObservation.id).Nodup
  owned : ∀ sample ∈ database.samples,
    sample.observationId ∈ database.observations.map ShadowObservation.id
  opened : ∀ observation ∈ database.observations, observation.isOpen = true →
    database.exitSamples observation.id = []
  closed : ∀ observation ∈ database.observations, observation.isOpen = false →
    ∃ sample, database.exitSamples observation.id = [sample] ∧ Records observation sample

/-- No observation is lost, and a closed one stays exactly as it is. -/
def Evolves (earlier later : Database) : Prop :=
  ∀ observation ∈ earlier.observations, ∃ next ∈ later.observations, next.id = observation.id ∧
    (observation.isOpen = false → next = observation)

theorem Evolves.refl (database : Database) : Evolves database database := by
  intro observation member
  exact ⟨observation, member, rfl, fun _ => rfl⟩

theorem Evolves.trans {first second third : Database} (starts : Evolves first second)
    (continues : Evolves second third) : Evolves first third := by
  intro observation member
  obtain ⟨next, nextMember, nextId, nextSame⟩ := starts observation member
  obtain ⟨last, lastMember, lastId, lastSame⟩ := continues next nextMember
  refine ⟨last, lastMember, lastId.trans nextId, ?_⟩
  intro closed
  have same := nextSame closed
  subst same
  exact lastSame closed

section Rows

variable (row : ShadowObservation) (write : Write)

@[simp] theorem assigned_id (assignment : Assignment) :
    (row.assigned assignment).id = row.id := by
  cases assignment <;> rfl

@[simp] theorem assigned_market (assignment : Assignment) :
    (row.assigned assignment).market = row.market := by
  cases assignment <;> rfl

@[simp] theorem assigned_isOpen_mark (columns : Mark) :
    (row.assigned (.mark columns)).isOpen = row.isOpen := rfl

@[simp] theorem assigned_isOpen_close (columns : Closing) :
    (row.assigned (.close columns)).isOpen = false := rfl

/-- An assignment leaves other rows alone. -/
theorem onRow_other {id : String} (other : row.id ≠ id) (assignment : Assignment) :
    (Write.assign id assignment).onRow row = row := if_neg other

theorem onRow_self (assignment : Assignment) :
    (Write.assign row.id assignment).onRow row = row.assigned assignment := if_pos rfl

@[simp] theorem onRow_id : (write.onRow row).id = row.id := by
  cases write with
  | assign id assignment =>
    by_cases same : row.id = id
    · rw [← same, onRow_self, assigned_id]
    · rw [onRow_other row same]
  | _ => rfl

@[simp] theorem onRow_market : (write.onRow row).market = row.market := by
  cases write with
  | assign id assignment =>
    by_cases same : row.id = id
    · rw [← same, onRow_self, assigned_market]
    · rw [onRow_other row same]
  | _ => rfl

end Rows

section Writes

variable {database : Database}

/-- A row and what a write makes of it. -/
theorem onRow_mem_apply {row : ShadowObservation} (member : row ∈ database.observations)
    (write : Write) : write.onRow row ∈ (database.apply write).observations := by
  cases write with
  | addObservation observation => exact List.mem_append_left _ member
  | assign id assignment => exact List.mem_map_of_mem member
  | _ => exact member

/-- The rows after an assignment. -/
theorem mem_apply_assign {id : String} {assignment : Assignment} {row : ShadowObservation}
    (member : row ∈ (database.apply (.assign id assignment)).observations) :
    ∃ earlier ∈ database.observations, (Write.assign id assignment).onRow earlier = row :=
  List.mem_map.mp member

theorem ids_apply_assign (id : String) (assignment : Assignment) :
    (database.apply (.assign id assignment)).observations.map ShadowObservation.id =
      database.observations.map ShadowObservation.id := by
  rw [Database.apply, List.map_map]
  apply List.map_congr_left
  intro row _
  exact onRow_id row _

/-- The write assigns to open observations only. -/
def Respects (database : Database) : Write → Prop
  | .assign id _ => ∀ row ∈ database.observations, row.id = id → row.isOpen = true
  | _ => True

/-- Writes to open observations leave the closed ones as they are. -/
theorem evolves_apply {write : Write} (respects : Respects database write) :
    Evolves database (database.apply write) := by
  intro observation member
  refine ⟨write.onRow observation, onRow_mem_apply member write, onRow_id observation write, ?_⟩
  intro closed
  cases write with
  | assign id assignment =>
    apply onRow_other
    intro same
    rw [respects observation member same] at closed
    cases closed
  | _ => rfl

/-- In tables of distinct ids, a row is known by its id. -/
theorem Lifecycle.eq_of_id (lifecycle : Lifecycle database) {first second : ShadowObservation}
    (firstMember : first ∈ database.observations) (secondMember : second ∈ database.observations)
    (same : first.id = second.id) : first = second :=
  List.inj_on_of_nodup_map lifecycle.distinct firstMember secondMember same

/-- Assigning to one open observation respects the others. -/
theorem Lifecycle.respects (lifecycle : Lifecycle database) {observation : ShadowObservation}
    (member : observation ∈ database.observations) (isOpen : observation.isOpen = true)
    (assignment : Assignment) : Respects database (.assign observation.id assignment) := by
  intro row rowMember same
  rw [lifecycle.eq_of_id rowMember member same]
  exact isOpen

theorem Lifecycle.addStrategy (lifecycle : Lifecycle database) :
    Lifecycle (database.apply .addStrategy) :=
  ⟨lifecycle.distinct, lifecycle.owned, lifecycle.opened, lifecycle.closed⟩

theorem Lifecycle.addInstrument (lifecycle : Lifecycle database) (market : Market)
    (symbol : String) : Lifecycle (database.apply (.addInstrument market symbol)) :=
  ⟨lifecycle.distinct, lifecycle.owned, lifecycle.opened, lifecycle.closed⟩

/-- An id which is in no row has no samples. -/
theorem Lifecycle.exitSamples_fresh (lifecycle : Lifecycle database) {id : String}
    (fresh : id ∉ database.observations.map ShadowObservation.id) :
    database.exitSamples id = [] := by
  rw [Database.exitSamples, List.filter_eq_nil_iff]
  intro sample member selected
  have owner := lifecycle.owned sample member
  simp only [Bool.and_eq_true, decide_eq_true_eq] at selected
  rw [selected.1] at owner
  exact fresh owner

theorem Lifecycle.addObservation (lifecycle : Lifecycle database) {observation : ShadowObservation}
    (fresh : observation.id ∉ database.observations.map ShadowObservation.id)
    (isOpen : observation.isOpen = true) :
    Lifecycle (database.apply (.addObservation observation)) where
  distinct := by
    rw [Database.apply, List.map_append, List.map_singleton, List.nodup_append']
    refine ⟨lifecycle.distinct, List.nodup_singleton _, ?_⟩
    rw [List.disjoint_singleton]
    exact fresh
  owned := by
    intro sample member
    rw [Database.apply, List.map_append]
    exact List.mem_append_left _ (lifecycle.owned sample member)
  opened := by
    intro row member rowOpen
    rcases List.mem_append.mp member with earlier | new
    · exact lifecycle.opened row earlier rowOpen
    · rw [List.mem_singleton.mp new]
      exact lifecycle.exitSamples_fresh fresh
  closed := by
    intro row member rowClosed
    rcases List.mem_append.mp member with earlier | new
    · exact lifecycle.closed row earlier rowClosed
    · rw [List.mem_singleton.mp new, isOpen] at rowClosed
      cases rowClosed

/-- After an assignment a row is the assigned one, or an earlier one with another id. -/
theorem Lifecycle.mem_assign (lifecycle : Lifecycle database) {observation row : ShadowObservation}
    (member : observation ∈ database.observations) {assignment : Assignment}
    (rowMember : row ∈ (database.apply (.assign observation.id assignment)).observations) :
    row = observation.assigned assignment ∨
      row ∈ database.observations ∧ row.id ≠ observation.id := by
  obtain ⟨earlier, earlierMember, rfl⟩ := mem_apply_assign rowMember
  by_cases same : earlier.id = observation.id
  · rw [lifecycle.eq_of_id earlierMember member same, onRow_self]
    exact .inl rfl
  · rw [onRow_other earlier same]
    exact .inr ⟨earlierMember, same⟩

theorem Lifecycle.mark (lifecycle : Lifecycle database) {observation : ShadowObservation}
    (member : observation ∈ database.observations) (isOpen : observation.isOpen = true)
    (columns : Mark) : Lifecycle (database.apply (.assign observation.id (.mark columns))) where
  distinct := by
    rw [ids_apply_assign]
    exact lifecycle.distinct
  owned := by
    rw [ids_apply_assign]
    exact lifecycle.owned
  opened := by
    intro row rowMember rowOpen
    rcases lifecycle.mem_assign member rowMember with rfl | ⟨earlier, -⟩
    · rw [assigned_id]
      exact lifecycle.opened observation member isOpen
    · exact lifecycle.opened row earlier rowOpen
  closed := by
    intro row rowMember rowClosed
    rcases lifecycle.mem_assign member rowMember with rfl | ⟨earlier, -⟩
    · rw [assigned_isOpen_mark, isOpen] at rowClosed
      cases rowClosed
    · exact lifecycle.closed row earlier rowClosed

theorem exitSamples_addSample (sample : ShadowTrainingSample) (id : String) :
    (database.apply (.addSample sample)).exitSamples id = database.exitSamples id ++
      if sample.observationId = id ∧ sample.sampleKind = .shadowExit then [sample] else [] := by
  rw [Database.exitSamples, Database.apply, List.filter_append, Database.exitSamples]
  congr 1
  by_cases exits : sample.observationId = id ∧ sample.sampleKind = .shadowExit
  · rw [if_pos exits, List.filter_cons_of_pos (by simp [exits]), List.filter_nil]
  · rw [if_neg exits, List.filter_cons_of_neg (by simpa using exits), List.filter_nil]

theorem Lifecycle.addMarkSample (lifecycle : Lifecycle database) {sample : ShadowTrainingSample}
    (owned : sample.observationId ∈ database.observations.map ShadowObservation.id)
    (kind : sample.sampleKind = .intradayMark) :
    Lifecycle (database.apply (.addSample sample)) := by
  have kept : ∀ id, (database.apply (.addSample sample)).exitSamples id =
      database.exitSamples id := by
    intro id
    rw [exitSamples_addSample, if_neg (by simp [kind]), List.append_nil]
  refine ⟨lifecycle.distinct, ?_, ?_, ?_⟩
  · intro other member
    rcases List.mem_append.mp member with earlier | new
    · exact lifecycle.owned other earlier
    · rw [List.mem_singleton.mp new]
      exact owned
  · intro row member rowOpen
    rw [kept]
    exact lifecycle.opened row member rowOpen
  · intro row member rowClosed
    rw [kept]
    exact lifecycle.closed row member rowClosed

/-- Closing an open observation and adding the sample which records it. -/
theorem Lifecycle.close (lifecycle : Lifecycle database) {observation : ShadowObservation}
    (member : observation ∈ database.observations) (isOpen : observation.isOpen = true)
    {columns : Closing} {sample : ShadowTrainingSample}
    (owner : sample.observationId = observation.id) (kind : sample.sampleKind = .shadowExit)
    (records : Records (observation.assigned (.close columns)) sample) :
    Lifecycle ((database.apply (.assign observation.id (.close columns))).apply
      (.addSample sample)) where
  distinct := by
    change ((database.apply (.assign observation.id (.close columns))).observations.map _).Nodup
    rw [ids_apply_assign]
    exact lifecycle.distinct
  owned := by
    change ∀ other ∈ _, _ ∈ (database.apply
      (.assign observation.id (.close columns))).observations.map _
    rw [ids_apply_assign]
    intro other otherMember
    rcases List.mem_append.mp otherMember with earlier | new
    · exact lifecycle.owned other earlier
    · rw [List.mem_singleton.mp new, owner]
      exact List.mem_map_of_mem member
  opened := by
    intro row rowMember rowOpen
    rcases lifecycle.mem_assign member rowMember with rfl | ⟨earlier, other⟩
    · rw [assigned_isOpen_close] at rowOpen
      cases rowOpen
    · rw [exitSamples_addSample, if_neg (by rw [owner]; exact fun both => other both.1.symm),
        List.append_nil]
      exact lifecycle.opened row earlier rowOpen
  closed := by
    intro row rowMember rowClosed
    rw [exitSamples_addSample]
    rcases lifecycle.mem_assign member rowMember with rfl | ⟨earlier, other⟩
    · refine ⟨sample, ?_, records⟩
      have none : database.exitSamples observation.id = [] :=
        lifecycle.opened observation member isOpen
      rw [assigned_id, if_pos ⟨owner, kind⟩]
      change database.exitSamples observation.id ++ [sample] = [sample]
      rw [none, List.nil_append]
    · rw [if_neg (by rw [owner]; exact fun both => other both.1.symm), List.append_nil]
      exact lifecycle.closed row earlier rowClosed

end Writes
end AlphaAgent.Shadow
