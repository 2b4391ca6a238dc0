import AlphaAgent.Shadow.Refinement

/-!
# Serial runs of the cycle

Cycles one after the other, each in a session of its own. Every step of a cycle
assigns to an open observation, and closes one with the sample which records it,
so the committed tables keep the lifecycle and what is closed stays as it is.
-/

namespace AlphaAgent.Shadow

open Foundation

section Steps

variable {cycle : Cycle} {database before after : Database}

/-- The lifecycle is about the observations and their samples. -/
theorem Lifecycle.of_rows (lifecycle : Lifecycle before)
    (rows : after.observations = before.observations) (samples : after.samples = before.samples) :
    Lifecycle after ∧ Evolves before after := by
  have exitSamples : after.exitSamples = before.exitSamples := by
    funext id
    rw [Database.exitSamples, samples, Database.exitSamples]
  refine ⟨⟨?_, ?_, ?_, ?_⟩, ?_⟩
  · rw [rows]
    exact lifecycle.distinct
  · rw [rows, samples]
    exact lifecycle.owned
  · rw [rows, exitSamples]
    exact lifecycle.opened
  · rw [rows, exitSamples]
    exact lifecycle.closed
  · intro observation member
    exact ⟨observation, rows ▸ member, rfl, fun _ => rfl⟩

/-- The exit sample of a close records the observation as it is closed. -/
theorem Exit.records (exit : Exit) : Records (exit.closed cycle) exit.sample :=
  ⟨rfl, rfl, rfl, rfl, rfl, rfl, exit.record, rfl, rfl, rfl⟩

/-- Closing an open observation keeps the lifecycle once its sample is there. -/
theorem Lifecycle.exited (lifecycle : Lifecycle database) (cycle : Cycle) (exit : Exit)
    (member : exit.observation ∈ database.observations)
    (isOpen : exit.observation.isOpen = true) :
    Lifecycle (database.applyAll (exit.writes cycle)) ∧
      Evolves database (database.applyAll (exit.writes cycle)) := by
  have respects := lifecycle.respects member isOpen (.close (exit.closing cycle))
  have sampled : Respects (database.apply
      (.assign exit.observation.id (.close (exit.closing cycle)))) (.addSample exit.sample) :=
        trivial
  exact ⟨lifecycle.close member isOpen rfl rfl exit.records,
    (evolves_apply respects).trans (evolves_apply sampled)⟩

/-- Recording an open observation keeps the lifecycle. -/
theorem Lifecycle.recorded (lifecycle : Lifecycle database) (cycle : Cycle)
    {observation : ShadowObservation} (member : observation ∈ database.observations)
    (isOpen : observation.isOpen = true)
    (samples : List ShadowTrainingSample) (turn : Turn) (assessment : Assessment) :
    Lifecycle (database.applyAll (recordWrites cycle samples observation turn assessment)) ∧
      Evolves database
        (database.applyAll (recordWrites cycle samples observation turn assessment)) := by
  have owner : observation.id ∈ database.observations.map ShadowObservation.id :=
    List.mem_map_of_mem member
  have sampled : Lifecycle (database.apply (.addSample (markSample turn assessment observation))) :=
    lifecycle.addMarkSample owner rfl
  have grows : Evolves database
      (database.apply (.addSample (markSample turn assessment observation))) :=
        evolves_apply trivial
  rw [recordWrites, recordExit]
  split
  · have exited := sampled.exited cycle (turnExit turn assessment observation
      (exitDecision cycle samples observation)) member isOpen
    exact ⟨exited.1, grows.trans exited.2⟩
  · exact ⟨sampled, grows⟩

theorem Lifecycle.turnStep {turn : Turn} (lifecycle : Lifecycle before)
    (step : TurnStep cycle turn before after) : Lifecycle after ∧ Evolves before after := by
  have instrument := lifecycle.of_rows
    (withInstrument_observations before turn.market turn.round.symbol)
    (withInstrument_samples before turn.market turn.round.symbol)
  cases step with
  | blocked => exact ⟨lifecycle, .refl _⟩
  | watched => exact instrument
  | @recorded lastPrice assessment observation entry quoted positive enters accepted =>
    cases enters with
    | opened =>
      have entered := instrument.1.addObservation (by rwa [withInstrument_observations]) rfl
      have added : Respects (before.withInstrument turn.market turn.round.symbol) (.addObservation
        (newObservation cycle turn.market turn.fxRate turn.round lastPrice assessment)) := trivial
      have recorded := entered.recorded cycle
        (List.mem_append_right _ (List.mem_singleton_self _)) rfl before.samples turn assessment
      exact ⟨recorded.1, (instrument.2.trans (evolves_apply added)).trans recorded.2⟩
    | @marked earlier found =>
      obtain ⟨member, isOpen, -, -⟩ := mem_of_openFor found
      rw [← withInstrument_observations before turn.market turn.round.symbol] at member
      have marked := instrument.1.mark member isOpen
        (markOf cycle turn.fxRate turn.round lastPrice assessment earlier)
      have respects := instrument.1.respects member isOpen
        (.mark (markOf cycle turn.fxRate turn.round lastPrice assessment earlier))
      have there := onRow_mem_apply member (.assign earlier.id
        (.mark (markOf cycle turn.fxRate turn.round lastPrice assessment earlier)))
      rw [onRow_self] at there
      have recorded := marked.recorded cycle there isOpen before.samples turn assessment
      exact ⟨recorded.1, (instrument.2.trans (evolves_apply respects)).trans recorded.2⟩

theorem Lifecycle.turns {turns : List Turn} (lifecycle : Lifecycle before)
    (steps : Turns cycle turns before after) : Lifecycle after ∧ Evolves before after := by
  induction steps with
  | nil => exact ⟨lifecycle, .refl _⟩
  | cons step _ ih =>
    obtain ⟨between, evolves⟩ := lifecycle.turnStep step
    obtain ⟨last, continues⟩ := ih between
    exact ⟨last, evolves.trans continues⟩

/-- Closing open rows of distinct ids, one after the other, keeps the lifecycle. -/
theorem Lifecycle.closeStale (dayStart : ℤ) {rows : List ShadowObservation}
    (lifecycle : Lifecycle database) (distinct : (rows.map ShadowObservation.id).Nodup)
    (held : ∀ row ∈ rows, row ∈ database.observations ∧ row.isOpen = true) :
    Lifecycle (database.applyAll (rows.flatMap fun row => (staleExit dayStart row).writes cycle)) ∧
      Evolves database
        (database.applyAll (rows.flatMap fun row => (staleExit dayStart row).writes cycle)) := by
  induction rows generalizing database with
  | nil => exact ⟨lifecycle, .refl _⟩
  | cons row rest ih =>
    obtain ⟨alone, distinctRest⟩ := List.nodup_cons.mp distinct
    obtain ⟨member, isOpen⟩ := held row List.mem_cons_self
    obtain ⟨closed, evolves⟩ := lifecycle.exited cycle (staleExit dayStart row) member isOpen
    have left : ∀ next ∈ rest,
        next ∈ (database.applyAll ((staleExit dayStart row).writes cycle)).observations ∧
          next.isOpen = true := by
      intro next nextMember
      obtain ⟨nextIn, nextOpen⟩ := held next (List.mem_cons_of_mem row nextMember)
      have apart : next.id ≠ row.id := fun same => alone (same ▸ List.mem_map_of_mem nextMember)
      have kept := onRow_mem_apply nextIn
        (.assign row.id (.close ((staleExit dayStart row).closing cycle)))
      rw [onRow_other next apart] at kept
      exact ⟨kept, nextOpen⟩
    obtain ⟨last, continues⟩ := ih closed distinctRest left
    rw [List.flatMap_cons, Database.applyAll_append]
    exact ⟨last, evolves.trans continues⟩

theorem Lifecycle.afterStale (lifecycle : Lifecycle database) (cycle : Cycle) (market : Market) :
    Lifecycle (database.afterStale cycle market) ∧
      Evolves database (database.afterStale cycle market) := by
  refine lifecycle.closeStale _ ((List.filter_sublist.map _).nodup lifecycle.distinct) ?_
  intro row member
  obtain ⟨rowIn, selected⟩ := List.mem_filter.mp member
  simp only [ObservationFilter.selects, Bool.and_eq_true] at selected
  exact ⟨rowIn, selected.1.2⟩

theorem Lifecycle.opening (lifecycle : Lifecycle database) (cycle : Cycle) :
    Lifecycle (database.opening cycle) ∧ Evolves database (database.opening cycle) := by
  obtain ⟨strategy, first⟩ := lifecycle.of_rows (withStrategy_observations database)
    (withStrategy_samples database)
  obtain ⟨india, second⟩ := strategy.afterStale cycle .india
  obtain ⟨us, third⟩ := india.afterStale cycle .us
  exact ⟨us, (first.trans second).trans third⟩

theorem Lifecycle.cycleSteps (lifecycle : Lifecycle before)
    (steps : CycleSteps cycle before after) :
    Lifecycle after ∧ Evolves before after := by
  obtain ⟨opened, first⟩ := lifecycle.opening cycle
  obtain ⟨last, second⟩ := opened.turns steps
  exact ⟨last, first.trans second⟩

end Steps

/-- One execution of `run_cycle` and what its database refuses. -/
structure CycleCall where
  environment : Environment := {}
  cycle : Cycle

/-- The committed tables after one cycle in a session of its own. -/
def Database.afterCycle (database : Database) (call : CycleCall) : Database :=
  (Program.run (performer call.environment) (StateT.run (runCycle 0 call.cycle).run [])
    { committed := database }).shared.committed

/-- The cycle returns instead of raising. -/
def Database.Completes (database : Database) (call : CycleCall) : Prop :=
  (Program.run (performer call.environment) (StateT.run (runCycle 0 call.cycle).run [])
    { committed := database }).result.1 = .ok ()

/-- The committed tables after cycles, one after the other, on empty tables. -/
def afterCycles (calls : List CycleCall) : Database := calls.foldl Database.afterCycle {}

/-- What a cycle on tables of distinct ids leads to, by how it ends. -/
theorem afterCycle_ends {database : Database} (call : CycleCall)
    (distinct : (database.observations.map ShadowObservation.id).Nodup) :
    (database.Completes call ∧ if call.cycle.settings.shadowTrainingEnabled then
        CycleSteps call.cycle database (database.afterCycle call)
      else database.afterCycle call = database) ∨
    ¬database.Completes call ∧ database.afterCycle call = database := by
  have settled : Settled 0 database database [] { committed := database } := ⟨rfl, rfl, rfl, rfl⟩
  have meets := runCycle_spec call.cycle distinct [] _ settled
  have answers : ∀ store op, serialContract.answers store op
      (performer call.environment op store).1 (performer call.environment op store).2 :=
    fun store op => ⟨call.environment, rfl⟩
  have ends := meets.run answers
  rw [Database.Completes, Database.afterCycle]
  split at ends
  · next value last returned =>
    rw [returned]
    exact .inl ⟨rfl, ends⟩
  · next raised last escaped =>
    rw [escaped]
    exact .inr ⟨nofun, ends⟩

/-- A cycle takes its steps, or leaves the committed tables as they were. -/
theorem afterCycle_cases {database : Database} (call : CycleCall)
    (distinct : (database.observations.map ShadowObservation.id).Nodup) :
    CycleSteps call.cycle database (database.afterCycle call) ∨
      database.afterCycle call = database := by
  rcases afterCycle_ends call distinct with ⟨_, ends⟩ | ⟨_, same⟩
  · split at ends
    · exact .inl ends
    · exact .inr ends
  · exact .inr same

theorem Lifecycle.afterCycle {database : Database} (lifecycle : Lifecycle database)
    (call : CycleCall) :
    Lifecycle (database.afterCycle call) ∧ Evolves database (database.afterCycle call) := by
  rcases afterCycle_cases call lifecycle.distinct with steps | same
  · exact lifecycle.cycleSteps steps
  · rw [same]
    exact ⟨lifecycle, .refl database⟩

theorem Lifecycle.empty : Lifecycle {} where
  distinct := List.nodup_nil
  owned := by
    intro sample member
    cases member
  opened := by
    intro observation member
    cases member
  closed := by
    intro observation member
    cases member

/-- More cycles keep the lifecycle, and what was closed stays as it is. -/
theorem Lifecycle.afterCycles {database : Database} (lifecycle : Lifecycle database)
    (calls : List CycleCall) :
    Lifecycle (calls.foldl Database.afterCycle database) ∧
      Evolves database (calls.foldl Database.afterCycle database) := by
  induction calls generalizing database with
  | nil => exact ⟨lifecycle, .refl database⟩
  | cons call rest ih =>
    obtain ⟨next, evolves⟩ := lifecycle.afterCycle call
    obtain ⟨last, continues⟩ := ih next
    exact ⟨last, evolves.trans continues⟩

/-- Over any serial run of cycles, an observation has no exit sample while it is
open and exactly one, which records it, once it is closed; and from any state of
the run to a later one, a closed observation stays as it is. -/
theorem afterCycles_lifecycle (calls later : List CycleCall) :
    Lifecycle (afterCycles calls) ∧ Evolves (afterCycles calls) (afterCycles (calls ++ later)) := by
  have lifecycle := (Lifecycle.empty.afterCycles calls).1
  refine ⟨lifecycle, ?_⟩
  rw [afterCycles, afterCycles, List.foldl_append]
  exact (lifecycle.afterCycles later).2

end AlphaAgent.Shadow
