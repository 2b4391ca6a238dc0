import AlphaAgent.Shadow.SerialRuns
import Mathlib.Data.List.Induction

/-!
# Invariants of serial runs

What every turn keeps the turns of a cycle keep, and what every cycle keeps holds
after any serial run. The first use is where observations come from: each one was
opened by a turn, and keeps its entry price and the assessment of its entry.
-/

namespace AlphaAgent.Shadow

section Rules

variable {cycle : Cycle} {before after : Database}

/-- The turns lead from an assertion about all of them to the one about none. -/
theorem Turns.leads {turns : List Turn} (assertion : List Turn → Database → Prop)
    (round : ∀ turn rest before after, Lifecycle before → assertion (turn :: rest) before →
      TurnEffect cycle turn before after → assertion rest after)
    (steps : Turns cycle turns before after) (lifecycle : Lifecycle before)
    (starts : assertion turns before) : assertion [] after := by
  induction steps with
  | nil => exact starts
  | @cons turn rest before between after step _ ih =>
    have effect := step.effect lifecycle.distinct
    exact ih (lifecycle.turnStep step).1 (round turn rest before between lifecycle starts effect)

/-- The turns keep what each of them keeps. -/
theorem Turns.keeps {turns : List Turn} (kept : Database → Prop)
    (round : ∀ turn ∈ turns, ∀ before after, Lifecycle before → kept before →
      TurnEffect cycle turn before after → kept after)
    (steps : Turns cycle turns before after) (lifecycle : Lifecycle before) (starts : kept before) :
    kept after := by
  have ends := steps.leads (fun rest tables => (∀ turn ∈ rest, turn ∈ turns) ∧ kept tables) ?_
    lifecycle ⟨fun _ member => member, starts⟩
  · exact ends.2
  · intro turn rest before after sound holds effect
    refine ⟨fun next member => holds.1 next (List.mem_cons_of_mem turn member), ?_⟩
    exact round turn (holds.1 turn List.mem_cons_self) before after sound holds.2 effect

/-- When the turns begin, exit samples have been added. -/
theorem opening_samples (database : Database) (cycle : Cycle) :
    ∃ closes, (database.opening cycle).samples = database.samples ++ closes ∧
      ∀ sample ∈ closes, sample.sampleKind = .shadowExit := by
  rw [Database.opening, afterStale_samples, afterStale_samples, withStrategy_samples,
    List.append_assoc]
  refine ⟨_, rfl, ?_⟩
  intro sample member
  rcases List.mem_append.mp member with india | us
  · obtain ⟨row, -, rfl⟩ := List.mem_map.mp india
    rfl
  · obtain ⟨row, -, rfl⟩ := List.mem_map.mp us
    rfl

/-- The rows when the turns begin: each closed where it was stale. -/
theorem opening_observations (lifecycle : Lifecycle before) (cycle : Cycle) :
    (before.opening cycle).observations =
      before.observations.map (staleRow cycle .us ∘ staleRow cycle .india) := by
  obtain ⟨strategy, -⟩ := lifecycle.of_rows (withStrategy_observations before)
    (withStrategy_samples before)
  rw [Database.opening,
    afterStale_observations cycle .us (strategy.afterStale cycle .india).1.distinct,
    afterStale_observations cycle .india strategy.distinct, withStrategy_observations, List.map_map]

theorem afterCycles_concat (calls : List CycleCall) (call : CycleCall) :
    afterCycles (calls ++ [call]) = (afterCycles calls).afterCycle call := by
  rw [afterCycles, List.foldl_append]
  rfl

theorem afterCycles_sound (calls : List CycleCall) : Lifecycle (afterCycles calls) :=
  (afterCycles_lifecycle calls []).1

/-- What holds of empty tables, and is kept by every cycle whether it takes its
steps or not, holds after every serial run. -/
theorem afterCycles_induction (holds : List CycleCall → Database → Prop)
    (start : holds [] {})
    (grows : ∀ calls call after, holds calls (afterCycles calls) →
      CycleSteps call.cycle (afterCycles calls) after ∨ after = afterCycles calls →
        holds (calls ++ [call]) after)
    (calls : List CycleCall) : holds calls (afterCycles calls) := by
  induction calls using List.reverseRecOn with
  | nil => exact start
  | append_singleton calls call ih =>
    rw [afterCycles_concat]
    exact grows calls call _ ih (afterCycle_cases call (afterCycles_sound calls).distinct)

/-- Days which begin at midnight in Indian Standard and Eastern Daylight Time. -/
def summerDays : MarketDays :=
  ⟨.summer, fun market day => day * microsecondsPerDay - MarketZones.summer market 0⟩

/-- A cycle which quotes one Indian symbol. -/
def tcsCall (startedAt : ℤ) (lastPrice : ℚ) (assessment : Assessment) (observationId : String) :
    CycleCall where
  cycle :=
    { days := summerDays
      startedAt
      indiaRounds :=
        [{ symbol := "TCS"
           quote := .ok (some lastPrice, assessment)
           signalId := "signal"
           observationId
           newsBlocks := .ok false
           recordedAt := startedAt + 1
           sampledAt := startedAt + 2
           exitedAt := startedAt + 3 }] }

end Rules

section Provenance

/-- The turn opened the observation: for its symbol, at the price and with the
assessment of its quote. -/
structure OpenedIn (turn : Turn) (row : ShadowObservation) : Prop where
  market : turn.market = row.market
  symbol : turn.round.symbol = row.symbol
  id : turn.round.observationId = row.id
  openedAt : turn.round.recordedAt = row.openedAt
  quote : turn.round.quote = .ok (some row.entryPrice, row.metadataJson.entryAssessment)
  positive : 0 < row.entryPrice

variable {cycle : Cycle} {turn first : Turn} {row : ShadowObservation}

theorem OpenedIn.marked (opened : OpenedIn first row) (fxRate : ℚ) (round : SymbolRound)
    (lastPrice : ℚ) (assessment : Assessment) :
    OpenedIn first
      (row.assigned (.mark (markOf cycle fxRate round lastPrice assessment row))) :=
  ⟨opened.market, opened.symbol, opened.id, opened.openedAt, opened.quote, opened.positive⟩

theorem OpenedIn.closed (exit : Exit) (opened : OpenedIn first exit.observation) :
    OpenedIn first (exit.closed cycle) :=
  ⟨opened.market, opened.symbol, opened.id, opened.openedAt, opened.quote, opened.positive⟩

theorem OpenedIn.recorded (opened : OpenedIn first row) (samples : List ShadowTrainingSample)
    (assessment : Assessment) :
    OpenedIn first (recordedRow cycle samples row turn assessment) := by
  rw [recordedRow, recordExit]
  split
  · exact OpenedIn.closed (turnExit turn assessment row _) opened
  · exact opened

theorem OpenedIn.stale (opened : OpenedIn first row) (market : Market) :
    OpenedIn first (staleRow cycle market row) := by
  rw [staleRow]
  split
  · exact OpenedIn.closed (staleExit _ row) opened
  · exact opened

/-- Every observation was opened in a turn of the cycles. -/
def Sourced (cycles : List Cycle) (tables : Database) : Prop :=
  ∀ row ∈ tables.observations, ∃ cycle ∈ cycles, ∃ turn ∈ cycle.turns, OpenedIn turn row

theorem TurnEffect.sourced {cycles : List Cycle} {before after : Database}
    (effect : TurnEffect cycle turn before after) (isCycle : cycle ∈ cycles)
    (isTurn : turn ∈ cycle.turns) (sourced : Sourced cycles before) : Sourced cycles after := by
  intro row member
  cases effect.row member with
  | kept old => exact sourced row old
  | @opened lastPrice assessment _ quoted positive new fresh recorded =>
    subst new
    rw [recorded]
    refine ⟨cycle, isCycle, turn, isTurn, OpenedIn.recorded ?_ before.samples assessment⟩
    exact ⟨rfl, rfl, rfl, rfl, quoted, positive⟩
  | @marked _ assessment earlier _ quoted positive held isOpen market new recorded =>
    obtain ⟨source, isSource, first, isFirst, opened⟩ := sourced earlier held
    subst new
    rw [recorded]
    exact ⟨source, isSource, first, isFirst, (opened.marked ..).recorded before.samples assessment⟩

theorem Sourced.opening {cycles : List Cycle} {tables : Database} (sourced : Sourced cycles tables)
    (lifecycle : Lifecycle tables) : Sourced cycles (tables.opening cycle) := by
  intro row member
  rw [opening_observations lifecycle] at member
  obtain ⟨earlier, earlierMember, rfl⟩ := List.mem_map.mp member
  obtain ⟨source, isSource, first, isFirst, opened⟩ := sourced earlier earlierMember
  exact ⟨source, isSource, first, isFirst, (opened.stale .india).stale .us⟩

theorem Sourced.mono {cycles more : List Cycle} {tables : Database}
    (sourced : Sourced cycles tables) (subset : cycles ⊆ more) : Sourced more tables := by
  intro row member
  obtain ⟨source, isSource, found⟩ := sourced row member
  exact ⟨source, subset isSource, found⟩

theorem Sourced.cycleSteps {cycles : List Cycle} {before after : Database}
    (sourced : Sourced cycles before) (lifecycle : Lifecycle before) (isCycle : cycle ∈ cycles)
    (steps : CycleSteps cycle before after) : Sourced cycles after := by
  refine Turns.keeps (Sourced cycles) ?_ steps (lifecycle.opening cycle).1
    (sourced.opening lifecycle)
  intro turn isTurn before after _ holds effect
  exact effect.sourced isCycle isTurn holds

theorem afterCycles_sourced (calls : List CycleCall) :
    Sourced (calls.map CycleCall.cycle) (afterCycles calls) := by
  refine afterCycles_induction (fun calls => Sourced (calls.map CycleCall.cycle)) ?_ ?_ calls
  · intro row member
    cases member
  · intro calls call after holds ends
    have more : Sourced ((calls ++ [call]).map CycleCall.cycle) (afterCycles calls) :=
      holds.mono (List.map_subset _ (List.subset_append_left calls [call]))
    rcases ends with steps | same
    · exact more.cycleSteps (afterCycles_sound calls) (by simp) steps
    · rwa [same]

end Provenance
end AlphaAgent.Shadow
