import AlphaAgent.Core.MarketTime
import AlphaAgent.Intraday.OpenPositions

/-!
# Trades, losses and losing streaks of a day

The risk manager and the kill switch compare the counters of a risk state with
their limits. A call without a risk state makes a fresh one whose counters are
zero, and nothing ever counts. So the limits of a day are kept exactly when the
trades which pass under zero counters keep them by themselves.
-/

namespace AlphaAgent.Intraday

open Foundation

namespace VirtualPosition

variable (zones : MarketZones) (position : VirtualPosition)

/-- The market-local day on which a position was opened. -/
def openedDay : Day := zones.localDay position.market position.openedAt.instant

/-- The market-local day on which a position was closed, if it was. -/
def closedDay : Option Day :=
  position.closedAt.map fun timestamp => zones.localDay position.market timestamp.instant

end VirtualPosition

section Days

variable (zones : MarketZones) (day : Day)

/-- How many positions were opened on a day. -/
def openedOn (positions : List VirtualPosition) : ℕ :=
  (positions.map (VirtualPosition.openedDay zones)).count day

@[simp] theorem openedOn_append (first second : List VirtualPosition) :
    openedOn zones day (first ++ second) =
      openedOn zones day first + openedOn zones day second := by
  rw [openedOn, List.map_append, List.count_append]
  rfl

/-- The net PnL of the positions closed on a day. -/
def closedPnl (positions : List VirtualPosition) : ℚ :=
  ((positions.filter fun position => position.closedDay zones = some day).map
    VirtualPosition.netPnl).sum

/-- A change which keeps the opening day of each position keeps the counts. -/
theorem openedOn_modify (positions : List VirtualPosition) (place : ℕ)
    {change : VirtualPosition → VirtualPosition}
    (keeps : ∀ position, (change position).openedDay zones = position.openedDay zones) :
    openedOn zones day (positions.modify place change) = openedOn zones day positions := by
  have same : (positions.modify place change).map (VirtualPosition.openedDay zones) =
      positions.map (VirtualPosition.openedDay zones) := by
    ext1 other
    rw [List.getElem?_map, List.getElem?_map, List.getElem?_modify]
    cases positions[other]? with
    | none => rfl
    | some position =>
      by_cases here : place = other
      · simp [here, keeps]
      · simp [here]
  rw [openedOn, same]
  rfl

end Days

/-- A run of closes, the last one first, begins with this many losses. -/
def LosingStreak (length : ℕ) (closes : List ℚ) : Prop :=
  length ≤ closes.length ∧ ∀ pnl ∈ closes.take length, pnl < 0

/-- A pipeline with the net PnL of every close made on it, the last one first. -/
structure TrackedPipeline where
  pipeline : IntradayShadowPipeline := {}
  closes : List ℚ := []
deriving DecidableEq

/-- A snapshot processed without an explicit risk state, or a close. -/
inductive TrackedCall where
  | process (call : SnapshotCall)
  | close (place : ℕ) (exitPrice : ℚ) (exitReason : String) (timestamp : DateTime)

/-- The call made without an explicit risk state. -/
def SnapshotCall.stateless (call : SnapshotCall) : SnapshotCall := { call with riskState := none }

def TrackedPipeline.call (settings : PipelineSettings) (tracked : TrackedPipeline) :
    TrackedCall → TrackedPipeline
  | .process call =>
    { tracked with pipeline := tracked.pipeline.call settings (.process call.stateless) }
  | .close place exitPrice exitReason timestamp =>
    { pipeline := tracked.pipeline.call settings (.close place exitPrice exitReason timestamp)
      closes := (tracked.pipeline.positions[place]?.toList.map fun position =>
        (position.closedAs exitPrice exitReason timestamp).netPnl) ++ tracked.closes }

section Discipline

variable (settings : PipelineSettings) (zones : MarketZones)

/-- No day has more trades than allowed. -/
def TradesWithin (tracked : TrackedPipeline) : Prop :=
  ∀ day, openedOn zones day tracked.pipeline.positions ≤ settings.config.maxTradesPerDay

/-- What a call opens, it opens on a day whose closes have not lost the limit,
and not after a losing streak of the limit's length. -/
def OpensUnharmed (tracked : TrackedPipeline) (call : TrackedCall) : Prop :=
  ∀ snapshot, call = .process snapshot →
    ∀ position ∈ newPositions settings tracked.pipeline snapshot.stateless,
      -settings.config.capital * settings.config.maxDailyLossPercent <
          closedPnl zones (position.openedDay zones) tracked.pipeline.positions ∧
        ¬LosingStreak settings.config.maxConsecutiveLosses tracked.closes

/-- Daily discipline over a run. -/
structure Disciplined (calls : List TrackedCall) : Prop where
  trades : Throughout (TrackedPipeline.call settings) (TradesWithin settings zones) {} calls
  opens : AtEachCall (TrackedPipeline.call settings) (OpensUnharmed settings zones) {} calls

/-- The trades which pass under zero counters fit into the trades left for their
day, whose closes have not lost the limit, and follow no losing streak. -/
structure PassesDisciplined (tracked : TrackedPipeline) (snapshot : SnapshotCall) : Prop where
  trades : ∀ day, openedOn zones day tracked.pipeline.positions +
      openedOn zones day (passing settings tracked.pipeline snapshot.stateless) ≤
    settings.config.maxTradesPerDay
  losses : ∀ position ∈ passing settings tracked.pipeline snapshot.stateless,
    -settings.config.capital * settings.config.maxDailyLossPercent <
      closedPnl zones (position.openedDay zones) tracked.pipeline.positions
  streak : passing settings tracked.pipeline snapshot.stateless ≠ [] →
    ¬LosingStreak settings.config.maxConsecutiveLosses tracked.closes

def KeepsDiscipline (tracked : TrackedPipeline) (call : TrackedCall) : Prop :=
  ∀ snapshot, call = .process snapshot → PassesDisciplined settings zones tracked snapshot

/-- One call keeps the trades of each day within the limit exactly when what
passes in it fits. -/
theorem call_tradesWithin (tracked : TrackedPipeline) (call : TrackedCall)
    (within : TradesWithin settings zones tracked) :
    TradesWithin settings zones (tracked.call settings call) ↔
      ∀ snapshot, call = .process snapshot → ∀ day,
        openedOn zones day tracked.pipeline.positions +
            openedOn zones day (passing settings tracked.pipeline snapshot.stateless) ≤
          settings.config.maxTradesPerDay := by
  cases call with
  | close place exitPrice exitReason timestamp =>
    refine iff_of_true ?_ fun snapshot processes => nomatch processes
    intro day
    have kept := openedOn_modify zones day tracked.pipeline.positions place
      fun position => show (position.closedAs exitPrice exitReason timestamp).openedDay zones =
        position.openedDay zones from rfl
    rw [TrackedPipeline.call, IntradayShadowPipeline.call, VirtualPositionManager.closePosition,
      withPositions_update, kept]
    exact within day
  | process snapshot =>
    have moved : ∀ day, openedOn zones day
        (tracked.call settings (.process snapshot)).pipeline.positions =
          openedOn zones day tracked.pipeline.positions +
            openedOn zones day (passing settings tracked.pipeline snapshot.stateless) := by
      intro day
      rw [TrackedPipeline.call, call_process_positions, openedOn_append]
    constructor
    · rintro fits other ⟨⟩ day
      exact moved day ▸ fits day
    · intro fits day
      rw [moved day]
      exact fits snapshot rfl day

/-- Over any run, the discipline is kept exactly when in each call the trades
which pass under zero counters keep it. -/
theorem disciplined_iff (calls : List TrackedCall) :
    Disciplined settings zones calls ↔
      AtEachCall (TrackedPipeline.call settings) (KeepsDiscipline settings zones) {} calls := by
  have split : Disciplined settings zones calls ↔
      Throughout (TrackedPipeline.call settings) (TradesWithin settings zones) {} calls ∧
        AtEachCall (TrackedPipeline.call settings) (OpensUnharmed settings zones) {} calls :=
    ⟨fun disciplined => ⟨disciplined.trades, disciplined.opens⟩, fun both => ⟨both.1, both.2⟩⟩
  have initially : TradesWithin settings zones {} := fun day => Nat.zero_le _
  rw [split, throughout_iff (call_tradesWithin settings zones) initially, ← atEachCall_and]
  apply atEachCall_congr
  intro tracked call
  constructor
  · rintro ⟨trades, opens⟩ snapshot processes
    have unharmed := opens snapshot processes
    rw [newPositions_eq] at unharmed
    refine ⟨trades snapshot processes, fun position member => (unharmed position member).1, ?_⟩
    intro some
    obtain ⟨position, member⟩ := List.exists_mem_of_ne_nil _ some
    exact (unharmed position member).2
  · intro keeps
    constructor
    · intro snapshot processes
      exact (keeps snapshot processes).trades
    · intro snapshot processes position member
      rw [newPositions_eq] at member
      have passes := keeps snapshot processes
      exact ⟨passes.losses position member, passes.streak (List.ne_nil_of_mem member)⟩

/-- Two trades, closed within a second at a loss of about 14 for each unit, and
the same snapshot once more. -/
def losingCalls : List TrackedCall :=
  [.process relianceCall,
    .close 0 90 "STOP_LOSS" (.utc 1778664603000000),
    .close 1 90 "STOP_LOSS" (.utc 1778664603000000),
    .process { relianceCall with
      checkedAt := 1778664604000000
      orderedAt := fun _ => 1778664605000000 }]

/-- Under the default limits of three trades and one percent, four trades are
opened on one day, two of them after the loss limit. -/
theorem disciplined_broken : ¬Disciplined defaultSettings .summer losingCalls := by
  intro disciplined
  obtain ⟨-, -, -, -, within⟩ := disciplined.trades
  exact absurd (within 20586) (by decide +kernel)

end Discipline
end AlphaAgent.Intraday
