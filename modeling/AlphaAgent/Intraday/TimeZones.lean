import AlphaAgent.Core.MarketTime
import AlphaAgent.Intraday.ExitManager

/-!
# Time-zone labels and the intraday rules

Both rules compare a configured wall-clock time with the time of day which a
datetime shows under its own label. Two labels of one instant are told apart
exactly when the clock decides and the labels show times on different sides.
-/

namespace AlphaAgent.Intraday

open Paper

/-- Both datetimes show a time of day on the same side of the given one. -/
def SameSide (first second : DateTime) (time : ℤ) : Prop := time ≤ first.time ↔ time ≤ second.time

/-- A signal whose timestamp is compared as an instant. -/
def Signal.atInstant (signal : Signal) : Signal :=
  { signal with timestamp := .utc signal.timestamp.instant }

/-- A snapshot with another timestamp. -/
def MarketDataSnapshot.stamped (snapshot : MarketDataSnapshot) (timestamp : DateTime) :
    MarketDataSnapshot := { snapshot with timestamp }

section Exit

variable {config : IntradayShadowConfig} {position : VirtualPosition}
  {snapshot : MarketDataSnapshot} {currentRegime : MarketRegime}

/-- Where a rule fires, or the force close time is no time, the clock does not decide. -/
theorem evaluate_clockless (label other : DateTime)
    (clockless : ruleExit position snapshot currentRegime = none →
      ∀ cutoff, parseTime config.forceCloseTime ≠ .ok cutoff) :
    ExitManager.evaluate config position snapshot currentRegime (some label) =
      ExitManager.evaluate config position snapshot currentRegime (some other) := by
  unfold ExitManager.evaluate
  cases rule : ruleExit position snapshot currentRegime with
  | some decision => rfl
  | none =>
    cases parsed : parseTime config.forceCloseTime with
    | error raised => rfl
    | ok cutoff => exact absurd parsed (clockless rule cutoff)

/-- Where no rule fires, the clock decides. -/
theorem evaluate_clock {cutoff : ℤ} (label : DateTime)
    (rule : ruleExit position snapshot currentRegime = none)
    (parsed : parseTime config.forceCloseTime = .ok cutoff) :
    ExitManager.evaluate config position snapshot currentRegime (some label) =
      .ok (if cutoff ≤ label.time then ⟨true, "END_OF_DAY", some snapshot.lastPrice⟩
        else { shouldExit := false }) := by
  unfold ExitManager.evaluate
  rw [rule, parsed]
  change (if cutoff ≤ label.time then _ else _) = _
  split <;> rfl

/-- The exit of a snapshot is the exit at its timestamp. -/
theorem evaluate_stamped (label : DateTime) :
    ExitManager.evaluate config position (snapshot.stamped label) currentRegime =
      ExitManager.evaluate config position snapshot currentRegime (some label) := rfl

/-- Two readings give one exit exactly when they are on one side of the force
close time wherever the clock decides. -/
theorem evaluate_eq_iff (first second : DateTime) :
    ExitManager.evaluate config position snapshot currentRegime (some first) =
        ExitManager.evaluate config position snapshot currentRegime (some second) ↔
      (ruleExit position snapshot currentRegime = none →
        ∀ cutoff, parseTime config.forceCloseTime = .ok cutoff → SameSide first second cutoff) := by
  by_cases clock : ∃ cutoff, ruleExit position snapshot currentRegime = none ∧
      parseTime config.forceCloseTime = .ok cutoff
  · obtain ⟨cutoff, rule, parsed⟩ := clock
    rw [evaluate_clock first rule parsed, evaluate_clock second rule parsed, parsed]
    have sides : (∀ other, Except.ok (ε := RaisedError) cutoff = .ok other →
        SameSide first second other) ↔ SameSide first second cutoff := by
      constructor
      · intro all
        exact all cutoff rfl
      · rintro side other ⟨⟩
        exact side
    rw [forall_prop_of_true rule, sides, SameSide, Except.ok.injEq]
    by_cases left : cutoff ≤ first.time <;> by_cases right : cutoff ≤ second.time <;>
      simp [left, right]
  · push Not at clock
    refine iff_of_true (evaluate_clockless first second fun rule cutoff => clock cutoff rule) ?_
    intro rule cutoff parsed
    exact absurd parsed (clock cutoff rule)

end Exit

section Breakout

variable {text : SymbolText} {allowFirstFiveMinutes : Bool} {snapshot : MarketDataSnapshot}
  {regime : RegimeResult}

/-- A breakout signal, with its timestamp compared as an instant. -/
def breakoutAt (text : SymbolText) (allowFirstFiveMinutes : Bool) (snapshot : MarketDataSnapshot)
    (regime : RegimeResult) (label : DateTime) : Except RaisedError (Option Signal) :=
  (openingRangeBreakout text allowFirstFiveMinutes (snapshot.stamped label) regime).map
    (·.map Signal.atInstant)

/-- With the first five minutes allowed, only the instant of the timestamp shows. -/
theorem breakoutAt_allowed (first second : DateTime) (same : first.instant = second.instant) :
    breakoutAt text true snapshot regime first = breakoutAt text true snapshot regime second := by
  have stamps : DateTime.utc first.instant = DateTime.utc second.instant := by rw [same]
  unfold breakoutAt openingRangeBreakout openingRangeBreakoutBy MarketDataSnapshot.stamped
  simp only [not_true, false_and, if_false]
  split_ifs <;> simp [Except.map, Signal.atInstant, Signal.create, stamps,
    MarketDataSnapshot.spreadPct]

/-- Without them, the clock can only take a signal away. -/
theorem breakoutAt_clock (label : DateTime) :
    breakoutAt text false snapshot regime label =
      if label.time < timeOfDay 9 20 then .ok none
      else breakoutAt text true snapshot regime label := by
  unfold breakoutAt openingRangeBreakout openingRangeBreakoutBy
  simp only [Bool.false_eq_true, not_false_eq_true, true_and, not_true, false_and, if_false]
  change Except.map _ (.ok (if label.time < timeOfDay 9 20 then _ else _)) = _
  split <;> rfl

/-- Whether there is a breakout to signal does not depend on the timestamp. -/
theorem breakoutAt_none (label : DateTime) :
    breakoutAt text true snapshot regime label = .ok none ↔
      openingRangeBreakout text true snapshot regime = .ok none := by
  unfold breakoutAt openingRangeBreakout openingRangeBreakoutBy MarketDataSnapshot.stamped
  simp only [not_true, false_and, if_false]
  split_ifs <;> simp [Except.map]

/-- Two labels of one instant give one breakout exactly when they are on one side
of 09:20 wherever there is a breakout and the clock decides. -/
theorem breakoutAt_eq_iff {first second : DateTime} (same : first.instant = second.instant) :
    breakoutAt text allowFirstFiveMinutes snapshot regime first =
        breakoutAt text allowFirstFiveMinutes snapshot regime second ↔
      (allowFirstFiveMinutes = false → openingRangeBreakout text true snapshot regime ≠ .ok none →
        SameSide first second (timeOfDay 9 20)) := by
  cases allowFirstFiveMinutes with
  | true =>
    refine iff_of_true (breakoutAt_allowed first second same) ?_
    rintro ⟨⟩
  | false =>
    have alike : breakoutAt text true snapshot regime first =
        breakoutAt text true snapshot regime second := breakoutAt_allowed first second same
    rw [breakoutAt_clock, breakoutAt_clock, forall_prop_of_true rfl, ne_eq,
      ← breakoutAt_none second, SameSide, ← not_lt, ← not_lt, not_iff_not, alike]
    by_cases left : first.time < timeOfDay 9 20 <;>
      by_cases right : second.time < timeOfDay 9 20 <;> simp [left, right, eq_comm]

end Breakout

section Labels

variable (zones : MarketZones) (text : SymbolText) (allowFirstFiveMinutes : Bool)
  (config : IntradayShadowConfig) (position : VirtualPosition) (snapshot : MarketDataSnapshot)
  (regime : RegimeResult) (first second : DateTime)

/-- The rules do not see under which of two labels an instant is written, and a
position is always closed from the market's force close time on. -/
structure LabelFree : Prop where
  exitNow : ExitManager.evaluate config position snapshot regime.regime (some first) =
    ExitManager.evaluate config position snapshot regime.regime (some second)
  exitTimestamp : ExitManager.evaluate config position (snapshot.stamped first) regime.regime =
    ExitManager.evaluate config position (snapshot.stamped second) regime.regime
  breakout : breakoutAt text allowFirstFiveMinutes snapshot regime first =
    breakoutAt text allowFirstFiveMinutes snapshot regime second
  forceClosed : ∀ cutoff, parseTime config.forceCloseTime = .ok cutoff →
    cutoff ≤ zones.localTime position.market first.instant →
    ∃ decision, ExitManager.evaluate config position snapshot regime.regime (some first) =
      .ok decision ∧ decision.shouldExit = true

/-- Where the clock decides, the labels show times on one side of it, and the
first one has reached the force close time once the market has. -/
structure ReadAlike : Prop where
  exit : ruleExit position snapshot regime.regime = none →
    ∀ cutoff, parseTime config.forceCloseTime = .ok cutoff → SameSide first second cutoff
  breakout : allowFirstFiveMinutes = false →
    openingRangeBreakout text true snapshot regime ≠ .ok none →
    SameSide first second (timeOfDay 9 20)
  forceClosed : ruleExit position snapshot regime.regime = none →
    ∀ cutoff, parseTime config.forceCloseTime = .ok cutoff →
    cutoff ≤ zones.localTime position.market first.instant → cutoff ≤ first.time

/-- A decision at or after the force close time is an exit exactly when a rule
fires or the label shows that time. -/
theorem evaluate_shouldExit_iff {cutoff : ℤ}
    (parsed : parseTime config.forceCloseTime = .ok cutoff) :
    (∃ decision, ExitManager.evaluate config position snapshot regime.regime (some first) =
        .ok decision ∧ decision.shouldExit = true) ↔
      (ruleExit position snapshot regime.regime = none → cutoff ≤ first.time) := by
  cases rule : ruleExit position snapshot regime.regime with
  | some decision =>
    refine iff_of_true ⟨decision, ?_, ruleExit_shouldExit rule⟩ ?_
    · unfold ExitManager.evaluate
      rw [rule]
    · rintro ⟨⟩
  | none =>
    rw [evaluate_clock first rule parsed, forall_prop_of_true rfl]
    by_cases reached : cutoff ≤ first.time <;> simp [reached]

/-- The rules are free of the labels of one instant exactly when they read them alike. -/
theorem labelFree_iff (same : first.instant = second.instant) :
    LabelFree zones text allowFirstFiveMinutes config position snapshot regime first second ↔
      ReadAlike zones text allowFirstFiveMinutes config position snapshot regime first second := by
  constructor
  · intro free
    refine ⟨(evaluate_eq_iff first second).mp free.exitNow,
      (breakoutAt_eq_iff same).mp free.breakout, ?_⟩
    intro rule cutoff parsed reached
    exact (evaluate_shouldExit_iff config position snapshot regime first parsed).mp
      (free.forceClosed cutoff parsed reached) rule
  · intro alike
    have exits := (evaluate_eq_iff first second).mpr alike.exit
    refine ⟨exits, ?_, (breakoutAt_eq_iff same).mpr alike.breakout, ?_⟩
    · rw [evaluate_stamped, evaluate_stamped]
      exact exits
    · intro cutoff parsed reached
      exact (evaluate_shouldExit_iff config position snapshot regime first parsed).mpr
        fun rule => alike.forceClosed rule cutoff parsed reached

end Labels

/-- A long position which the snapshot calls no exit for. -/
def heldPosition : VirtualPosition where
  symbol := "RELIANCE"
  market := .india
  direction := .long
  strategy := "VWAP_TREND_LONG"
  regimeAtEntry := .strongBullish
  entryPrice := 104
  stopLoss := 102
  targetPrice := 108
  quantity := 100
  riskAmount := 200
  status := .open
  entryReason := []
  openedAt := .utc 1778664602000000
  currentPrice := 104

def risingSnapshot : MarketDataSnapshot where
  market := .india
  symbol := "RELIANCE"
  timestamp := .utc 1778665800000000
  lastPrice := 104
  vwap := some 103
  volume := 100000

/-- 09:50 UTC on 2026-05-13. -/
def inUtc : DateTime := .utc 1778665800000000

/-- The same instant on an Indian clock, where it is 15:20. -/
def inIst : DateTime := ⟨1778685600000000, some 19800000000⟩

theorem labelFree_iff_forceClose :
    inUtc.instant = inIst.instant ∧
      (LabelFree .summer .plain false {} heldPosition risingSnapshot ⟨.strongBullish, []⟩ inUtc
          inIst ↔
        ReadAlike .summer .plain false {} heldPosition risingSnapshot ⟨.strongBullish, []⟩ inUtc
          inIst) :=
  ⟨by decide, labelFree_iff _ _ _ _ _ _ _ _ _ (by decide)⟩

/-- Written in UTC, the force close time of the Indian market passes unseen. -/
theorem forceClose_label :
    inUtc.isAware = true ∧ inIst.isAware = true ∧ inUtc.instant = inIst.instant ∧
      ¬LabelFree .summer .plain false {} heldPosition risingSnapshot ⟨.strongBullish, []⟩ inUtc
        inIst := by
  refine ⟨rfl, rfl, by decide, ?_⟩
  intro free
  exact absurd free.exitNow (by decide +kernel)

end AlphaAgent.Intraday
