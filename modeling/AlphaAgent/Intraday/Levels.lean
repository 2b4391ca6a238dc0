import AlphaAgent.Intraday.Effects
import AlphaAgent.Intraday.Rounding

/-!
# Levels of a signal

A strategy rounds the stop and the target of a signal to two digits and leaves its
entry price as it is. The levels are in order before the rounding. After it they are
in order where the unrounded levels are far enough from the entry price and the lower
one is above half a cent, and they are not where one of them is on the other side of
its half cent. How the floats of the source err beside a half cent is left open.
-/

namespace AlphaAgent.Intraday

open Paper Risk

/-- The strategies of the source. -/
inductive StrategyKind where
  | vwapTrendLong
  | vwapTrendShort
  | openingRangeBreakout (allowFirstFiveMinutes : Bool)
deriving DecidableEq

namespace StrategyKind

/-- The signals of a strategy under a rounding to two digits. -/
def generate (round : ℚ → ℚ) (text : SymbolText) : StrategyKind → IntradayStrategy
  | .vwapTrendLong => vwapTrendLongBy round text
  | .vwapTrendShort => vwapTrendShortBy round text
  | .openingRangeBreakout allowFirstFiveMinutes =>
    openingRangeBreakoutBy round text allowFirstFiveMinutes

/-- The stop of a strategy in a direction, before it is rounded. -/
def stopLevel (snapshot : MarketDataSnapshot) (direction : Direction) : StrategyKind → ℚ
  | .vwapTrendLong =>
    let vwap := snapshot.vwap.getD 0
    min vwap (((candleBeforeLast snapshot.candles1m).map Candle.low).getD vwap)
  | .vwapTrendShort =>
    let vwap := snapshot.vwap.getD 0
    max vwap (((candleBeforeLast snapshot.candles1m).map Candle.high).getD vwap)
  | .openingRangeBreakout _ =>
    let farSide := match direction with
      | .long => snapshot.openingRangeLow15m
      | .short => snapshot.openingRangeHigh15m
    (given farSide).getD ((given snapshot.vwap).getD snapshot.lastPrice)

end StrategyKind

/-- The direction in which a regime is traded. -/
def MarketRegime.direction (regime : MarketRegime) : Direction :=
  if regime.isBullish then .long else .short

theorem MarketRegime.direction_of_isBearish {regime : MarketRegime}
    (bearish : regime.isBearish = true) : regime.direction = .short := by
  cases regime <;> first | rfl | cases bearish

/-- The target at twice the distance of the stop, before it is rounded. -/
def targetLevel (price stop : ℚ) : ℚ := price + (price - stop) * 2

/-- A short signal measures the distance from the other side. -/
theorem targetLevel_eq_sub (price stop : ℚ) :
    price - (stop - price) * 2 = targetLevel price stop := by
  rw [targetLevel]
  ring

/-- What the strategies have in common: the entry price is the last price, and the
stop and the target are rounded. -/
structure Levelled (round : ℚ → ℚ) (signal : Signal) (towards : Direction) (price stop : ℚ) :
    Prop where
  direction : signal.direction = towards
  entryPrice : signal.entryPrice = price
  stopLoss : signal.stopLoss = round stop
  targetPrice : signal.targetPrice = round (targetLevel price stop)

/-- Every signal of a strategy has its levels from its stop. -/
theorem StrategyKind.generate_levelled {round : ℚ → ℚ} {text : SymbolText} {kind : StrategyKind}
    {snapshot : MarketDataSnapshot} {regime : RegimeResult} {signal : Signal}
    (generated : kind.generate round text snapshot regime = .ok (some signal)) :
    Levelled round signal regime.regime.direction snapshot.lastPrice
      (kind.stopLevel snapshot regime.regime.direction) := by
  cases kind with
  | vwapTrendLong =>
    simp only [generate, vwapTrendLongBy, Except.ok.injEq] at generated
    split at generated
    · cases generated
    · next vwap found =>
      split_ifs at generated with bearish
      rw [Bool.not_eq_true', Bool.not_eq_false] at bearish
      rw [← Option.some.inj generated, MarketRegime.direction, if_pos bearish, stopLevel, found]
      exact ⟨rfl, rfl, rfl, rfl⟩
  | vwapTrendShort =>
    simp only [generate, vwapTrendShortBy, Except.ok.injEq] at generated
    split at generated
    · cases generated
    · next vwap found =>
      split_ifs at generated with bullish
      rw [Bool.not_eq_true', Bool.not_eq_false] at bullish
      rw [← Option.some.inj generated, MarketRegime.direction_of_isBearish bullish, stopLevel,
        found]
      exact ⟨rfl, rfl, rfl, congrArg round (targetLevel_eq_sub _ _)⟩
  | openingRangeBreakout allowFirstFiveMinutes =>
    simp only [generate, openingRangeBreakoutBy, Except.ok.injEq] at generated
    split_ifs at generated with early sideways above close below near
    · rw [← Option.some.inj generated, MarketRegime.direction, if_pos above.2.1]
      exact ⟨rfl, rfl, rfl, rfl⟩
    · rw [← Option.some.inj generated, MarketRegime.direction_of_isBearish below.2.1]
      exact ⟨rfl, rfl, rfl, congrArg round (targetLevel_eq_sub _ _)⟩

/-- The levels of a signal are positive and in the order of its direction. -/
def Signal.Ordered (signal : Signal) : Prop :=
  match signal.direction with
  | .long => 0 < signal.stopLoss ∧ signal.stopLoss < signal.entryPrice ∧
      signal.entryPrice < signal.targetPrice
  | .short => 0 < signal.targetPrice ∧ signal.targetPrice < signal.entryPrice ∧
      signal.entryPrice < signal.stopLoss

/-- A level is nearer to a cent below the price than to one which is not, by more than the
slack. -/
def ClearsBelow (slack level price : ℚ) : Prop :=
  (level + slack) * 100 < (⌈price * 100⌉ : ℚ) - 1 / 2

/-- A level is nearer to a cent above the price than to one which is not. -/
def ClearsAbove (slack level price : ℚ) : Prop :=
  (⌊price * 100⌋ : ℚ) + 1 / 2 < (level - slack) * 100

/-- A level is nearer to a cent which is not below the price. -/
def MissesBelow (slack level price : ℚ) : Prop :=
  (⌈price * 100⌉ : ℚ) - 1 / 2 < (level - slack) * 100

/-- A level is nearer to a cent which is not above the price. -/
def MissesAbove (slack level price : ℚ) : Prop :=
  (level + slack) * 100 < (⌊price * 100⌋ : ℚ) + 1 / 2

/-- A stop is so far from the entry price that the rounding keeps the levels in order,
and no level is as low as half a cent. -/
def StopClears (slack : ℚ) (direction : Direction) (entryPrice stop : ℚ) : Prop :=
  let target := targetLevel entryPrice stop
  match direction with
  | .long => ClearsAbove slack stop 0 ∧ ClearsBelow slack stop entryPrice ∧
      ClearsAbove slack target entryPrice
  | .short => ClearsAbove slack target 0 ∧ ClearsBelow slack target entryPrice ∧
      ClearsAbove slack stop entryPrice

/-- A level is on the other side of its half cent. -/
def StopMisses (slack : ℚ) (direction : Direction) (entryPrice stop : ℚ) : Prop :=
  let target := targetLevel entryPrice stop
  match direction with
  | .long => MissesAbove slack stop 0 ∨ MissesBelow slack stop entryPrice ∨
      MissesAbove slack target entryPrice
  | .short => MissesAbove slack target 0 ∨ MissesBelow slack target entryPrice ∨
      MissesAbove slack stop entryPrice

/-- The level is further than the slack from every half cent. -/
def Untied (slack level : ℚ) : Prop :=
  ∀ count : ℤ, slack * 100 < |level * 100 - (count + 1 / 2)|

theorem Untied.below {slack level : ℚ} (untied : Untied slack level) (price : ℚ) :
    ClearsBelow slack level price ∨ MissesBelow slack level price := by
  have half := untied (⌈price * 100⌉ - 1)
  push_cast at half
  unfold ClearsBelow MissesBelow
  rcases lt_abs.mp half with beyond | short
  · right
    linarith
  · left
    linarith

theorem Untied.above {slack level : ℚ} (untied : Untied slack level) (price : ℚ) :
    ClearsAbove slack level price ∨ MissesAbove slack level price := by
  have half := untied ⌊price * 100⌋
  unfold ClearsAbove MissesAbove
  rcases lt_abs.mp half with beyond | short
  · left
    linarith
  · right
    linarith

/-- A stop clears or misses where neither it nor its target is beside a half cent. -/
theorem stopClears_or_stopMisses {slack : ℚ} (direction : Direction) {entryPrice stop : ℚ}
    (stopUntied : Untied slack stop) (targetUntied : Untied slack (targetLevel entryPrice stop)) :
    StopClears slack direction entryPrice stop ∨ StopMisses slack direction entryPrice stop := by
  cases direction with
  | long =>
    rcases stopUntied.above 0 with positive | short
    · rcases stopUntied.below entryPrice with below | beyond
      · rcases targetUntied.above entryPrice with above | short
        · exact .inl ⟨positive, below, above⟩
        · exact .inr (.inr (.inr short))
      · exact .inr (.inr (.inl beyond))
    · exact .inr (.inl short)
  | short =>
    rcases targetUntied.above 0 with positive | short
    · rcases targetUntied.below entryPrice with below | beyond
      · rcases stopUntied.above entryPrice with above | short
        · exact .inl ⟨positive, below, above⟩
        · exact .inr (.inr (.inr short))
      · exact .inr (.inr (.inl beyond))
    · exact .inr (.inl short)

section Ordered

variable {slack : ℚ} {round : ℚ → ℚ} (rounds : RoundsToCents slack round) {signal : Signal}
  {direction : Direction} {price stop : ℚ} (levels : Levelled round signal direction price stop)
include rounds levels

theorem Levelled.ordered (clears : StopClears slack direction price stop) : signal.Ordered := by
  unfold Signal.Ordered
  rw [levels.direction, levels.entryPrice, levels.stopLoss, levels.targetPrice]
  cases direction with
  | long =>
    obtain ⟨positive, below, above⟩ := clears
    exact ⟨rounds.lt_of_above positive, rounds.lt_of_below below, rounds.lt_of_above above⟩
  | short =>
    obtain ⟨positive, below, above⟩ := clears
    exact ⟨rounds.lt_of_above positive, rounds.lt_of_below below, rounds.lt_of_above above⟩

theorem Levelled.not_ordered (misses : StopMisses slack direction price stop) :
    ¬signal.Ordered := by
  unfold Signal.Ordered
  rw [levels.direction, levels.entryPrice, levels.stopLoss, levels.targetPrice]
  cases direction with
  | long =>
    rintro ⟨positive, below, above⟩
    rcases misses with short | beyond | short
    · exact absurd positive (not_lt.mpr (rounds.le_of_notAbove short))
    · exact absurd below (not_lt.mpr (rounds.le_of_notBelow beyond))
    · exact absurd above (not_lt.mpr (rounds.le_of_notAbove short))
  | short =>
    rintro ⟨positive, below, above⟩
    rcases misses with short | beyond | short
    · exact absurd positive (not_lt.mpr (rounds.le_of_notAbove short))
    · exact absurd below (not_lt.mpr (rounds.le_of_notBelow beyond))
    · exact absurd above (not_lt.mpr (rounds.le_of_notAbove short))

end Ordered

/-- The levels of a signal of any of the strategies are in order where its stop clears its
entry price; and unless the stop or the target is beside a half cent, they are in order only
there. -/
theorem StrategyKind.generate_ordered {slack : ℚ} {round : ℚ → ℚ}
    (rounds : RoundsToCents slack round) {text : SymbolText} {kind : StrategyKind}
    {snapshot : MarketDataSnapshot} {regime : RegimeResult} {signal : Signal}
    (generated : kind.generate round text snapshot regime = .ok (some signal)) :
    let direction := regime.regime.direction
    let stop := kind.stopLevel snapshot direction
    (StopClears slack direction snapshot.lastPrice stop → signal.Ordered) ∧
      (Untied slack stop → Untied slack (targetLevel snapshot.lastPrice stop) →
        (signal.Ordered ↔ StopClears slack direction snapshot.lastPrice stop)) := by
  have levels := generate_levelled generated
  refine ⟨levels.ordered rounds, fun stopUntied targetUntied => ⟨?_, levels.ordered rounds⟩⟩
  intro ordered
  rcases stopClears_or_stopMisses regime.regime.direction stopUntied targetUntied
    with clears | misses
  · exact clears
  · exact absurd ordered (levels.not_ordered rounds misses)

/-- What the VWAP strategy signals on the sample snapshot. -/
def relianceSignal : Signal where
  symbol := "RELIANCE"
  market := .india
  direction := .long
  strategyName := "VWAP_TREND_LONG"
  regimeAtSignal := .strongBullish
  entryPrice := 104
  stopLoss := 1025 / 10
  targetPrice := 107
  riskRewardRatio := 2
  confidenceScore := 72 / 100
  reasonCodes := ["bullish_regime", "price_above_vwap", "higher_high_higher_low",
    "volume_confirmation", "pullback_near_vwap"]
  timestamp := relianceSnapshot.timestamp
  candleSnapshot := relianceCandles.getLast?
  marketSnapshot := ⟨relianceSnapshot.spreadPct, []⟩

/-- The stop of the sample clears its price by far more than a float errs. -/
theorem StrategyKind.generate_ordered_reliance :
    StopClears (1 / 1000000) .long 104 (vwapTrendLong.stopLevel relianceSnapshot .long) ∧
      relianceSignal.Ordered := by
  have rounds : RoundsToCents (1 / 1000000) (roundTo 2) := roundsToCents_roundTo (by norm_num)
  have generated : vwapTrendLong.generate (roundTo 2) .plain relianceSnapshot
      ⟨.strongBullish, []⟩ = .ok (some relianceSignal) := by decide +kernel
  have clears : StopClears (1 / 1000000) .long 104
      (vwapTrendLong.stopLevel relianceSnapshot .long) := by
    have stop : vwapTrendLong.stopLevel relianceSnapshot .long = 1025 / 10 := by decide +kernel
    rw [stop]
    refine ⟨?_, ?_, ?_⟩
    · norm_num [ClearsAbove]
    · norm_num [ClearsBelow]
    · norm_num [ClearsAbove, targetLevel]
  exact ⟨clears, (generate_ordered rounds generated).1 clears⟩

/-- At a price of 102.4988, with the VWAP at 102.4961, the stop and the target are both
rounded to 102.50, above the price. -/
theorem StrategyKind.generate_unordered : ¬ ∀ (text : SymbolText) (kind : StrategyKind)
    (snapshot : MarketDataSnapshot) (regime : RegimeResult) (signal : Signal),
    kind.generate (roundTo 2) text snapshot regime = .ok (some signal) → signal.Ordered := by
  intro ordered
  have generated : vwapTrendLong.generate (roundTo 2) .plain
      { relianceSnapshot with
        lastPrice := 1024988 / 10000
        vwap := some (1024961 / 10000)
        bid := none }
      ⟨.strongBullish, []⟩ =
      .ok (some { relianceSignal with
        entryPrice := 1024988 / 10000
        stopLoss := 1025 / 10
        targetPrice := 1025 / 10
        riskRewardRatio := 1
        marketSnapshot := {} }) := by decide +kernel
  have below : (1025 / 10 : ℚ) < 1024988 / 10000 := (ordered _ _ _ _ _ generated).2.1
  norm_num at below

end AlphaAgent.Intraday
