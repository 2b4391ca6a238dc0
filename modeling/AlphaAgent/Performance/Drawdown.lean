import AlphaAgent.Backtesting.Engine
import AlphaAgent.Foundation.Peaks
import AlphaAgent.Intraday.DailyReport
import Mathlib.Algebra.Order.Group.MinMax

/-!
# Drawdowns

Both drawdown scans keep a running peak. That of the daily review is over sums of net
results, from zero on, and that of a backtest over the equity of each point, relative to
the peak. Each finds the deepest fall of its series.
-/

namespace AlphaAgent

open Foundation Intraday Backtesting

section DailyReview

open DailyReviewEngine

/-- The sums of the first results, from none to all of them. -/
def prefixSums (pnls : List ℚ) : List ℚ :=
  (List.range (pnls.length + 1)).map fun k => (pnls.take k).sum

theorem prefixSums_append (pnls : List ℚ) (pnl : ℚ) :
    prefixSums (pnls ++ [pnl]) = prefixSums pnls ++ [pnls.sum + pnl] := by
  rw [prefixSums, List.length_append, List.length_singleton, List.range_succ, List.map_append]
  congr 1
  · apply List.map_congr_left
    intro k before
    rw [List.take_append_of_le_length (by simpa [Nat.lt_succ_iff] using before)]
  · simp [List.take_of_length_le]

theorem getElem?_prefixSums {pnls : List ℚ} {k : ℕ} {sum : ℚ} :
    (prefixSums pnls)[k]? = some sum ↔ k ≤ pnls.length ∧ (pnls.take k).sum = sum := by
  simp only [prefixSums, List.getElem?_eq_some_iff, List.getElem_map, List.getElem_range,
    List.length_map, List.length_range, Nat.lt_add_one_iff, exists_prop]

/-- After any results the scan holds their sum, the peak of the sums so far and, negated,
their deepest fall. -/
theorem tracks_scan (pnls : List ℚ) :
    (pnls.foldl DrawdownScan.next {}).equity = pnls.sum ∧
      TracksFalls (fun high low => high - low) (prefixSums pnls)
        (pnls.foldl DrawdownScan.next {}).peak
        (-(pnls.foldl DrawdownScan.next {}).maxDrawdown) := by
  induction pnls using List.reverseRecOn with
  | nil =>
    have first : TracksFalls (fun high low : ℚ => high - low) [0] 0 (0 - 0) := .single 0
    exact ⟨rfl, by simpa [prefixSums] using first⟩
  | append_singleton pnls pnl ih =>
    obtain ⟨equity, tracks⟩ := ih
    rw [List.foldl_concat, prefixSums_append]
    refine ⟨by simp [DrawdownScan.next, equity], ?_⟩
    have next := tracks.next (pnls.sum + pnl)
    simp only [DrawdownScan.next, equity]
    rwa [← max_neg_neg, neg_sub]

/-- The levels of the series are the sums of the first results. -/
theorem pairs_prefixSums (pnls : List ℚ) :
    {depth | ∃ (i j : ℕ) (high low : ℚ), i ≤ j ∧ (prefixSums pnls)[i]? = some high ∧
        (prefixSums pnls)[j]? = some low ∧ depth = high - low} =
      {fall | ∃ i j : ℕ, i ≤ j ∧ j ≤ pnls.length ∧
        fall = (pnls.take i).sum - (pnls.take j).sum} := by
  ext fall
  constructor
  · rintro ⟨i, j, high, low, ordered, at_i, at_j, rfl⟩
    obtain ⟨-, rfl⟩ := getElem?_prefixSums.mp at_i
    obtain ⟨within, rfl⟩ := getElem?_prefixSums.mp at_j
    exact ⟨i, j, ordered, within, rfl⟩
  · rintro ⟨i, j, ordered, within, rfl⟩
    exact ⟨i, j, _, _, ordered, getElem?_prefixSums.mpr ⟨ordered.trans within, rfl⟩,
      getElem?_prefixSums.mpr ⟨within, rfl⟩, rfl⟩

/-- `_max_drawdown` is the deepest fall from a sum to the same or a later one. -/
theorem isGreatest_maxDrawdown (pnls : List ℚ) :
    IsGreatest {fall | ∃ i j : ℕ, i ≤ j ∧ j ≤ pnls.length ∧
      fall = (pnls.take i).sum - (pnls.take j).sum} (maxDrawdown pnls) := by
  have deepest := (tracks_scan pnls).2.deepest
  obtain ⟨peak, -, level, -, below, depth⟩ := exists_of_mem_falls _ deepest.1
  rw [maxDrawdown, abs_of_nonpos (by linarith), ← pairs_prefixSums]
  apply isGreatest_pairs _ deepest
  intro level _ _ higher
  exact sub_le_sub_right higher level

end DailyReview

section Backtest

/-- How far the equity lies below the peak, as a share of the peak. -/
def relativeFall (peak equity : ℚ) : ℚ := (peak - equity) / peak

variable {curve : List EquityCurvePoint}

/-- A step from a positive peak to a positive point. -/
theorem scanDrawdown_of_pos {peak : ℚ} (positive : 0 < peak) (deepest : ℚ)
    (point : EquityCurvePoint) :
    scanDrawdown (some peak, -deepest) point =
      (some (max peak point.equity),
        -max deepest (relativeFall (max peak point.equity) point.equity)) := by
  have higher : max peak point.equity > 0 := lt_max_of_lt_left positive
  rw [scanDrawdown, if_pos higher, relativeFall, ← min_neg_neg, ← neg_div, neg_sub]

/-- The first point is its own peak. -/
theorem scanDrawdown_first (point : EquityCurvePoint) :
    scanDrawdown (none, 0) point =
      (some point.equity, -relativeFall point.equity point.equity) := by
  simp [scanDrawdown, relativeFall]

/-- After points of positive equity the scan holds the largest equity so far and, negated,
the deepest relative fall. -/
theorem tracks_scanDrawdown (positive : ∀ point ∈ curve, 0 < point.equity) (nonempty : curve ≠ []) :
    ∃ peak deepest, curve.foldl scanDrawdown (none, 0) = (some peak, -deepest) ∧
      TracksFalls relativeFall (curve.map (·.equity)) peak deepest := by
  induction curve using List.reverseRecOn with
  | nil => exact absurd rfl nonempty
  | append_singleton earlier point ih =>
    rw [List.foldl_concat, List.map_append, List.map_singleton]
    by_cases first : earlier = []
    · subst first
      exact ⟨_, _, scanDrawdown_first point, TracksFalls.single _⟩
    · obtain ⟨peak, deepest, scanned, tracks⟩ :=
        ih (fun other member => positive other (List.mem_append_left _ member)) first
      obtain ⟨highest, among, reaches⟩ := List.mem_map.mp tracks.peak.1
      have above : 0 < peak := reaches ▸ positive highest (List.mem_append_left _ among)
      rw [scanned, scanDrawdown_of_pos above]
      exact ⟨_, _, rfl, tracks.next point.equity⟩

/-- `_max_drawdown_pct` is the deepest relative fall of a curve of positive equity. -/
theorem isGreatest_maxDrawdownPct (positive : ∀ point ∈ curve, 0 < point.equity)
    (nonempty : curve ≠ []) :
    IsGreatest (Falls relativeFall (curve.map (·.equity))) (maxDrawdownPct curve) := by
  obtain ⟨peak, deepest, scanned, tracks⟩ := tracks_scanDrawdown positive nonempty
  obtain ⟨high, among, low, -, below, depth⟩ := exists_of_mem_falls _ tracks.deepest.1
  obtain ⟨point, member, rfl⟩ := List.mem_map.mp among
  have nonnegative : 0 ≤ deepest := by
    rw [depth]
    exact div_nonneg (sub_nonneg.mpr below) (positive point member).le
  rw [maxDrawdownPct, scanned, abs_neg, abs_of_nonneg nonnegative]
  exact tracks.deepest

end Backtest

/-- Both scans find the deepest fall. A backtest without points has none. -/
theorem drawdowns_are_greatest :
    (∀ pnls : List ℚ, IsGreatest {fall | ∃ i j : ℕ, i ≤ j ∧ j ≤ pnls.length ∧
        fall = (pnls.take i).sum - (pnls.take j).sum} (DailyReviewEngine.maxDrawdown pnls)) ∧
      ∀ curve : List EquityCurvePoint, (∀ point ∈ curve, 0 < point.equity) →
        (curve = [] → maxDrawdownPct curve = 0) ∧
        (curve ≠ [] →
          IsGreatest (Falls relativeFall (curve.map (·.equity))) (maxDrawdownPct curve)) := by
  refine ⟨isGreatest_maxDrawdown, fun curve positive => ⟨?_, isGreatest_maxDrawdownPct positive⟩⟩
  rintro rfl
  simp [maxDrawdownPct]

theorem drawdowns_are_greatest_fallen :
    IsGreatest (Falls relativeFall [100, 80])
      (maxDrawdownPct [⟨.utc 0, 100, 100, 0, 0⟩, ⟨.utc 300000000, 80, 0, 0, -20⟩]) :=
  (drawdowns_are_greatest.2 [⟨.utc 0, 100, 100, 0, 0⟩, ⟨.utc 300000000, 80, 0, 0, -20⟩]
    (by decide)).2 (by simp)

end AlphaAgent
