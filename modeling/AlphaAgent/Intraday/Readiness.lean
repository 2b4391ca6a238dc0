import AlphaAgent.Intraday.DailyReport
import Mathlib.Algebra.BigOperators.Ring.List
import Mathlib.Algebra.Order.Ring.Abs

/-!
# Live readiness

`LiveReadinessEvaluator`, which reads the ratios of the daily review. The profit
factor of a review without losses is its gross profit, so it is an amount of money
there, and the evaluator compares it with a threshold for a ratio.
-/

namespace AlphaAgent.Intraday

/-- The part of `IntradayShadowConfig` which the evaluator reads. -/
structure ReadinessConfig where
  readinessMinSessions : ℤ := 30
  readinessMinTrades : ℤ := 100
  readinessProfitFactor : ℚ := 13 / 10
  readinessMaxDrawdownPct : ℚ := 8 / 100

/-- The arguments of `evaluate`. -/
structure ReadinessInputs where
  shadowSessions : ℤ
  validTrades : ℤ
  expectancy : ℚ
  profitFactor : ℚ
  maxDrawdownPct : ℚ
  unresolvedExecutionBugs : ℤ := 0
  dataQualityIssues : ℤ := 0
  overfittingWarning : Bool := true
  manualApproval : Bool := false

inductive LiveReadinessStatus where
  | blocked
  | allowed
deriving DecidableEq, Repr

/-- What `evaluate` returns beside its arguments. -/
structure LiveReadiness where
  liveReadinessStatus : LiveReadinessStatus
  reasons : List String
  liveOrdersEnabled : Bool := false
deriving DecidableEq

namespace LiveReadinessEvaluator

/-- What each check of the evaluator finds, and the reason which it gives. -/
def checks (config : ReadinessConfig) (inputs : ReadinessInputs) : List (Bool × String) :=
  [(inputs.shadowSessions < config.readinessMinSessions, "minimum_30_shadow_sessions_not_met"),
    (inputs.validTrades < config.readinessMinTrades, "minimum_100_valid_shadow_trades_not_met"),
    (inputs.expectancy ≤ 0, "net_expectancy_not_positive_after_costs"),
    (inputs.profitFactor < config.readinessProfitFactor, "profit_factor_below_threshold"),
    (config.readinessMaxDrawdownPct < inputs.maxDrawdownPct, "drawdown_above_threshold"),
    (inputs.unresolvedExecutionBugs ≠ 0, "unresolved_execution_simulation_bugs"),
    (inputs.dataQualityIssues ≠ 0, "unresolved_data_quality_issues"),
    (inputs.overfittingWarning, "overfitting_warning_active"),
    (!inputs.manualApproval, "manual_approval_missing")]

/-- `evaluate`. -/
def evaluate (config : ReadinessConfig) (inputs : ReadinessInputs) : LiveReadiness :=
  let reasons := ((checks config inputs).filter (·.1)).map (·.2)
  { liveReadinessStatus := if reasons = [] then .allowed else .blocked, reasons }

/-- The evaluator reports a profit factor exactly when it is below the threshold. -/
theorem profitFactor_reported_iff (config : ReadinessConfig) (inputs : ReadinessInputs) :
    "profit_factor_below_threshold" ∈ (evaluate config inputs).reasons ↔
      inputs.profitFactor < config.readinessProfitFactor := by
  simp [evaluate, checks]

end LiveReadinessEvaluator

/-- The row with its net result in another unit. -/
def ReviewRow.scaled (factor : ℚ) (row : ReviewRow) : ReviewRow :=
  { row with netPnl := row.netPnl.map (factor * ·) }

namespace DailyReviewEngine

variable {rows : List ReviewRow} {factor : ℚ}

theorem exitPnls_scaled :
    exitPnls (rows.map (·.scaled factor)) = (exitPnls rows).map (factor * ·) := by
  have net : ∀ row : ReviewRow, (row.scaled factor).net = factor * row.net := by
    intro row
    cases scaled : row.netPnl <;> simp [ReviewRow.scaled, ReviewRow.net, scaled]
  have exits : (fun row : ReviewRow => (row.scaled factor).isExit) = (·.isExit) := rfl
  rw [exitPnls, List.filter_map, Function.comp_def, exits, List.map_map, Function.comp_def]
  simp only [net, exitPnls, List.map_map, Function.comp_def]

variable (positive : 0 < factor)
include positive

theorem wins_scaled (pnls : List ℚ) :
    wins (pnls.map (factor * ·)) = (wins pnls).map (factor * ·) := by
  rw [wins, List.filter_map, Function.comp_def]
  simp only [mul_pos_iff_of_pos_left positive, wins]

theorem losses_scaled (pnls : List ℚ) :
    losses (pnls.map (factor * ·)) = (losses pnls).map (factor * ·) := by
  have negative : ∀ pnl, factor * pnl < 0 ↔ pnl < 0 := fun pnl =>
    ⟨fun loss => (pos_iff_neg_of_mul_neg loss).mp positive, mul_neg_of_pos_of_neg positive⟩
  rw [losses, List.filter_map, Function.comp_def]
  simp only [negative, losses, List.map_map, Function.comp_def, abs_mul, abs_of_pos positive]

omit positive in
theorem profitFactor_eq (rows : List ReviewRow) (reportDate : Option Day) (today : Day) :
    (generate rows reportDate today).profitFactor =
      if 0 < (losses (exitPnls rows)).sum then
        (wins (exitPnls rows)).sum / (losses (exitPnls rows)).sum
      else (wins (exitPnls rows)).sum := rfl

/-- Another unit leaves a ratio as it is, and turns an amount into another. -/
theorem profitFactor_scaled (rows : List ReviewRow) (reportDate : Option Day) (today : Day) :
    (generate (rows.map (·.scaled factor)) reportDate today).profitFactor =
      if 0 < (losses (exitPnls rows)).sum then (generate rows reportDate today).profitFactor
      else factor * (generate rows reportDate today).profitFactor := by
  rw [profitFactor_eq, profitFactor_eq, exitPnls_scaled, wins_scaled positive,
    losses_scaled positive, List.sum_map_mul_left, List.sum_map_mul_left, List.map_id',
    List.map_id']
  simp only [mul_pos_iff_of_pos_left positive]
  split_ifs
  · exact mul_div_mul_left _ _ positive.ne'
  · rfl

omit positive in
theorem losses_sum_pos_iff (pnls : List ℚ) : 0 < (losses pnls).sum ↔ ∃ pnl ∈ pnls, pnl < 0 := by
  have some : (∃ pnl ∈ pnls, pnl < 0) ↔ losses pnls ≠ [] := by
    rw [Ne, losses_eq_nil_iff]
    push Not
    rfl
  rw [some]
  constructor
  · intro total empty
    simp [empty] at total
  · exact List.sum_pos _ (losses_pos pnls)

omit positive in
theorem wins_sum_eq_zero_iff (pnls : List ℚ) : (wins pnls).sum = 0 ↔ ∀ pnl ∈ pnls, pnl ≤ 0 := by
  constructor
  · intro total pnl member
    by_contra win
    have isWin : pnl ∈ wins pnls := List.mem_filter.mpr ⟨member, by simpa using win⟩
    have gained := List.sum_pos _ (wins_pos pnls) (List.ne_nil_of_mem isWin)
    exact gained.ne' total
  · intro none
    have empty : wins pnls = [] := by simpa [wins, List.filter_eq_nil_iff] using none
    rw [empty, List.sum_nil]

end DailyReviewEngine

open DailyReviewEngine LiveReadinessEvaluator

/-- The profit factor, and whether it is reported to be below the threshold, do not
depend on the unit of the results exactly when the unit stays, some exit loses or none wins. -/
theorem profitFactor_scale_iff (rows : List ReviewRow) (factor : ℚ) (positive : 0 < factor)
    (reportDate : Option Day) (today : Day) :
    ((generate (rows.map (·.scaled factor)) reportDate today).profitFactor =
          (generate rows reportDate today).profitFactor ∧
        ∀ (config : ReadinessConfig) (inputs : ReadinessInputs),
          "profit_factor_below_threshold" ∈ (evaluate config { inputs with profitFactor :=
              (generate (rows.map (·.scaled factor)) reportDate today).profitFactor }).reasons ↔
            "profit_factor_below_threshold" ∈ (evaluate config { inputs with profitFactor :=
              (generate rows reportDate today).profitFactor }).reasons) ↔
      factor = 1 ∨ (∃ row ∈ rows, row.isExit = true ∧ row.net < 0) ∨
        ∀ row ∈ rows, row.isExit = true → row.net ≤ 0 := by
  have loses : 0 < (losses (exitPnls rows)).sum ↔
      ∃ row ∈ rows, row.isExit = true ∧ row.net < 0 := by
    rw [losses_sum_pos_iff, ← not_iff_not]
    push Not
    exact forall_mem_exitPnls
  have wins : (wins (exitPnls rows)).sum = 0 ↔
      ∀ row ∈ rows, row.isExit = true → row.net ≤ 0 := by
    rw [wins_sum_eq_zero_iff, forall_mem_exitPnls]
  rw [and_iff_left_of_imp fun same _ _ => by rw [same], profitFactor_scaled positive, ← loses,
    ← wins]
  split_ifs with lossy
  · exact iff_of_true rfl (.inr (.inl lossy))
  · have gross : (generate rows reportDate today).profitFactor =
        (DailyReviewEngine.wins (exitPnls rows)).sum := by
      rw [profitFactor_eq, if_neg lossy]
    rw [gross, mul_left_eq_self₀]
    simp only [lossy, false_or]

/-- One exit, which wins. -/
def onlyWin : List ReviewRow :=
  [{ eventType := "POSITION_EXITED", symbol := "RELIANCE", netPnl := some 1 }]

theorem profitFactor_scale_iff_won :
    ((generate (onlyWin.map (·.scaled 2)) none 20586).profitFactor =
          (generate onlyWin none 20586).profitFactor ∧
        ∀ (config : ReadinessConfig) (inputs : ReadinessInputs),
          "profit_factor_below_threshold" ∈ (evaluate config { inputs with profitFactor :=
              (generate (onlyWin.map (·.scaled 2)) none 20586).profitFactor }).reasons ↔
            "profit_factor_below_threshold" ∈ (evaluate config { inputs with profitFactor :=
              (generate onlyWin none 20586).profitFactor }).reasons) ↔
      (2 : ℚ) = 1 ∨ (∃ row ∈ onlyWin, row.isExit = true ∧ row.net < 0) ∨
        ∀ row ∈ onlyWin, row.isExit = true → row.net ≤ 0 :=
  profitFactor_scale_iff onlyWin 2 (by norm_num) none 20586

/-- A gain of 1 is reported to be below the threshold of 1.3, and a gain of 2 is not. -/
theorem profitFactor_has_unit : ¬∀ (rows : List ReviewRow) (factor : ℚ), 0 < factor →
    ∀ (reportDate : Option Day) (today : Day),
      (generate (rows.map (·.scaled factor)) reportDate today).profitFactor =
          (generate rows reportDate today).profitFactor ∧
        ∀ (config : ReadinessConfig) (inputs : ReadinessInputs),
          "profit_factor_below_threshold" ∈ (evaluate config { inputs with profitFactor :=
              (generate (rows.map (·.scaled factor)) reportDate today).profitFactor }).reasons ↔
            "profit_factor_below_threshold" ∈ (evaluate config { inputs with profitFactor :=
              (generate rows reportDate today).profitFactor }).reasons := by
  intro same
  have reported := (same onlyWin 2 (by norm_num) none 20586).2 {}
    { shadowSessions := 30, validTrades := 100, expectancy := 1, profitFactor := 0,
      maxDrawdownPct := 0 }
  have gained : (generate (onlyWin.map (·.scaled 2)) none 20586).profitFactor = 2 := by
    decide +kernel
  have before : (generate onlyWin none 20586).profitFactor = 1 := by decide +kernel
  rw [profitFactor_reported_iff, profitFactor_reported_iff, gained, before] at reported
  norm_num at reported

end AlphaAgent.Intraday
