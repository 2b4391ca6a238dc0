import AlphaAgent.Core.IsoFormat
import AlphaAgent.Foundation.Dict
import Mathlib.Algebra.BigOperators.Group.List.Basic
import Mathlib.Algebra.Order.BigOperators.Group.List
import Mathlib.Data.List.MinMax
import Mathlib.Tactic.FieldSimp
import Mathlib.Tactic.Linarith
import Mathlib.Tactic.Ring

/-!
# The daily review

`DailyReviewEngine`, over the rows which the journal has of a day. A row has the keys
of a journal entry which the review reads; a missing amount counts as zero.
-/

namespace AlphaAgent.Intraday

open Foundation

/-- A row of the journal, as far as the review reads it. -/
structure ReviewRow where
  eventType : String
  symbol : String
  direction : String := ""
  strategy : String := ""
  regime : String := ""
  grossPnl : Option ℚ := none
  netPnl : Option ℚ := none
  charges : Option ℚ := none
  exitReason : Option String := none
deriving DecidableEq

/-- What `generate` returns. -/
structure DailyReport where
  reportDate : String
  totalSignalsGenerated : ℕ
  signalsAccepted : ℕ
  signalsRejected : ℕ
  tradesTaken : ℕ
  winRate : ℚ
  averageWin : ℚ
  averageLoss : ℚ
  profitFactor : ℚ
  expectancy : ℚ
  grossPnl : ℚ
  netPnl : ℚ
  totalCharges : ℚ
  maxDrawdown : ℚ
  longPnl : ℚ
  shortPnl : ℚ
  strategyWisePnl : Dict String ℚ
  regimeWisePnl : Dict String ℚ
  timeOfDayPnl : Dict String ℚ
  symbolWisePnl : Dict String ℚ
  biggestMistake : Option String
  bestTrade : Option ReviewRow
  worstTrade : Option ReviewRow

namespace ReviewRow

variable (row : ReviewRow)

def isExit : Bool := row.eventType = "POSITION_EXITED"

/-- `float(row.get("net_pnl") or 0)`. -/
def net : ℚ := row.netPnl.getD 0

end ReviewRow

namespace DailyReviewEngine

/-- `mean`, of a list which is not empty. -/
def mean (values : List ℚ) : ℚ := values.sum / values.length

/-- `mean(values) if values else 0.0`. -/
def meanOr (values : List ℚ) : ℚ := if values = [] then 0 else mean values

/-- The gains and the sizes of the losses among net results. -/
def wins (pnls : List ℚ) : List ℚ := pnls.filter (0 < ·)

def losses (pnls : List ℚ) : List ℚ := (pnls.filter (· < 0)).map (|·|)

/-- `_pnl_by_direction`. -/
def pnlByDirection (rows : List ReviewRow) (direction : String) : ℚ :=
  ((rows.filter (·.direction = direction)).map (·.net)).sum

/-- `_group_pnl`. -/
def groupPnl (rows : List ReviewRow) (key : ReviewRow → String) : Dict String ℚ :=
  rows.foldl (fun grouped row =>
    let value := if key row = "" then "UNKNOWN" else key row
    grouped.set value ((grouped.get? value).getD 0 + row.net)) .empty

/-- The variables of the loop in `_max_drawdown`. -/
structure DrawdownScan where
  peak : ℚ := 0
  equity : ℚ := 0
  maxDrawdown : ℚ := 0

/-- One turn of the loop. -/
def DrawdownScan.next (scan : DrawdownScan) (pnl : ℚ) : DrawdownScan :=
  let equity := scan.equity + pnl
  let peak := max scan.peak equity
  ⟨peak, equity, min scan.maxDrawdown (equity - peak)⟩

/-- `_max_drawdown`. -/
def maxDrawdown (pnls : List ℚ) : ℚ := |(pnls.foldl DrawdownScan.next {}).maxDrawdown|

/-- `generate`. -/
def generate (rows : List ReviewRow) (reportDate : Option Day) (today : Day) : DailyReport :=
  let day := reportDate.getD today
  let signals := rows.filter fun row =>
    row.eventType = "SIGNAL_ACCEPTED" || row.eventType = "SIGNAL_REJECTED"
  let accepted := rows.filter (·.eventType = "SIGNAL_ACCEPTED")
  let rejected := rows.filter (·.eventType = "SIGNAL_REJECTED")
  let exits := rows.filter (·.isExit)
  let netPnls := exits.map (·.net)
  let grossPnls := exits.map (·.grossPnl.getD 0)
  let charges := exits.map (·.charges.getD 0)
  let wins := wins netPnls
  let losses := losses netPnls
  let winRate : ℚ := if netPnls = [] then 0 else wins.length / netPnls.length
  let lossRate := if netPnls = [] then 0 else 1 - winRate
  let avgWin := meanOr wins
  let avgLoss := meanOr losses
  let grossProfit := wins.sum
  let grossLoss := losses.sum
  let worstTrade := exits.argmin (·.net)
  { reportDate := day.isoformat
    totalSignalsGenerated := signals.length
    signalsAccepted := accepted.length
    signalsRejected := rejected.length
    tradesTaken := exits.length
    winRate
    averageWin := avgWin
    averageLoss := avgLoss
    profitFactor := if 0 < grossLoss then grossProfit / grossLoss else grossProfit
    expectancy := winRate * avgWin - lossRate * avgLoss
    grossPnl := grossPnls.sum
    netPnl := netPnls.sum
    totalCharges := charges.sum
    maxDrawdown := maxDrawdown netPnls
    longPnl := pnlByDirection exits "LONG"
    shortPnl := pnlByDirection exits "SHORT"
    strategyWisePnl := groupPnl exits (·.strategy)
    regimeWisePnl := groupPnl exits (·.regime)
    timeOfDayPnl := .empty
    symbolWisePnl := groupPnl exits (·.symbol)
    biggestMistake := worstTrade.bind (·.exitReason)
    bestTrade := exits.argmax (·.net)
    worstTrade }

section Partition

variable (pnls : List ℚ)

/-- Every result is a win, a loss or breaks even. -/
theorem length_partition :
    pnls.length = (wins pnls).length + (losses pnls).length + (pnls.filter (· = 0)).length := by
  induction pnls with
  | nil => rfl
  | cons pnl rest ih =>
    simp only [wins, losses, List.length_map, List.filter_cons, List.length_cons] at ih ⊢
    rcases lt_trichotomy pnl 0 with loss | even | win
    · simp only [loss, loss.not_gt, loss.ne, decide_true, decide_false, if_true, if_false,
        Bool.false_eq_true, List.length_cons]
      omega
    · simp only [even, lt_irrefl, decide_true, decide_false, if_true, if_false,
        Bool.false_eq_true, List.length_cons]
      omega
    · simp only [win, win.not_gt, win.ne', decide_true, decide_false, if_true, if_false,
        Bool.false_eq_true, List.length_cons]
      omega

theorem sum_partition : pnls.sum = (wins pnls).sum - (losses pnls).sum := by
  induction pnls with
  | nil => norm_num [wins, losses]
  | cons pnl rest ih =>
    simp only [wins, losses, List.filter_cons, List.sum_cons] at ih ⊢
    rcases lt_trichotomy pnl 0 with loss | even | win
    · simp only [loss, loss.not_gt, decide_true, decide_false, if_true, if_false,
        Bool.false_eq_true, List.map_cons, List.sum_cons, abs_of_neg loss]
      linarith
    · simp only [even, lt_irrefl, decide_false, if_false, Bool.false_eq_true]
      linarith
    · simp only [win, win.not_gt, decide_true, decide_false, if_true, if_false,
        Bool.false_eq_true, List.sum_cons]
      linarith

theorem losses_pos : ∀ loss ∈ losses pnls, 0 < loss := by
  intro loss member
  obtain ⟨pnl, isLoss, rfl⟩ := List.mem_map.mp member
  have negative : pnl < 0 := by simpa using (List.mem_filter.mp isLoss).2
  exact abs_pos_of_neg negative

theorem wins_pos : ∀ win ∈ wins pnls, 0 < win := by
  intro win member
  simpa using (List.mem_filter.mp member).2

theorem losses_eq_nil_iff : losses pnls = [] ↔ ∀ pnl ∈ pnls, 0 ≤ pnl := by
  simp [losses, List.filter_eq_nil_iff]

/-- Means times counts are sums. -/
theorem length_mul_meanOr (values : List ℚ) : values.length * meanOr values = values.sum := by
  unfold meanOr
  split_ifs with empty
  · simp [empty]
  · have counted : (values.length : ℚ) ≠ 0 := by
      simpa [List.length_eq_zero_iff] using empty
    rw [mean, mul_div_cancel₀ _ counted]

/-- The mean loss is zero only where there is none. -/
theorem meanOr_losses_eq_zero_iff : meanOr (losses pnls) = 0 ↔ losses pnls = [] := by
  refine ⟨fun zero => ?_, fun empty => if_pos empty⟩
  by_contra some
  have total := List.sum_pos (losses pnls) (losses_pos pnls) some
  rw [← length_mul_meanOr, zero, mul_zero] at total
  exact lt_irrefl 0 total

end Partition

section Expectancy

/-- The net results of the exits among the rows. -/
def exitPnls (rows : List ReviewRow) : List ℚ := (rows.filter (·.isExit)).map (·.net)

theorem forall_mem_exitPnls {rows : List ReviewRow} {holds : ℚ → Prop} :
    (∀ pnl ∈ exitPnls rows, holds pnl) ↔ ∀ row ∈ rows, row.isExit = true → holds row.net := by
  simp only [exitPnls, List.forall_mem_map, List.mem_filter, and_imp]

variable {rows : List ReviewRow} (reportDate : Option Day) (today : Day)

/-- The losing share counts what breaks even, and so takes as many mean losses too many. -/
theorem expectancy_eq (exits : exitPnls rows ≠ []) :
    (generate rows reportDate today).expectancy =
      ((exitPnls rows).sum - ((exitPnls rows).filter (· = 0)).length *
        meanOr (losses (exitPnls rows))) / (exitPnls rows).length := by
  have counted : ((exitPnls rows).length : ℚ) ≠ 0 := by
    simpa [List.length_eq_zero_iff] using exits
  have reported : (generate rows reportDate today).expectancy =
      (if exitPnls rows = [] then (0 : ℚ) else
          (wins (exitPnls rows)).length / (exitPnls rows).length) *
          meanOr (wins (exitPnls rows)) -
        (if exitPnls rows = [] then (0 : ℚ) else 1 - if exitPnls rows = [] then (0 : ℚ) else
          (wins (exitPnls rows)).length / (exitPnls rows).length) *
          meanOr (losses (exitPnls rows)) := rfl
  simp only [reported, if_neg exits]
  have won := length_mul_meanOr (wins (exitPnls rows))
  have lost := length_mul_meanOr (losses (exitPnls rows))
  have total := sum_partition (exitPnls rows)
  have all : ((exitPnls rows).length : ℚ) = (wins (exitPnls rows)).length +
      (losses (exitPnls rows)).length + ((exitPnls rows).filter (· = 0)).length := by
    exact_mod_cast length_partition (exitPnls rows)
  rw [total, ← won, ← lost]
  field_simp
  rw [all]
  ring

/-- The reported expectancy is the net result of a trade exactly when no exit breaks
even, or none loses. -/
theorem expectancy_iff (rows : List ReviewRow) (exits : ∃ row ∈ rows, row.isExit = true)
    (reportDate : Option Day) (today : Day) :
    (generate rows reportDate today).expectancy =
        (generate rows reportDate today).netPnl / (generate rows reportDate today).tradesTaken ↔
      (∀ row ∈ rows, row.isExit = true → row.net ≠ 0) ∨
        ∀ row ∈ rows, row.isExit = true → 0 ≤ row.net := by
  have some : exitPnls rows ≠ [] := by
    simpa [exitPnls, List.filter_eq_nil_iff] using exits
  have counted : ((exitPnls rows).length : ℚ) ≠ 0 := by
    simpa [List.length_eq_zero_iff] using some
  have netPnl : (generate rows reportDate today).netPnl = (exitPnls rows).sum := rfl
  have trades : (generate rows reportDate today).tradesTaken = (exitPnls rows).length :=
    (List.length_map _).symm
  have even : ((exitPnls rows).filter (· = 0)).length = 0 ↔
      ∀ row ∈ rows, row.isExit = true → row.net ≠ 0 := by
    rw [List.length_eq_zero_iff, List.filter_eq_nil_iff, forall_mem_exitPnls]
    simp only [decide_eq_true_eq]
  have none : meanOr (losses (exitPnls rows)) = 0 ↔
      ∀ row ∈ rows, row.isExit = true → 0 ≤ row.net := by
    rw [meanOr_losses_eq_zero_iff, losses_eq_nil_iff, forall_mem_exitPnls]
  rw [expectancy_eq reportDate today some, netPnl, trades, div_left_inj' counted, sub_eq_self,
    mul_eq_zero, Nat.cast_eq_zero, even, none]

/-- A win of 100, a loss of 60 and a trade which breaks even. -/
def mixedExits : List ReviewRow :=
  [some 100, some (-60), none].map fun netPnl =>
    { eventType := "POSITION_EXITED", symbol := "RELIANCE", netPnl }

theorem expectancy_iff_mixed :
    (generate mixedExits none 20586).expectancy =
        (generate mixedExits none 20586).netPnl / (generate mixedExits none 20586).tradesTaken ↔
      (∀ row ∈ mixedExits, row.isExit = true → row.net ≠ 0) ∨
        ∀ row ∈ mixedExits, row.isExit = true → 0 ≤ row.net :=
  expectancy_iff mixedExits (by decide +kernel) none 20586

/-- Three trades which gain 40 together are reported to lose 20 / 3 each. -/
theorem expectancy_counts_even : ¬∀ (rows : List ReviewRow) (reportDate : Option Day) (today : Day),
    (∃ row ∈ rows, row.isExit = true) → (generate rows reportDate today).expectancy =
      (generate rows reportDate today).netPnl / (generate rows reportDate today).tradesTaken := by
  intro same
  have reported := same mixedExits none 20586 (by decide +kernel)
  have expectancy : (generate mixedExits none 20586).expectancy = -20 / 3 := by decide +kernel
  have perTrade : (generate mixedExits none 20586).netPnl /
      (generate mixedExits none 20586).tradesTaken = 40 / 3 := by decide +kernel
  rw [expectancy, perTrade] at reported
  norm_num at reported

end Expectancy

end DailyReviewEngine
end AlphaAgent.Intraday
