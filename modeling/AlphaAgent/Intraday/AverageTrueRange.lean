import AlphaAgent.Intraday.DailyReport
import AlphaAgent.Intraday.Models

/-!
# The average true range

`calculate_atr` keeps the last `period` candles. The first of them only gives the close
before the second, so it averages one true range fewer than `period`.
-/

namespace AlphaAgent.Intraday

open DailyReviewEngine

/-- `items[start:]`. -/
def sliceFrom {α : Type} (start : ℤ) (items : List α) : List α :=
  items.drop (if start < 0 then items.length + start else start).toNat

/-- The range of a candle and of the close before it. -/
def trueRange (previousClose : ℚ) (candle : Candle) : ℚ :=
  max (max (candle.high - candle.low) |candle.high - previousClose|) |candle.low - previousClose|

/-- The loop of `calculate_atr`, which carries the close of the candle before. -/
def trueRanges (previousClose : ℚ) : List Candle → List ℚ
  | [] => []
  | candle :: rest => trueRange previousClose candle :: trueRanges candle.close rest

/-- `calculate_atr`. -/
def calculateAtr (candles : List Candle) (period : ℤ := 14) : Except RaisedError (Option ℚ) :=
  if candles.length < 2 then .ok none
  else match sliceFrom (-period) candles with
    | [] => .error ⟨"IndexError", "list index out of range"⟩
    | first :: rest =>
      let ranges := trueRanges first.close rest
      .ok (if ranges ≠ [] then some (mean ranges) else none)

/-- The true ranges of all candles but the first, each with the close of the candle before
it in the whole list. -/
def allTrueRanges (candles : List Candle) : List ℚ :=
  List.zipWith (fun previous candle => trueRange previous.close candle) candles candles.tail

/-- The last `period` true ranges. -/
def lastTrueRanges (candles : List Candle) (period : ℕ) : List ℚ :=
  (allTrueRanges candles).drop ((allTrueRanges candles).length - period)

section Window

variable {candles : List Candle}

theorem trueRanges_eq (first : Candle) (rest : List Candle) :
    trueRanges first.close rest = allTrueRanges (first :: rest) := by
  induction rest generalizing first with
  | nil => rfl
  | cons candle rest ih =>
    rw [trueRanges, ih candle]
    rfl

@[simp] theorem length_allTrueRanges (candles : List Candle) :
    (allTrueRanges candles).length = candles.length - 1 := by
  simp [allTrueRanges]

/-- The ranges of the candles from one on are the ranges after it. -/
theorem allTrueRanges_drop (candles : List Candle) (k : ℕ) :
    allTrueRanges (candles.drop k) = (allTrueRanges candles).drop k := by
  rw [allTrueRanges, allTrueRanges, List.drop_zipWith, List.tail_drop, List.drop_tail]

theorem sliceFrom_neg {period : ℕ} (atLeastOne : 1 ≤ period) (enough : period ≤ candles.length) :
    sliceFrom (-(period : ℤ)) candles = candles.drop (candles.length - period) := by
  have negative : -(period : ℤ) < 0 := by omega
  have start : ((candles.length : ℤ) + -period).toNat = candles.length - period := by omega
  rw [sliceFrom, if_pos negative, start]

/-- The loop runs over the ranges after the first of the candles it keeps. -/
theorem calculateAtr_eq {period : ℕ} (atLeastOne : 1 ≤ period) (enough : period ≤ candles.length)
    (two : 2 ≤ candles.length) :
    calculateAtr candles period =
      .ok (if lastTrueRanges candles (period - 1) ≠ [] then
        some (mean (lastTrueRanges candles (period - 1))) else none) := by
  have window : allTrueRanges (candles.drop (candles.length - period)) =
      lastTrueRanges candles (period - 1) := by
    rw [allTrueRanges_drop, lastTrueRanges, length_allTrueRanges]
    congr 1
    omega
  rw [calculateAtr, if_neg (by omega), sliceFrom_neg atLeastOne enough, ← window]
  cases kept : candles.drop (candles.length - period) with
  | nil =>
    have short := List.drop_eq_nil_iff.mp kept
    omega
  | cons first rest => simp only [trueRanges_eq]

theorem length_lastTrueRanges {period : ℕ} (enough : period + 1 ≤ candles.length) :
    (lastTrueRanges candles period).length = period := by
  rw [lastTrueRanges, List.length_drop, length_allTrueRanges]
  omega

/-- One range more reaches back one candle more. -/
theorem lastTrueRanges_succ {period : ℕ} (enough : period + 2 ≤ candles.length) :
    ∃ oldest, lastTrueRanges candles (period + 1) = oldest :: lastTrueRanges candles period := by
  have size := length_allTrueRanges candles
  have inside : (allTrueRanges candles).length - (period + 1) < (allTrueRanges candles).length := by
    omega
  refine ⟨(allTrueRanges candles)[(allTrueRanges candles).length - (period + 1)], ?_⟩
  rw [lastTrueRanges, List.drop_eq_getElem_cons inside, lastTrueRanges]
  congr 2
  omega

/-- With a period of one there is nothing to average. -/
theorem calculateAtr_one (two : 2 ≤ candles.length) : calculateAtr candles 1 = .ok none := by
  have none : lastTrueRanges candles 0 = [] :=
    List.length_eq_zero_iff.mp (length_lastTrueRanges (by omega))
  have one : calculateAtr candles (1 : ℕ) = _ := calculateAtr_eq le_rfl (by omega) two
  simpa [none] using one

/-- With a longer one it is the mean of as many true ranges as the period before. -/
theorem calculateAtr_succ {period : ℕ} (atLeastOne : 1 ≤ period)
    (enough : period + 1 ≤ candles.length) :
    calculateAtr candles (period + 1 : ℕ) = .ok (some (mean (lastTrueRanges candles period))) := by
  have some : lastTrueRanges candles period ≠ [] := by
    apply List.ne_nil_of_length_pos
    rw [length_lastTrueRanges enough]
    omega
  rw [calculateAtr_eq (by omega) enough (by omega), Nat.add_sub_cancel, if_pos some]

end Window

/-- Leaving out one value keeps a mean exactly when the others sum up to as many times it. -/
theorem mean_eq_mean_cons_iff {value : ℚ} {values : List ℚ} (nonempty : values ≠ []) :
    mean values = mean (value :: values) ↔ values.length * value = values.sum := by
  have positive : (0 : ℚ) < values.length := by
    exact_mod_cast List.length_pos_iff.mpr nonempty
  rw [mean, mean, List.sum_cons, List.length_cons, Nat.cast_succ,
    div_eq_div_iff positive.ne' (by positivity)]
  constructor <;> intro equal <;> linarith

/-- `calculate_atr` is the mean of the last `period` true ranges exactly when there are at least
two of them and the later ones sum up to as many times the oldest. -/
theorem calculateAtr_eq_mean_iff (candles : List Candle) (period : ℕ) (atLeastOne : 1 ≤ period)
    (enough : period + 1 ≤ candles.length) :
    calculateAtr candles period = .ok (some (mean (lastTrueRanges candles period))) ↔
      2 ≤ period ∧ ∃ oldest later, lastTrueRanges candles period = oldest :: later ∧
        later.length * oldest = later.sum := by
  obtain ⟨period, rfl⟩ := Nat.exists_eq_add_of_le' atLeastOne
  rcases Nat.eq_zero_or_pos period with rfl | more
  · have one : calculateAtr candles 1 = .ok none := calculateAtr_one (by omega)
    simp [one]
  · obtain ⟨oldest, joined⟩ := lastTrueRanges_succ enough
    have nonempty : lastTrueRanges candles period ≠ [] := by
      apply List.ne_nil_of_length_pos
      rw [length_lastTrueRanges (by omega)]
      exact more
    rw [calculateAtr_succ more (by omega), joined]
    simp only [Except.ok.injEq, Option.some.injEq, mean_eq_mean_cons_iff nonempty,
      List.cons.injEq]
    constructor
    · intro sums
      exact ⟨by omega, oldest, _, ⟨rfl, rfl⟩, sums⟩
    · rintro ⟨-, _, _, ⟨rfl, rfl⟩, sums⟩
      exact sums

section Examples

/-- A candle whose low and close are ten. -/
def candleFromTen (high : ℚ) : Candle := ⟨.utc 0, high, 10, 10, 1⟩

theorem calculateAtr_eq_mean_iff_steady :
    calculateAtr [candleFromTen 10, candleFromTen 11, candleFromTen 11] 2 =
      .ok (some (mean (lastTrueRanges [candleFromTen 10, candleFromTen 11, candleFromTen 11] 2))) :=
  (calculateAtr_eq_mean_iff [candleFromTen 10, candleFromTen 11, candleFromTen 11] 2 (by decide)
    (by decide)).mpr ⟨le_rfl, 1, [1], by decide +kernel, by norm_num⟩

/-- The range of the second candle is left out. -/
theorem calculateAtr_skips_oldest : ¬∀ (candles : List Candle) (period : ℕ), 1 ≤ period →
    period + 1 ≤ candles.length →
      calculateAtr candles period = .ok (some (mean (lastTrueRanges candles period))) := by
  intro always
  have equal := always [candleFromTen 10, candleFromTen 11, candleFromTen 13] 2 (by decide)
    (by decide)
  have three : calculateAtr [candleFromTen 10, candleFromTen 11, candleFromTen 13] 2 =
      .ok (some 3) := by decide +kernel
  have two : mean (lastTrueRanges [candleFromTen 10, candleFromTen 11, candleFromTen 13] 2) =
      2 := by decide +kernel
  rw [two] at equal
  have same : (some 3 : Option ℚ) = some 2 := Except.ok.inj (three.symm.trans equal)
  norm_num at same

end Examples

end AlphaAgent.Intraday
