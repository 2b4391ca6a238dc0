import AlphaAgent.Core.IsoFormat
import Mathlib.Algebra.BigOperators.Group.List.Basic
import Mathlib.Algebra.Ring.Int.Defs

/-!
# Days by year, month and day

The day which a calendar day was taken apart from, and the text of a day. Two days of the
calendar have different texts, so what is kept in a file for each day is kept apart.
-/

namespace AlphaAgent.Day

/-- The days of the months before one of them. -/
def daysBefore (year : ℤ) (list : List ℤ) (month : ℤ) : ℤ :=
  ((list.filter (· < month)).map (daysInMonth year)).sum

theorem daysInMonth_le (year month : ℤ) : daysInMonth year month ≤ 31 := by
  unfold daysInMonth
  split_ifs <;> decide

/-- The days of the months before the one which is found, and the day in it, are counted off. -/
theorem monthAndDay_spec {year : ℤ} {later : List ℤ} (sorted : later.Pairwise (· < ·))
    {dayOfYear : ℤ} (start : 0 ≤ dayOfYear)
    (within : dayOfYear < (later.map (daysInMonth year)).sum) :
    (monthAndDay year later dayOfYear).1 ∈ later ∧
      daysBefore year later (monthAndDay year later dayOfYear).1 +
          (monthAndDay year later dayOfYear).2 = dayOfYear + 1 ∧
      1 ≤ (monthAndDay year later dayOfYear).2 ∧
      (monthAndDay year later dayOfYear).2 ≤
        daysInMonth year (monthAndDay year later dayOfYear).1 := by
  induction later generalizing dayOfYear with
  | nil =>
    rw [List.map_nil, List.sum_nil] at within
    omega
  | cons month later ih =>
    obtain ⟨least, sorted⟩ := List.pairwise_cons.mp sorted
    rw [monthAndDay]
    split_ifs with inMonth
    · have first : (month :: later).filter (· < month) = [] := by
        refine List.filter_eq_nil_iff.mpr fun other member => ?_
        rcases List.mem_cons.mp member with rfl | member
        · simp
        · simpa using (least other member).le
      refine ⟨List.mem_cons_self, ?_, by dsimp only; omega, by dsimp only; omega⟩
      rw [daysBefore, first, List.map_nil, List.sum_nil, zero_add]
    · rw [List.map_cons, List.sum_cons] at within
      obtain ⟨member, counted, bounds⟩ := @ih sorted (dayOfYear - daysInMonth year month) (by omega)
        (by omega)
      refine ⟨List.mem_cons_of_mem _ member, ?_, bounds⟩
      rw [daysBefore, List.filter_cons, if_pos (decide_eq_true (least _ member)), List.map_cons,
        List.sum_cons, ← daysBefore]
      omega

theorem sum_daysInMonth (year : ℤ) :
    (months.map (daysInMonth year)).sum = if isLeap year then 366 else 365 := by
  cases leap : isLeap year <;> simp [months, daysInMonth, leap]

theorem daysBefore_december {year : ℤ} (leap : isLeap year = true) :
    daysBefore year months 12 = 335 := by
  simp [daysBefore, months, daysInMonth, leap]

/-- The cycles, the years and the days which are counted off. -/
structure CountedOff (day : ℤ) where
  cycles : ℤ
  centuries : ℤ
  leapCycles : ℤ
  years : ℤ
  dayOfYear : ℤ
  sum : day = -719162 + (146097 * cycles + 36524 * centuries + 1461 * leapCycles +
    365 * years + dayOfYear)
  ofCycle : 36524 * centuries + 1461 * leapCycles + 365 * years + dayOfYear < 146097
  ofCentury : 1461 * leapCycles + 365 * years + dayOfYear < 36524
  ofLeapCycle : 365 * years + dayOfYear < 1461
  ofYear : 0 ≤ dayOfYear ∧ dayOfYear < 365
  counts : 0 ≤ centuries ∧ 0 ≤ leapCycles ∧ 0 ≤ years
  civil_eq : civil day =
    if years = 4 ∨ centuries = 4 then
      (cycles * 400 + centuries * 100 + leapCycles * 4 + years, 12, 31)
    else
      (cycles * 400 + centuries * 100 + leapCycles * 4 + years + 1,
        monthAndDay (cycles * 400 + centuries * 100 + leapCycles * 4 + years + 1) months dayOfYear)

/-- Every day is counted off. -/
def countedOff (day : ℤ) : CountedOff day :=
  let since : ℤ := day + 719162
  { cycles := since / 146097
    centuries := since % 146097 / 36524
    leapCycles := since % 146097 % 36524 / 1461
    years := since % 146097 % 36524 % 1461 / 365
    dayOfYear := since % 146097 % 36524 % 1461 % 365
    sum := by omega
    ofCycle := by omega
    ofCentury := by omega
    ofLeapCycle := by omega
    ofYear := by omega
    counts := by omega
    civil_eq := by
      unfold civil
      dsimp only
      rw [Int.add_sub_cancel]
      rfl }

/-- A day is the one of its year, month and day of the month. -/
theorem ofCivil_civil (day : Day) :
    ofCivil day.civil.1 day.civil.2.1 day.civil.2.2 = day ∧
      (1 ≤ day.civil.2.1 ∧ day.civil.2.1 ≤ 12) ∧ 1 ≤ day.civil.2.2 ∧
        day.civil.2.2 ≤ daysInMonth day.civil.1 day.civil.2.1 := by
  obtain ⟨cycles, centuries, leapCycles, years, dayOfYear, sum, ofCycle, ofCentury, ofLeapCycle,
    ofYear, counts, civil⟩ := countedOff day
  rw [civil]
  split_ifs with last
  · -- The last day of a leap year, which ends a cycle.
    have leap : isLeap (cycles * 400 + centuries * 100 + leapCycles * 4 + years) = true := by
      simp only [isLeap, Bool.and_eq_true, Bool.or_eq_true, decide_eq_true_eq, ne_eq]
      omega
    refine ⟨?_, by norm_num, by norm_num, by simp [daysInMonth]⟩
    unfold ofCivil
    dsimp only
    rw [← daysBefore, daysBefore_december leap]
    change (_ : ℤ) = day
    rw [sum]
    change -719162 - 1 + _ + (335 : ℤ) + 31 = _
    omega
  · have spec := @monthAndDay_spec
      (cycles * 400 + centuries * 100 + leapCycles * 4 + years + 1) months
      (by decide) dayOfYear ofYear.1 (by
        rw [sum_daysInMonth]
        split_ifs <;> omega)
    obtain ⟨member, counted, bounds⟩ := spec
    have ofYear : ∀ month ∈ months, 1 ≤ month ∧ month ≤ 12 := by decide
    refine ⟨?_, ofYear _ member, bounds⟩
    unfold ofCivil
    dsimp only
    rw [← daysBefore]
    change (_ : ℤ) = day
    rw [sum]
    change -719162 - 1 + _ + _ + _ = (_ : ℤ)
    omega

/-- The years of the calendar have four digits. -/
theorem year_bounds {day : ℤ} (starts : -719162 ≤ day) (ends : day ≤ 2932896) :
    1 ≤ (civil day).1 ∧ (civil day).1 ≤ 9999 := by
  obtain ⟨cycles, centuries, leapCycles, years, dayOfYear, sum, ofCycle, ofCentury, ofLeapCycle,
    ofYear, counts, civil⟩ := countedOff day
  have few : 0 ≤ cycles ∧ cycles ≤ 24 := by omega
  rw [civil]
  split_ifs with last <;> dsimp only <;> omega

theorem length_padded (width number : ℕ) : (padded width number).length = width := by
  induction width generalizing number with
  | zero => rfl
  | succ width ih => rw [padded, List.length_append, ih, List.length_singleton]

theorem digitChar_injective {first second : ℕ} (small : first < 10) (other : second < 10)
    (same : Nat.digitChar first = Nat.digitChar second) : first = second := by
  have all : ∀ first second : Fin 10,
      Nat.digitChar first = Nat.digitChar second → first = second := by decide
  exact congrArg Fin.val (all ⟨first, small⟩ ⟨second, other⟩ same)

theorem padded_injective {width first second : ℕ} (small : first < 10 ^ width)
    (other : second < 10 ^ width) (same : padded width first = padded width second) :
    first = second := by
  induction width generalizing first second with
  | zero => omega
  | succ width ih =>
    obtain ⟨front, last⟩ := List.append_inj' (same : padded width (first / 10) ++ _ =
      padded width (second / 10) ++ _) rfl
    have digit := digitChar_injective (Nat.mod_lt first (by decide)) (Nat.mod_lt second (by decide))
      (List.singleton_inj.mp last)
    rw [Nat.pow_succ] at small other
    have tens := @ih (first / 10) (second / 10) (by omega) (by omega) front
    omega

theorem isoformat_eq (day : Day) : isoformat day =
    String.ofList (padded 4 day.civil.1.toNat ++ '-' :: padded 2 day.civil.2.1.toNat ++
      '-' :: padded 2 day.civil.2.2.toNat) := rfl

/-- Days of the calendar have different texts. -/
theorem isoformat_injective {first second : Day} (starts : firstDay ≤ first)
    (ends : first ≤ lastDay) (otherStarts : firstDay ≤ second) (otherEnds : second ≤ lastDay)
    (same : isoformat first = isoformat second) : first = second := by
  have year := year_bounds starts ends
  have otherYear := year_bounds otherStarts otherEnds
  obtain ⟨made, month, day⟩ := ofCivil_civil first
  obtain ⟨otherMade, otherMonth, otherDay⟩ := ofCivil_civil second
  have longest := daysInMonth_le first.civil.1 first.civil.2.1
  have otherLongest := daysInMonth_le second.civil.1 second.civil.2.1
  rw [isoformat_eq, isoformat_eq] at same
  have texts := String.ofList_injective same
  obtain ⟨front, days⟩ := List.append_inj' texts (by simp [length_padded])
  obtain ⟨years, months⟩ := List.append_inj' front (by simp [length_padded])
  have sameYear := padded_injective (by omega) (by omega) years
  have sameMonth := padded_injective (by omega) (by omega) (List.cons.inj months).2
  have sameDay := padded_injective (by omega) (by omega) (List.cons.inj days).2
  have civil : first.civil = second.civil := by
    refine Prod.ext ?_ (Prod.ext ?_ ?_) <;> omega
  rw [← made, ← otherMade, civil]

end AlphaAgent.Day
