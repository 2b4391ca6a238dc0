import Mathlib.Data.List.Basic
import Mathlib.Data.Finset.Max
import Mathlib.Data.Set.Insert
import Mathlib.Order.Bounds.Basic

/-!
# Peaks and falls of a series

How far each level of a series lies below the greatest level up to it, measured by any
function of the two. One pass which carries the peak and the deepest fall finds the
greatest of them, and where a higher peak makes a fall deeper, the greatest over all
pairs of an earlier and a later level.
-/

namespace AlphaAgent.Foundation

variable {α β : Type} [LinearOrder α] (fall : α → α → β)

/-- The falls of a series: from the greatest level so far to each level. -/
def Falls (levels : List α) : Set β :=
  {depth | ∃ k level peak, levels[k]? = some level ∧
    IsGreatest {earlier | earlier ∈ levels.take (k + 1)} peak ∧ depth = fall peak level}

theorem isGreatest_append {levels : List α} {peak : α}
    (greatest : IsGreatest {level | level ∈ levels} peak) (level : α) :
    IsGreatest {earlier | earlier ∈ levels ++ [level]} (max peak level) := by
  have inserted : {earlier | earlier ∈ levels ++ [level]} = insert level {x | x ∈ levels} := by
    ext earlier
    simp [or_comm]
  rw [inserted, max_comm]
  exact greatest.insert level

/-- A new level adds its own fall to the earlier ones. -/
theorem falls_append {levels : List α} {level peak : α}
    (greatest : IsGreatest {earlier | earlier ∈ levels ++ [level]} peak) :
    Falls fall (levels ++ [level]) = insert (fall peak level) (Falls fall levels) := by
  ext depth
  constructor
  · rintro ⟨k, at_k, top, found, highest, rfl⟩
    rcases Nat.lt_trichotomy k levels.length with before | rfl | after
    · refine .inr ⟨k, at_k, top, ?_, ?_, rfl⟩
      · rwa [List.getElem?_append_left before] at found
      · rwa [List.take_append_of_le_length (by omega)] at highest
    · rw [List.getElem?_append_right le_rfl, Nat.sub_self] at found
      obtain rfl : level = at_k := by simpa using found
      rw [List.take_of_length_le (by simp)] at highest
      exact .inl (by rw [highest.unique greatest])
    · rw [List.getElem?_eq_none (by simp; omega)] at found
      cases found
  · rintro (rfl | ⟨k, at_k, top, found, highest, rfl⟩)
    · refine ⟨levels.length, level, peak, by simp, ?_, rfl⟩
      rwa [List.take_of_length_le (by simp)]
    · have before : k < levels.length := (List.getElem?_eq_some_iff.mp found).1
      refine ⟨k, at_k, top, ?_, ?_, rfl⟩
      · rwa [List.getElem?_append_left before]
      · rwa [List.take_append_of_le_length (by omega)]

/-- A fall is from a level of the series to one which is not above it. -/
theorem exists_of_mem_falls {levels : List α} {depth : β} (member : depth ∈ Falls fall levels) :
    ∃ peak ∈ levels, ∃ level ∈ levels, level ≤ peak ∧ depth = fall peak level := by
  obtain ⟨k, level, peak, found, highest, rfl⟩ := member
  have here : level ∈ levels.take (k + 1) :=
    List.mem_iff_getElem?.mpr ⟨k, by rw [List.getElem?_take, if_pos (by omega), found]⟩
  exact ⟨peak, List.mem_of_mem_take highest.1, level, List.mem_of_getElem? found,
    highest.2 here, rfl⟩

variable [LinearOrder β]

/-- A peak and a depth are the greatest level and the deepest fall of a series. -/
structure TracksFalls (levels : List α) (peak : α) (deepest : β) : Prop where
  peak : IsGreatest {level | level ∈ levels} peak
  deepest : IsGreatest (Falls fall levels) deepest

variable {fall}

namespace TracksFalls

/-- The first level. -/
theorem single (level : α) : TracksFalls fall [level] level (fall level level) where
  peak := by simp [IsGreatest, upperBounds]
  deepest := by
    have only : Falls fall ([] ++ [level]) = insert (fall level level) (Falls fall []) :=
      falls_append fall (by simp [IsGreatest, upperBounds])
    have none : Falls fall ([] : List α) = ∅ := by
      ext depth
      simp [Falls]
    rw [List.nil_append, none] at only
    rw [only]
    simp

/-- One more level: the peak first, and then the fall from it. -/
theorem next {levels : List α} {peak : α} {deepest : β}
    (tracks : TracksFalls fall levels peak deepest) (level : α) :
    TracksFalls fall (levels ++ [level]) (max peak level)
      (max deepest (fall (max peak level) level)) where
  peak := isGreatest_append tracks.peak level
  deepest := by
    rw [falls_append fall (isGreatest_append tracks.peak level), max_comm deepest]
    exact tracks.deepest.insert _

end TracksFalls

/-- Where a higher peak makes a fall deeper, the deepest fall is the deepest between any level
and a later one. -/
theorem isGreatest_pairs (deeper : ∀ level, Monotone fun peak => fall peak level)
    {levels : List α} {deepest : β} (greatest : IsGreatest (Falls fall levels) deepest) :
    IsGreatest {depth | ∃ (i j : ℕ) (high low : α), i ≤ j ∧ levels[i]? = some high ∧
      levels[j]? = some low ∧ depth = fall high low} deepest := by
  constructor
  · obtain ⟨k, level, peak, found, highest, rfl⟩ := greatest.1
    obtain ⟨i, at_i⟩ := List.mem_iff_getElem?.mp highest.1
    rw [List.getElem?_take] at at_i
    split at at_i
    · exact ⟨i, k, peak, level, by omega, at_i, found, rfl⟩
    · cases at_i
  · rintro _ ⟨i, j, high, low, before, at_i, at_j, rfl⟩
    have member : high ∈ levels.take (j + 1) :=
      List.mem_iff_getElem?.mpr ⟨i, by rw [List.getElem?_take, if_pos (by omega), at_i]⟩
    have some : ((levels.take (j + 1)).toFinset).Nonempty := ⟨high, List.mem_toFinset.mpr member⟩
    have highest : IsGreatest {earlier | earlier ∈ levels.take (j + 1)}
        ((levels.take (j + 1)).toFinset.max' some) := by
      simpa using Finset.isGreatest_max' _ some
    calc fall high low
        ≤ fall ((levels.take (j + 1)).toFinset.max' some) low := deeper low (highest.2 member)
      _ ≤ deepest := greatest.2 ⟨j, low, _, at_j, highest, rfl⟩

end AlphaAgent.Foundation
