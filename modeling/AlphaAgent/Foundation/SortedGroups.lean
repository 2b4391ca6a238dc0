import AlphaAgent.Foundation.Grouping
import AlphaAgent.Foundation.Newest
import Mathlib.Data.List.Dedup

/-!
# The newest groups of a query

A query returns rows from the greatest key to the least, and not more than a limit. Where
no key has more than `width` rows, the first `limit` groups of the first `limit * width`
rows are whole, and they are the groups of the greatest keys.
-/

namespace AlphaAgent.Foundation

universe u v w

variable {α : Type u} {κ : Type v} {ν : Type w} [LinearOrder κ] (key : α → κ)

/-- Groups of rows in descending order come in descending order. -/
theorem keys_collect_descending (update : Option ν → α → ν) {rows : List α}
    (sorted : rows.Pairwise fun first second => key second ≤ key first) :
    (Dict.collect key update rows).keys.Pairwise (· > ·) := by
  induction rows using List.reverseRecOn with
  | nil => exact List.Pairwise.nil
  | append_singleton rows row ih =>
    obtain ⟨sorted, -, last⟩ := List.pairwise_append.mp sorted
    rw [Dict.collect_concat, Dict.collectRow, Dict.keys]
    by_cases known : key row ∈ (Dict.collect key update rows).keys
    · rw [Dict.entries_set_of_bound known, Dict.keys_replace]
      exact ih sorted
    · rw [Dict.entries_set_of_unbound known, List.map_append, List.pairwise_append]
      refine ⟨ih sorted, List.pairwise_singleton _ _, fun earlier isKey other single => ?_⟩
      cases List.mem_singleton.mp single
      obtain ⟨first, member, rfl⟩ := (Dict.mem_keys_collect key update rows earlier).mp isKey
      refine lt_of_le_of_ne (last first member row List.mem_cons_self) fun same => known ?_
      exact (Dict.mem_keys_collect key update rows _).mpr ⟨first, member, same.symm⟩

/-- Of keys in descending order, the first are those with few greater ones. -/
theorem mem_take_descending {keys : List κ} (sorted : keys.Pairwise (· > ·)) (limit : ℕ)
    (wanted : κ) :
    wanted ∈ keys.take limit ↔ wanted ∈ keys ∧ (keys.filter (wanted < ·)).length < limit := by
  induction keys generalizing limit with
  | nil => simp
  | cons first rest ih =>
    obtain ⟨greater, sorted⟩ := List.pairwise_cons.mp sorted
    cases limit with
    | zero => simp
    | succ limit =>
      rw [List.take_succ_cons, List.mem_cons, ih sorted, List.mem_cons, List.filter_cons]
      by_cases isFirst : wanted = first
      · have none : rest.filter (wanted < ·) = [] :=
          List.filter_eq_nil_iff.mpr fun other member => by
            simpa [isFirst] using (greater other member).le
        simp [isFirst, isFirst ▸ none]
      · have absent : wanted ∈ rest → wanted < first := greater wanted
        rw [or_iff_right isFirst, or_iff_right isFirst]
        refine and_congr_right fun member => ?_
        simp [absent member]

/-- The first rows hold all rows of a key which has few rows before its end. -/
theorem filter_take_descending {rows : List α}
    (sorted : rows.Pairwise fun first second => key second ≤ key first) {limit : ℕ} {wanted : κ}
    (room : (rows.filter (wanted ≤ key ·)).length ≤ limit) :
    (rows.take limit).filter (key · = wanted) = rows.filter (key · = wanted) := by
  induction rows generalizing limit with
  | nil => simp
  | cons row rest ih =>
    obtain ⟨greater, sorted⟩ := List.pairwise_cons.mp sorted
    cases limit with
    | zero =>
      have few := List.length_eq_zero_iff.mp (Nat.le_zero.mp room)
      rw [List.take_zero, List.filter_nil]
      refine (List.filter_eq_nil_iff.mpr fun other member same => ?_).symm
      refine List.filter_eq_nil_iff.mp few other member ?_
      simpa using (of_decide_eq_true same).ge
    | succ limit =>
      rw [List.take_succ_cons, List.filter_cons, List.filter_cons]
      by_cases reached : wanted ≤ key row
      · have room : (rest.filter (wanted ≤ key ·)).length ≤ limit := by
          simpa [List.filter_cons, reached] using room
        rw [ih sorted room]
      · have none : ∀ other ∈ row :: rest, key other ≠ wanted := by
          intro other member same
          rcases List.mem_cons.mp member with rfl | member
          · exact reached same.ge
          · exact reached (same ▸ greater other member)
        have after : rest.filter (key · = wanted) = [] :=
          List.filter_eq_nil_iff.mpr fun other member same =>
            none other (List.mem_cons_of_mem _ member) (of_decide_eq_true same)
        have before : (rest.take limit).filter (key · = wanted) = [] :=
          List.filter_eq_nil_iff.mpr fun other member same =>
            none other (List.mem_cons_of_mem _ (List.mem_of_mem_take member))
              (of_decide_eq_true same)
        rw [after, before]

omit [LinearOrder κ] in
theorem length_filter_or_le (first second : α → Bool) (rows : List α) :
    (rows.filter fun row => first row || second row).length ≤
      (rows.filter first).length + (rows.filter second).length := by
  induction rows with
  | nil => simp
  | cons row rest ih =>
    simp only [List.filter_cons]
    cases first row <;> cases second row <;> simp at ih ⊢ <;> omega

/-- Rows of a few keys are few. -/
theorem length_filter_mem_le {rows : List α} {width : ℕ}
    (few : ∀ wanted, (rows.filter (key · = wanted)).length ≤ width) (keys : List κ) :
    (rows.filter (key · ∈ keys)).length ≤ keys.length * width := by
  induction keys with
  | nil => simp
  | cons first rest ih =>
    have split := length_filter_or_le (key · = first) (key · ∈ rest) rows
    have same : rows.filter (key · ∈ first :: rest) =
        rows.filter fun row => decide (key row = first) || decide (key row ∈ rest) := by
      simp [List.mem_cons]
    have own := few first
    rw [same, List.length_cons, Nat.add_mul, Nat.one_mul]
    omega

section Cut

variable {rows : List α} (sorted : rows.Pairwise fun first second => key second ≤ key first)
  {width : ℕ} (few : ∀ wanted, (rows.filter (key · = wanted)).length ≤ width) (limit : ℕ)

/-- A key of a row with fewer greater keys than the limit. -/
def IsAmongGreatest (rows : List α) (limit : ℕ) (wanted : κ) : Prop :=
  wanted ∈ rows.map key ∧ ((rows.map key).dedup.filter (wanted < ·)).length < limit

include few in
/-- Their rows and those of the greater keys are within the limit of the query. -/
theorem length_filter_le {wanted : κ} (among : IsAmongGreatest key rows limit wanted) :
    (rows.filter (wanted ≤ key ·)).length ≤ limit * width := by
  let greatest := wanted :: (rows.map key).dedup.filter (wanted < ·)
  have same : rows.filter (wanted ≤ key ·) = rows.filter (key · ∈ greatest) := by
    refine List.filter_congr fun row member => ?_
    have isKey : key row ∈ rows.map key := List.mem_map_of_mem member
    simp [greatest, isKey, le_iff_eq_or_lt, eq_comm]
  calc (rows.filter (wanted ≤ key ·)).length
    _ ≤ greatest.length * width := by
      rw [same]
      exact length_filter_mem_le key few greatest
    _ ≤ limit * width := Nat.mul_le_mul_right width among.2

include sorted few in
/-- The groups of the greatest keys are whole. -/
theorem get?_collect_take (update : Option ν → α → ν) {wanted : κ}
    (among : IsAmongGreatest key rows limit wanted) :
    (Dict.collect key update (rows.take (limit * width))).get? wanted =
      (Dict.collect key update rows).get? wanted := by
  rw [Dict.get?_collect, Dict.get?_collect,
    filter_take_descending key sorted (length_filter_le key few limit among)]

include sorted few in
/-- The first groups of the first rows are those of the greatest keys. -/
theorem mem_take_keys_collect (update : Option ν → α → ν) (wanted : κ) :
    wanted ∈ (Dict.collect key update (rows.take (limit * width))).keys.take limit ↔
      IsAmongGreatest key rows limit wanted := by
  have cut := keys_collect_descending key update
      (sorted.sublist (List.take_sublist (limit * width) rows))
  have distinct := (Dict.collect key update (rows.take (limit * width))).distinct
  have isKey : ∀ other, other ∈ (Dict.collect key update (rows.take (limit * width))).keys ↔
      ∃ row ∈ rows.take (limit * width), key row = other := Dict.mem_keys_collect key update _
  rw [mem_take_descending cut]
  constructor
  · rintro ⟨known, fewGreater⟩
    obtain ⟨row, taken, rfl⟩ := (isKey wanted).mp known
    refine ⟨List.mem_map_of_mem (List.mem_of_mem_take taken), lt_of_le_of_lt ?_ fewGreater⟩
    -- All greater keys have rows before a row which was taken.
    refine (List.subperm_of_subset ((List.nodup_dedup _).filter _) ?_).length_le
    intro other member
    obtain ⟨stored, greater⟩ := List.mem_filter.mp member
    obtain ⟨first, located, rfl⟩ := List.mem_map.mp (List.mem_dedup.mp stored)
    have greater : key row < key first := of_decide_eq_true greater
    refine List.mem_filter.mpr ⟨(isKey _).mpr ⟨first, ?_, rfl⟩, decide_eq_true greater⟩
    rw [← List.take_append_drop (limit * width) rows] at sorted located
    refine (List.mem_append.mp located).resolve_right fun dropped => ?_
    exact absurd ((List.pairwise_append.mp sorted).2.2 row taken first dropped) (not_le.mpr greater)
  · intro among
    have whole := filter_take_descending key sorted (length_filter_le key few limit among)
    obtain ⟨row, member, same⟩ := List.mem_map.mp among.1
    have taken : row ∈ (rows.take (limit * width)).filter (key · = wanted) := by
      rw [whole]
      exact List.mem_filter.mpr ⟨member, decide_eq_true same⟩
    refine ⟨(isKey wanted).mpr ⟨row, List.mem_of_mem_filter taken, same⟩, lt_of_le_of_lt ?_ among.2⟩
    refine (List.subperm_of_subset (distinct.filter _) fun other member => ?_).length_le
    obtain ⟨known, greater⟩ := List.mem_filter.mp member
    obtain ⟨first, taken, rfl⟩ := (isKey other).mp known
    refine List.mem_filter.mpr ⟨List.mem_dedup.mpr ?_, greater⟩
    exact List.mem_map_of_mem (List.mem_of_mem_take taken)

end Cut
end AlphaAgent.Foundation
