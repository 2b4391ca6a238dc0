import AlphaAgent.Foundation.Dict
import Mathlib.Data.List.Induction

/-!
# Collecting rows by a key

A loop which updates, for each row, the value of the row's key in a dictionary. What a
key is bound to in the end is the fold over its own rows; and what is collected under
some of the keys is collected from their rows alone.
-/

namespace AlphaAgent.Foundation

universe u v w

namespace Dict

variable {α : Type u} {κ : Type v} {ν : Type w} [DecidableEq κ]

section Entries

omit [DecidableEq κ] in
theorem ext_entries {first second : Dict κ ν} (same : first.entries = second.entries) :
    first = second := by
  cases first
  cases second
  congr

theorem entries_set_of_bound {dict : Dict κ ν} {key : κ} (bound : key ∈ dict.keys) (value : ν) :
    (dict.set key value).entries = dict.entries.map (replaceEntry key value) := by
  rw [set, dif_pos bound]

theorem entries_set_of_unbound {dict : Dict κ ν} {key : κ} (unbound : key ∉ dict.keys) (value : ν) :
    (dict.set key value).entries = dict.entries ++ [(key, value)] := by
  rw [set, dif_neg unbound]

/-- The entries of some of the keys are set as they would be without the others. -/
theorem entries_set_of_filter {chosen : κ → Bool} {dict part : Dict κ ν}
    (same : part.entries = dict.entries.filter fun entry => chosen entry.1) {key : κ}
    (isChosen : chosen key = true) (value : ν) :
    (part.set key value).entries =
      (dict.set key value).entries.filter fun entry => chosen entry.1 := by
  have bound : key ∈ part.keys ↔ key ∈ dict.keys := by
    simp only [keys, same, List.mem_map, List.mem_filter]
    constructor
    · rintro ⟨entry, ⟨member, -⟩, rfl⟩
      exact ⟨entry, member, rfl⟩
    · rintro ⟨entry, member, rfl⟩
      exact ⟨entry, ⟨member, isChosen⟩, rfl⟩
  by_cases known : key ∈ dict.keys
  · rw [entries_set_of_bound known, entries_set_of_bound (bound.mpr known), same, List.filter_map]
    simp only [Function.comp_def, replaceEntry_fst]
  · rw [entries_set_of_unbound known, entries_set_of_unbound (mt bound.mp known), same,
      List.filter_append, List.filter_singleton, isChosen]
    rfl

/-- Setting another key leaves them alone. -/
theorem filter_entries_set {chosen : κ → Bool} (dict : Dict κ ν) {key : κ}
    (other : chosen key = false) (value : ν) :
    (dict.set key value).entries.filter (fun entry => chosen entry.1) =
      dict.entries.filter fun entry => chosen entry.1 := by
  by_cases known : key ∈ dict.keys
  · rw [entries_set_of_bound known, List.filter_map]
    simp only [Function.comp_def, replaceEntry_fst]
    refine (List.map_congr_left fun entry member => ?_).trans (List.map_id _)
    have skip : entry.1 ≠ key := by
      rintro rfl
      rw [(List.mem_filter.mp member).2] at other
      cases other
    exact if_neg skip
  · rw [entries_set_of_unbound known, List.filter_append, List.filter_singleton, other]
    exact List.append_nil _

/-- A key which is set to what it has keeps the dictionary. -/
theorem entries_set_self {dict : Dict κ ν} {key : κ} {value : ν}
    (bound : dict.get? key = some value) : (dict.set key value).entries = dict.entries := by
  rw [entries_set_of_bound (mem_keys_of_get? bound)]
  refine (List.map_congr_left fun entry member => ?_).trans (List.map_id _)
  unfold replaceEntry
  split_ifs with same
  · have current := get?_of_mem_entries member
    rw [same, bound, Option.some.injEq] at current
    rw [← same, current]
    rfl
  · rfl

/-- A key which is set to what it has changes nothing. -/
theorem set_of_get? {dict : Dict κ ν} {key : κ} {value : ν} (bound : dict.get? key = some value) :
    dict.set key value = dict :=
  ext_entries (entries_set_self bound)

/-- The second of two values for one key is the one which is set. -/
theorem set_set (dict : Dict κ ν) (key : κ) (first second : ν) :
    (dict.set key first).set key second = dict.set key second := by
  apply ext_entries
  rw [entries_set_of_bound ((mem_keys_set dict key key first).mpr (.inl rfl))]
  by_cases known : key ∈ dict.keys
  · rw [entries_set_of_bound known, entries_set_of_bound known, List.map_map]
    apply List.map_congr_left
    intro entry member
    by_cases same : entry.1 = key <;> simp [replaceEntry, same]
  · rw [entries_set_of_unbound known, entries_set_of_unbound known, List.map_append]
    congr 1
    · refine (List.map_congr_left fun entry member => ?_).trans (List.map_id _)
      have skip : entry.1 ≠ key := by
        rintro rfl
        exact known (List.mem_map_of_mem member)
      exact if_neg skip
    · simp [replaceEntry]

/-- A dictionary reads what its entries are. -/
theorem get?_congr {first second : Dict κ ν} (same : first.entries = second.entries) (key : κ) :
    first.get? key = second.get? key := by
  rw [get?, get?, same]

end Entries

variable (key : α → κ) (update : Option ν → α → ν)

/-- One turn of the loop. -/
def collectRow (dict : Dict κ ν) (row : α) : Dict κ ν :=
  dict.set (key row) (update (dict.get? (key row)) row)

/-- The loop over all rows. -/
def collect (rows : List α) : Dict κ ν := rows.foldl (collectRow key update) .empty

theorem collect_append (first second : List α) :
    collect key update (first ++ second) =
      second.foldl (collectRow key update) (collect key update first) :=
  List.foldl_append

theorem collect_concat (rows : List α) (row : α) :
    collect key update (rows ++ [row]) = collectRow key update (collect key update rows) row :=
  collect_append key update rows [row]

/-- A key is bound to the fold over its own rows. -/
theorem get?_collect (rows : List α) (wanted : κ) :
    (collect key update rows).get? wanted =
      (rows.filter (key · = wanted)).foldl (fun value row => some (update value row)) none := by
  induction rows using List.reverseRecOn with
  | nil => rfl
  | append_singleton rows row ih =>
    rw [collect_concat, collectRow, get?_set, List.filter_append, List.foldl_append, ← ih,
      List.filter_singleton]
    by_cases same : key row = wanted
    · subst same
      simp
    · simp [same, Ne.symm same]

omit [DecidableEq κ] in
/-- A fold which always binds a value finds none only in no rows. -/
theorem foldl_some_eq_none {rows : List α} :
    rows.foldl (fun value row => some (update value row)) none = none ↔ rows = [] := by
  induction rows using List.reverseRecOn with
  | nil => exact iff_of_true rfl rfl
  | append_singleton rows row _ =>
    rw [List.foldl_append]
    exact iff_of_false nofun (List.append_ne_nil_of_right_ne_nil _ (List.cons_ne_nil _ _))

omit [DecidableEq κ] in
/-- Where all rows start a value alike, the fold is the fold from there. -/
theorem foldl_getD {start : α → ν} {step : ν → α → ν} {initial : ν} {rows : List α}
    (alike : ∀ row ∈ rows, start row = initial) :
    rows.foldl (fun value row => some (step (value.getD (start row)) row)) none =
      if rows = [] then none else some (rows.foldl step initial) := by
  induction rows using List.reverseRecOn with
  | nil => rfl
  | append_singleton rows row ih =>
    have before := ih fun other member => alike other (List.mem_append_left _ member)
    have starts : start row = initial := alike row (List.mem_append_right _ List.mem_cons_self)
    rw [List.foldl_append, before,
      if_neg (List.append_ne_nil_of_right_ne_nil _ (List.cons_ne_nil _ _)),
      List.foldl_append, List.foldl_cons, List.foldl_nil, starts]
    split_ifs with empty
    · rw [empty]
      rfl
    · rfl

omit [DecidableEq κ] in
/-- A group lists what its rows project to, in their order. -/
theorem foldl_group {β : Type*} (project : α → β) (rows : List α) :
    rows.foldl (fun value row => some (value.getD [] ++ [project row])) none =
      if rows = [] then none else some (rows.map project) := by
  have grouped : rows.foldl (fun samples row => samples ++ [project row]) [] =
      rows.map project := by
    rw [List.foldl_append_eq_append, List.nil_append, ← List.flatMap_def, ← List.map_eq_flatMap]
  rw [← grouped]
  exact @foldl_getD α (List β) (fun _ => []) (fun samples row => samples ++ [project row]) [] rows
    fun _ _ => rfl

theorem mem_keys_collect (rows : List α) (wanted : κ) :
    wanted ∈ (collect key update rows).keys ↔ ∃ row ∈ rows, key row = wanted := by
  induction rows using List.reverseRecOn with
  | nil => simp [collect, keys, empty]
  | append_singleton rows row ih =>
    rw [collect_concat, collectRow, mem_keys_set, ih]
    simp only [List.mem_append, List.mem_singleton, or_and_right, exists_or, exists_eq_left]
    rw [or_comm, eq_comm]

/-- What is collected under some of the keys is collected from their rows alone. -/
theorem collect_filter (chosen : κ → Bool) (rows : List α) :
    (collect key update (rows.filter fun row => chosen (key row))).entries =
      (collect key update rows).entries.filter fun entry => chosen entry.1 := by
  induction rows using List.reverseRecOn with
  | nil => rfl
  | append_singleton rows row ih =>
    rw [collect_concat, collectRow, List.filter_append, List.filter_singleton]
    cases isChosen : chosen (key row) with
    | false =>
      rw [filter_entries_set _ isChosen]
      simpa using ih
    | true =>
      have read : (collect key update (rows.filter fun row => chosen (key row))).get? (key row) =
          (collect key update rows).get? (key row) := by
        rw [get?_collect, get?_collect, List.filter_filter]
        congr 2
        funext other
        by_cases same : key other = key row
        · simp [same, isChosen]
        · simp [same]
      rw [cond_true, collect_concat, collectRow, read]
      exact entries_set_of_filter ih isChosen _

/-- Rows which leave the values of their keys as they are change nothing. -/
theorem collect_append_of_kept {first second : List α}
    (kept : ∀ row ∈ second, ∃ value, (collect key update first).get? (key row) = some value ∧
      update (some value) row = value) :
    (collect key update (first ++ second)).entries = (collect key update first).entries := by
  rw [collect_append]
  induction second using List.reverseRecOn with
  | nil => rfl
  | append_singleton rows row ih =>
    have same := ih fun other member => kept other (List.mem_append_left _ member)
    obtain ⟨value, bound, stays⟩ := kept row (List.mem_append_right _ List.mem_cons_self)
    rw [← get?_congr same] at bound
    rw [List.foldl_append, List.foldl_cons, List.foldl_nil, collectRow, bound, stays,
      entries_set_self bound, same]

/-- Every row is in one group. -/
theorem total_length_group {β : Type*} (project : α → β) (rows : List α) :
    (collect key (fun samples row => samples.getD [] ++ [project row]) rows).total List.length =
      rows.length := by
  induction rows using List.reverseRecOn with
  | nil => rfl
  | append_singleton rows row ih =>
    rw [collect_concat, collectRow, List.length_append, List.length_singleton, ← ih]
    cases bound : (collect key (fun samples row => samples.getD [] ++ [project row]) rows).get?
        (key row) with
    | none => exact total_set_of_unbound _ _ bound
    | some group =>
      have kept := total_set_of_bound (group ++ [project row]) List.length bound
      rw [List.length_append, List.length_singleton] at kept
      rw [Option.getD_some]
      omega

/-- Sums under each key add up to the sum over all rows. -/
theorem total_collect_add {M : Type*} [AddCommGroup M] (weight : α → M) (rows : List α) :
    (collect key (fun sum row => sum.getD 0 + weight row) rows).total id =
      (rows.map weight).sum := by
  induction rows using List.reverseRecOn with
  | nil => rfl
  | append_singleton rows row ih =>
    rw [collect_concat, collectRow, List.map_append, List.sum_append, List.map_singleton,
      List.sum_singleton, ← ih]
    cases bound : (collect key (fun sum row => sum.getD 0 + weight row) rows).get? (key row) with
    | none =>
      rw [total_set_of_unbound _ _ bound, Option.getD_none, zero_add, id]
    | some sum =>
      have kept := total_set_of_bound (sum + weight row) id bound
      rw [id, id, add_assoc] at kept
      rw [Option.getD_some, add_left_cancel kept, add_comm]

end Dict
end AlphaAgent.Foundation
