import Mathlib.Data.List.Induction
import Mathlib.Data.List.Nodup
import Mathlib.Tactic.Common

/-!
# Rows which are kept by a key

An update assigns to the row of its key, or adds a fresh row and assigns to that. So no
update gives a key a second row or moves a row, and a sequence of updates does to each
key what the updates of this key do.
-/

namespace AlphaAgent.Foundation

universe u v w

variable {α : Type u} {κ : Type v} {ι : Type w} [DecidableEq κ] (key : α → κ)

/-- The row of a key. -/
def rowOf (wanted : κ) (rows : List α) : Option α := rows.find? fun row => key row = wanted

/-- Assign to the row of a key; where there is none, to a fresh row behind the others. -/
def upsert (wanted : κ) (assign : α → α) (fresh : α) : List α → List α
  | [] => [assign fresh]
  | row :: rest =>
    if key row = wanted then assign row :: rest else row :: upsert wanted assign fresh rest

variable {key} {wanted : κ} {assign : α → α} {fresh : α}

theorem rowOf_eq_none {rows : List α} : rowOf key wanted rows = none ↔ wanted ∉ rows.map key := by
  simp [rowOf]

theorem rowOf_eq_some {rows : List α} {row : α} (found : rowOf key wanted rows = some row) :
    row ∈ rows ∧ key row = wanted := by
  refine ⟨List.mem_of_find?_eq_some found, ?_⟩
  simpa using List.find?_some found

/-- Where the keys are distinct, a row is the one of its key. -/
theorem rowOf_of_mem {rows : List α} (distinct : (rows.map key).Nodup) {row : α}
    (member : row ∈ rows) :
    rowOf key (key row) rows = some row := by
  cases found : rowOf key (key row) rows with
  | none => exact absurd (List.mem_map_of_mem member) (rowOf_eq_none.mp found)
  | some other =>
    obtain ⟨located, same⟩ := rowOf_eq_some found
    rw [List.inj_on_of_nodup_map distinct located member same]

/-- Distinct keys have one row each. -/
theorem filter_key_of_nodup {rows : List α} (distinct : (rows.map key).Nodup) :
    rows.filter (key · = wanted) = (rowOf key wanted rows).toList := by
  induction rows with
  | nil => rfl
  | cons row rest ih =>
    rw [List.map_cons, List.nodup_cons] at distinct
    rw [List.filter_cons, rowOf, List.find?_cons]
    by_cases same : key row = wanted
    · have none : rest.filter (key · = wanted) = [] :=
        List.filter_eq_nil_iff.mpr fun other member isWanted => distinct.1 (by
          rw [same, ← of_decide_eq_true isWanted]
          exact List.mem_map_of_mem member)
      simp [same, none]
    · simpa [same, rowOf] using ih distinct.2

/-- The row of a key does not depend on the order of the rows. -/
theorem rowOf_perm {rows others : List α} (distinct : (rows.map key).Nodup)
    (same : rows.Perm others) :
    rowOf key wanted rows = rowOf key wanted others := by
  have own := same.filter (key · = wanted)
  rw [filter_key_of_nodup distinct, filter_key_of_nodup ((same.map key).nodup_iff.mp distinct)]
    at own
  cases first : rowOf key wanted rows with
  | none =>
    rw [first] at own
    cases second : rowOf key wanted others with
    | none => rfl
    | some row => simp [second] at own
  | some row =>
    rw [first] at own
    cases second : rowOf key wanted others with
    | none => simp [second] at own
    | some other => simpa [second] using own

section Update

variable (keeps : ∀ row, key (assign row) = key row) (freshKey : key fresh = wanted)
include keeps freshKey

/-- A known key stays in its place; a new one comes last. -/
theorem keys_upsert (rows : List α) : (upsert key wanted assign fresh rows).map key =
    if wanted ∈ rows.map key then rows.map key else rows.map key ++ [wanted] := by
  induction rows with
  | nil => simp [upsert, keeps, freshKey]
  | cons row rest ih =>
    rw [upsert]
    by_cases same : key row = wanted
    · simp [same, keeps]
    · have known : wanted ∈ (row :: rest).map key ↔ wanted ∈ rest.map key := by
        rw [List.map_cons, List.mem_cons, or_iff_right (Ne.symm same)]
      rw [if_neg same, List.map_cons, ih, if_congr known rfl rfl]
      split_ifs <;> rfl

theorem nodup_upsert {rows : List α} (distinct : (rows.map key).Nodup) :
    ((upsert key wanted assign fresh rows).map key).Nodup := by
  rw [keys_upsert keeps freshKey]
  split_ifs with known
  · exact distinct
  · exact List.nodup_append_comm.mp (List.nodup_cons.mpr ⟨known, distinct⟩)

/-- An update concerns its own key alone. -/
theorem rowOf_upsert (other : κ) (rows : List α) :
    rowOf key other (upsert key wanted assign fresh rows) =
      if other = wanted then some (assign ((rowOf key wanted rows).getD fresh))
      else rowOf key other rows := by
  unfold rowOf
  induction rows with
  | nil =>
    by_cases same : other = wanted
    · simp [upsert, keeps, freshKey, same]
    · simp [upsert, keeps, freshKey, same, Ne.symm same]
  | cons row rest ih =>
    rw [upsert]
    by_cases isRow : key row = wanted
    · rw [if_pos isRow, List.find?_cons, List.find?_cons, List.find?_cons, keeps, isRow]
      by_cases same : other = wanted
      · simp [same]
      · simp [same, Ne.symm same]
    · rw [if_neg isRow, List.find?_cons, ih, List.find?_cons, List.find?_cons]
      by_cases same : other = wanted
      · simp [same, isRow]
      · rw [if_neg same, if_neg same]

end Update

section Run

variable (key) (target : ι → κ) (assigns : ι → α → α) (adds : ι → α)

/-- One update after the other. -/
def upsertAll (rows : List α) (updates : List ι) : List α :=
  updates.foldl
    (fun rows update => upsert key (target update) (assigns update) (adds update) rows) rows

variable {key target assigns adds} (keeps : ∀ update row, key (assigns update row) = key row)
  (freshKey : ∀ update, key (adds update) = target update)
include keeps freshKey

theorem nodup_upsertAll {rows : List α} (distinct : (rows.map key).Nodup) (updates : List ι) :
    ((upsertAll key target assigns adds rows updates).map key).Nodup := by
  induction updates generalizing rows with
  | nil => exact distinct
  | cons update rest ih => exact ih (nodup_upsert (keeps update) (freshKey update) distinct)

/-- The rows which were there stay where they were, and the others come behind them. -/
theorem keys_prefix_upsertAll (rows : List α) (updates : List ι) :
    rows.map key <+: (upsertAll key target assigns adds rows updates).map key := by
  induction updates generalizing rows with
  | nil => exact List.prefix_refl _
  | cons update rest ih =>
    refine List.IsPrefix.trans ?_ (ih _)
    rw [keys_upsert (keeps update) (freshKey update)]
    split_ifs
    · exact List.prefix_refl _
    · exact List.prefix_append _ _

/-- The updates of a key do to its row what they do in their order. -/
theorem rowOf_upsertAll (wanted : κ) (rows : List α) (updates : List ι) :
    rowOf key wanted (upsertAll key target assigns adds rows updates) =
      (updates.filter (target · = wanted)).foldl
        (fun row update => some (assigns update (row.getD (adds update))))
        (rowOf key wanted rows) := by
  induction updates generalizing rows with
  | nil => rfl
  | cons update rest ih =>
    have next := rowOf_upsert (keeps update) (freshKey update) wanted rows
    rw [upsertAll, List.foldl_cons, ← upsertAll, ih, next, List.filter_cons]
    by_cases same : target update = wanted
    · simp [same]
    · simp [same, Ne.symm same]

/-- What each update overwrites is what the last update of the key writes. -/
theorem map_rowOf_upsertAll {β : Type*} (project : α → β) (writes : ι → β)
    (overwrites : ∀ update row, project (assigns update row) = writes update) (wanted : κ)
    (rows : List α) (updates : List ι) :
    (rowOf key wanted (upsertAll key target assigns adds rows updates)).map project =
      ((updates.filter (target · = wanted)).getLast?.map writes).or
        ((rowOf key wanted rows).map project) := by
  rw [rowOf_upsertAll keeps freshKey]
  generalize updates.filter (target · = wanted) = own
  induction own using List.reverseRecOn with
  | nil => simp
  | append_singleton before update _ =>
    rw [List.foldl_append, List.getLast?_concat]
    simp [overwrites]

/-- What no update touches stays what it was. -/
theorem map_rowOf_of_kept {β : Type*} (project : α → β)
    (kept : ∀ update row, project (assigns update row) = project row) {wanted : κ} {rows : List α}
    {row : α} (found : rowOf key wanted rows = some row) (updates : List ι) :
    (rowOf key wanted (upsertAll key target assigns adds rows updates)).map project =
      some (project row) := by
  rw [rowOf_upsertAll keeps freshKey, found]
  induction updates.filter (target · = wanted) using List.reverseRecOn with
  | nil => rfl
  | append_singleton before update ih =>
    rw [List.foldl_append]
    cases changed : before.foldl (fun row update => some (assigns update (row.getD (adds update))))
        (some row) with
    | none => rw [changed] at ih; cases ih
    | some changed' =>
      rw [changed] at ih
      simpa [kept] using ih

end Run
end AlphaAgent.Foundation
