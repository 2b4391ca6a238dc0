import Mathlib.Algebra.BigOperators.Group.List.Basic
import Mathlib.Algebra.Group.Basic
import Mathlib.Data.List.Nodup

/-!
# Insertion-ordered dictionaries

A dictionary keeps its keys in the order in which they were first set. The
distinctness of the keys is a field, so no operation can build a dictionary
which binds one key twice. `Dict.total` adds a weight over the bound values;
the `total_` lemmas say what one update does to such a sum.
-/

namespace AlphaAgent.Foundation

universe u v

/-- Key-value bindings in insertion order, no key bound twice. -/
structure Dict (κ : Type u) (ν : Type v) where
  entries : List (κ × ν)
  distinct : (entries.map Prod.fst).Nodup

namespace Dict

variable {κ : Type u} {ν : Type v}

/-- The dictionary without bindings. -/
def empty : Dict κ ν := ⟨[], List.nodup_nil⟩

/-- The bound keys, oldest first. -/
def keys (dict : Dict κ ν) : List κ := dict.entries.map Prod.fst

/-- The bound values, oldest key first. -/
def values (dict : Dict κ ν) : List ν := dict.entries.map Prod.snd

variable [DecidableEq κ]

/-- The value bound to a key. -/
def get? (dict : Dict κ ν) (key : κ) : Option ν :=
  (dict.entries.find? fun entry => entry.1 = key).map Prod.snd

/-- Whether a key is bound. -/
def contains (dict : Dict κ ν) (key : κ) : Bool := (dict.get? key).isSome

/-- Replace the value of one key in place. -/
def replaceEntry (key : κ) (value : ν) (entry : κ × ν) : κ × ν :=
  if entry.1 = key then (key, value) else entry

@[simp] theorem replaceEntry_fst (key : κ) (value : ν) (entry : κ × ν) :
    (replaceEntry key value entry).1 = entry.1 := by
  unfold replaceEntry
  split
  · next same => exact same.symm
  · rfl

theorem keys_replace (key : κ) (value : ν) (entries : List (κ × ν)) :
    (entries.map (replaceEntry key value)).map Prod.fst = entries.map Prod.fst := by
  simp [List.map_map, Function.comp_def]

theorem get?_eq_none_iff (dict : Dict κ ν) (key : κ) :
    dict.get? key = none ↔ key ∉ dict.keys := by
  simp only [get?, Option.map_eq_none_iff, List.find?_eq_none, decide_eq_true_eq, keys,
    List.mem_map, not_exists, not_and]

/-- A dictionary in which no key reads as a value has no bindings. -/
theorem entries_eq_nil_of_get? {dict : Dict κ ν} (unbound : ∀ key, dict.get? key = none) :
    dict.entries = [] := by
  apply List.eq_nil_iff_forall_not_mem.mpr
  intro entry member
  exact (get?_eq_none_iff dict entry.1).mp (unbound entry.1) (List.mem_map_of_mem member)

/-- A key that reads as a value is bound. -/
theorem mem_keys_of_get? {dict : Dict κ ν} {key : κ} {value : ν}
    (found : dict.get? key = some value) : key ∈ dict.keys := by
  by_contra unbound
  rw [(get?_eq_none_iff dict key).mpr unbound] at found
  cases found

/-- A bound key keeps its position; a new key goes to the end. -/
def set (dict : Dict κ ν) (key : κ) (value : ν) : Dict κ ν :=
  if bound : key ∈ dict.keys then
    ⟨dict.entries.map (replaceEntry key value), by
      rw [keys_replace]
      exact dict.distinct⟩
  else
    ⟨dict.entries ++ [(key, value)], by
      rw [List.map_append, List.nodup_append]
      refine ⟨dict.distinct, List.nodup_singleton key, ?_⟩
      intro old member new single
      simp only [List.map_cons, List.map_nil, List.mem_singleton] at single
      rintro rfl
      exact bound (single ▸ member)⟩

/-- Remove one key; an unbound key is ignored. -/
def erase (dict : Dict κ ν) (key : κ) : Dict κ ν :=
  ⟨dict.entries.filter fun entry => entry.1 ≠ key,
    dict.distinct.sublist (List.filter_sublist.map Prod.fst)⟩

@[simp] theorem get?_empty (key : κ) : (empty : Dict κ ν).get? key = none := rfl

private theorem find?_replace_other {key other : κ} (value : ν) (different : other ≠ key)
    (entries : List (κ × ν)) :
    (entries.map (replaceEntry key value)).find? (fun entry => entry.1 = other) =
      entries.find? fun entry => entry.1 = other := by
  induction entries with
  | nil => rfl
  | cons entry rest ih =>
    by_cases same : entry.1 = key
    · have skip : entry.1 ≠ other := fun equal => different (equal.symm.trans same)
      simp [skip, ih]
    · simp [List.find?_cons, replaceEntry, same, ih]

private theorem find?_replace_same {key : κ} (value : ν) (entries : List (κ × ν))
    (bound : key ∈ entries.map Prod.fst) :
    (entries.map (replaceEntry key value)).find? (fun entry => entry.1 = key) =
      some (key, value) := by
  induction entries with
  | nil => simp at bound
  | cons entry rest ih =>
    by_cases same : entry.1 = key
    · simp [replaceEntry, same]
    · have later : key ∈ rest.map Prod.fst := by
        rw [List.map_cons, List.mem_cons] at bound
        exact bound.resolve_left fun equal => same equal.symm
      simp [same, ih later]

/-- Reading after a write: the written key has the new value, every other key its old one. -/
theorem get?_set (dict : Dict κ ν) (key other : κ) (value : ν) :
    (dict.set key value).get? other = if other = key then some value else dict.get? other := by
  unfold set
  split
  · next bound =>
    by_cases same : other = key
    · subst same
      simp only [get?, if_pos]
      rw [find?_replace_same value dict.entries bound]
      rfl
    · simp only [get?, if_neg same]
      rw [find?_replace_other value same]
  · next unbound =>
    by_cases same : other = key
    · subst same
      have missing : dict.entries.find? (fun entry => entry.1 = other) = none := by
        have absent := (get?_eq_none_iff dict other).mpr unbound
        simpa only [get?, Option.map_eq_none_iff] using absent
      simp [get?, List.find?_append, missing]
    · have skip : key ≠ other := fun equal => same equal.symm
      simp [get?, List.find?_append, same, skip]

@[simp] theorem get?_set_self (dict : Dict κ ν) (key : κ) (value : ν) :
    (dict.set key value).get? key = some value := by
  rw [get?_set, if_pos rfl]

/-- Reading after a removal. -/
theorem get?_erase (dict : Dict κ ν) (key other : κ) :
    (dict.erase key).get? other = if other = key then none else dict.get? other := by
  by_cases same : other = key
  · subst same
    rw [if_pos rfl, get?_eq_none_iff]
    simp [keys, erase]
  · rw [if_neg same]
    simp only [get?, erase, List.find?_filter]
    congr 2
    funext entry
    by_cases found : entry.1 = other
    · simp [found, same]
    · simp [found]

/-- A key that reads as a value is bound to it in the entry list. -/
theorem mem_entries_of_get? {dict : Dict κ ν} {key : κ} {value : ν}
    (found : dict.get? key = some value) : (key, value) ∈ dict.entries := by
  obtain ⟨entry, located, rfl⟩ := Option.map_eq_some_iff.mp found
  have same : entry.1 = key := by simpa using List.find?_some located
  rw [← same]
  exact List.mem_of_find?_eq_some located

/-- Every entry is what its key reads as. -/
theorem get?_of_mem_entries {dict : Dict κ ν} {entry : κ × ν} (member : entry ∈ dict.entries) :
    dict.get? entry.1 = some entry.2 := by
  obtain ⟨entries, distinct⟩ := dict
  simp only [get?] at member ⊢
  induction entries with
  | nil => simp at member
  | cons head rest ih =>
    rw [List.map_cons, List.nodup_cons] at distinct
    rcases List.mem_cons.mp member with rfl | later
    · simp
    · have skip : head.1 ≠ entry.1 := fun same =>
        distinct.1 (same ▸ List.mem_map_of_mem later)
      rw [List.find?_cons_of_neg (by simpa using skip)]
      exact ih distinct.2 later

/-- A dictionary in which one key only reads as a value has one entry. -/
theorem entries_eq_singleton {dict : Dict κ ν} {key : κ} {value : ν}
    (found : dict.get? key = some value) (alone : ∀ other, other ≠ key → dict.get? other = none) :
    dict.entries = [(key, value)] := by
  have same : ∀ entry ∈ dict.entries, entry = (key, value) := by
    intro entry member
    have read := get?_of_mem_entries member
    have here : entry.1 = key := by
      by_contra different
      rw [alone entry.1 different] at read
      cases read
    rw [here, found] at read
    exact Prod.ext here (Option.some.inj read).symm
  have distinct := dict.distinct
  have member := mem_entries_of_get? found
  generalize dict.entries = entries at same distinct member
  match entries with
  | [] => cases member
  | [entry] => rw [same entry List.mem_cons_self]
  | first :: second :: rest =>
    have repeated : first.1 = second.1 := by
      rw [same first List.mem_cons_self, same second (by simp)]
    rw [List.map_cons, List.map_cons, List.nodup_cons, repeated] at distinct
    exact absurd List.mem_cons_self distinct.1

/-- A written key is bound; every other key is bound as before. -/
theorem mem_keys_set (dict : Dict κ ν) (key other : κ) (value : ν) :
    other ∈ (dict.set key value).keys ↔ other = key ∨ other ∈ dict.keys := by
  have read := get?_set dict key other value
  by_cases same : other = key
  · rw [if_pos same] at read
    exact ⟨fun _ => .inl same, fun _ => mem_keys_of_get? read⟩
  · rw [if_neg same] at read
    rw [← not_iff_not, ← get?_eq_none_iff, read, get?_eq_none_iff]
    simp [same]

/-- Replacing a value keeps every projection which the new value shares with the old one. -/
theorem map_values_set_of_bound {β : Type*} {dict : Dict κ ν} {key : κ} {old : ν} (value : ν)
    (project : ν → β) (bound : dict.get? key = some old) (same : project value = project old) :
    (dict.set key value).values.map project = dict.values.map project := by
  have member := mem_keys_of_get? bound
  simp only [set, dif_pos member, values, List.map_map]
  apply List.map_congr_left
  intro entry located
  by_cases equal : entry.1 = key
  · have current := get?_of_mem_entries located
    rw [equal, bound, Option.some.injEq] at current
    simp [replaceEntry, equal, same, current]
  · simp [replaceEntry, equal]

/-- A new key appends the projection of its value. -/
theorem map_values_set_of_unbound {β : Type*} {dict : Dict κ ν} {key : κ} (value : ν)
    (project : ν → β) (unbound : dict.get? key = none) :
    (dict.set key value).values.map project = dict.values.map project ++ [project value] := by
  have fresh := (get?_eq_none_iff dict key).mp unbound
  simp [values, set, fresh]

section Totals

variable {M : Type*} [AddCommMonoid M]

/-- The sum of a weight over the bound values. -/
def total (dict : Dict κ ν) (weight : ν → M) : M := (dict.values.map weight).sum

omit [DecidableEq κ] in
@[simp] theorem total_empty (weight : ν → M) : (empty : Dict κ ν).total weight = 0 := rfl

/-- A new key adds the weight of its value. -/
theorem total_set_of_unbound {dict : Dict κ ν} {key : κ} (value : ν) (weight : ν → M)
    (unbound : dict.get? key = none) :
    (dict.set key value).total weight = dict.total weight + weight value := by
  have fresh := (get?_eq_none_iff dict key).mp unbound
  simp [total, values, set, fresh]

private theorem sum_split (entries : List (κ × ν)) (distinct : (entries.map Prod.fst).Nodup)
    {key : κ} {value : ν} (member : (key, value) ∈ entries) (weight : ν → M) :
    ((entries.map Prod.snd).map weight).sum =
      weight value +
        (((entries.filter fun entry => entry.1 ≠ key).map Prod.snd).map weight).sum := by
  induction entries with
  | nil => simp at member
  | cons entry rest ih =>
    rw [List.map_cons, List.nodup_cons] at distinct
    by_cases same : entry.1 = key
    · -- The head is the binding of `key`, and no later entry has that key.
      have head : entry = (key, value) := by
        rcases List.mem_cons.mp member with equal | later
        · exact equal.symm
        · exact absurd (List.mem_map_of_mem later) (same ▸ distinct.1)
      have untouched : rest.filter (fun other => other.1 ≠ key) = rest := by
        apply List.filter_eq_self.mpr
        intro other later
        have skip : other.1 ≠ key := fun equal =>
          distinct.1 (same ▸ equal ▸ List.mem_map_of_mem later)
        simpa using skip
      rw [List.filter_cons_of_neg (by simpa using same), untouched]
      simp [head]
    · have later : (key, value) ∈ rest := by
        rcases List.mem_cons.mp member with equal | later
        · exact absurd (congrArg Prod.fst equal).symm same
        · exact later
      rw [List.filter_cons_of_pos (by simpa using same)]
      simp only [List.map_cons, List.sum_cons]
      rw [ih distinct.2 later, add_left_comm]

/-- Removing a bound key takes its weight out of the sum. -/
theorem total_erase_of_bound {dict : Dict κ ν} {key : κ} {value : ν} (weight : ν → M)
    (bound : dict.get? key = some value) :
    dict.total weight = weight value + (dict.erase key).total weight :=
  sum_split dict.entries dict.distinct (mem_entries_of_get? bound) weight

private theorem filter_replace (key : κ) (value : ν) (entries : List (κ × ν)) :
    (entries.map (replaceEntry key value)).filter (fun entry => entry.1 ≠ key) =
      entries.filter fun entry => entry.1 ≠ key := by
  induction entries with
  | nil => rfl
  | cons entry rest ih =>
    by_cases same : entry.1 = key
    · simp [replaceEntry, same] at ih ⊢
      exact ih
    · simp [replaceEntry, same] at ih ⊢
      exact ih

/-- Setting a bound key changes the sum only in that key's weight. -/
theorem total_set_of_bound {dict : Dict κ ν} {key : κ} {old : ν} (value : ν) (weight : ν → M)
    (bound : dict.get? key = some old) :
    weight old + (dict.set key value).total weight = weight value + dict.total weight := by
  have member := mem_keys_of_get? bound
  have rest : (dict.set key value).erase key = dict.erase key := by
    simp only [erase, set, dif_pos member, filter_replace]
  rw [total_erase_of_bound weight (get?_set_self dict key value), rest,
    total_erase_of_bound weight bound, add_left_comm]

end Totals

end Dict
end AlphaAgent.Foundation
