import Mathlib.Data.List.Sort
import Mathlib.Order.Defs.LinearOrder

/-!
# Descending order

Rows are sorted by a key from the greatest to the least, and rows of one key stay in
their order. With a time for the key, the first ones are the newest rows of a table:
a row which is stored last comes before what is older than itself, and pushes at
most one row out of the newest ones.
-/

namespace AlphaAgent.Foundation

universe u v

variable {α : Type u} {τ : Type v} [LinearOrder τ] (time : α → τ)

/-- `sorted(rows, key=time, reverse=True)`. -/
def descending (rows : List α) : List α :=
  rows.insertionSort fun first second => time second ≤ time first

/-- The newest rows, as many as the limit allows. -/
def newest (limit : ℕ) (rows : List α) : List α := (descending time rows).take limit

theorem descending_perm (rows : List α) : (descending time rows).Perm rows :=
  List.perm_insertionSort _ rows

theorem descending_sorted (rows : List α) :
    (descending time rows).Pairwise fun first second => time second ≤ time first :=
  have : IsTrans α fun first second => time second ≤ time first :=
    ⟨fun _ _ _ firstly secondly => secondly.trans firstly⟩
  have : Std.Total fun first second : α => time second ≤ time first :=
    ⟨fun first second => le_total (time second) (time first)⟩
  List.pairwise_insertionSort _ rows

@[simp] theorem mem_descending {rows : List α} {row : α} :
    row ∈ descending time rows ↔ row ∈ rows :=
  (descending_perm time rows).mem_iff

/-- The first of the sorted rows is one of them, and none is greater. -/
theorem head?_descending {rows : List α} {first : α}
    (found : (descending time rows).head? = some first) :
    first ∈ rows ∧ ∀ row ∈ rows, time row ≤ time first := by
  have sorted := descending_sorted time rows
  obtain ⟨rest, ordered⟩ := List.head?_eq_some_iff.mp found
  rw [ordered, List.pairwise_cons] at sorted
  refine ⟨(mem_descending time).mp (List.mem_of_head? found), fun row member => ?_⟩
  rw [← mem_descending time, ordered] at member
  rcases List.mem_cons.mp member with rfl | later
  · exact le_rfl
  · exact sorted.1 row later

/-- What is left of a sorted insertion is the insertion into what is left. -/
theorem filter_orderedInsert (keeps : α → Bool) (row : α) {rows : List α}
    (sorted : rows.Pairwise fun first second => time second ≤ time first) :
    (rows.orderedInsert (fun first second => time second ≤ time first) row).filter keeps =
      if keeps row then
        (rows.filter keeps).orderedInsert (fun first second => time second ≤ time first) row
      else rows.filter keeps := by
  induction rows with
  | nil =>
    rw [List.orderedInsert_nil, List.filter_cons]
    rfl
  | cons first rest ih =>
    obtain ⟨greater, sorted⟩ := List.pairwise_cons.mp sorted
    rw [List.orderedInsert_cons]
    by_cases before : time first ≤ time row
    · rw [if_pos before, List.filter_cons]
      -- All which follow are not greater than the row either.
      have goesFirst : (row :: rest.filter keeps) =
          (rest.filter keeps).orderedInsert (fun first second => time second ≤ time first) row := by
        cases kept : rest.filter keeps with
        | nil => rfl
        | cons next later =>
          have member : next ∈ rest := List.mem_of_mem_filter (kept ▸ List.mem_cons_self)
          rw [List.orderedInsert_cons, if_pos ((greater next member).trans before)]
      split_ifs
      · rw [List.filter_cons]
        split_ifs
        · rw [List.orderedInsert_cons, if_pos before]
        · exact goesFirst
      · rfl
    · rw [if_neg before, List.filter_cons, List.filter_cons, ih sorted]
      split_ifs
      · rw [List.orderedInsert_cons, if_neg before]
      all_goals rfl

theorem filter_descending (keeps : α → Bool) (rows : List α) :
    (descending time rows).filter keeps = descending time (rows.filter keeps) := by
  induction rows with
  | nil => rfl
  | cons row rest ih =>
    rw [descending, List.insertionSort_cons, ← descending,
      filter_orderedInsert time keeps row (descending_sorted time rest), ih, List.filter_cons]
    split_ifs <;> rfl

/-- Rows which are all greater than the others come before them. -/
theorem descending_split (keeps : α → Bool) {rows : List α}
    (greater : ∀ kept ∈ rows, keeps kept = true → ∀ other ∈ rows, keeps other = false →
      time other < time kept) :
    descending time rows = descending time (rows.filter keeps) ++
      descending time (rows.filter fun row => !keeps row) := by
  rw [← filter_descending, ← filter_descending]
  have sorted := descending_sorted time rows
  have greater : ∀ kept ∈ descending time rows, keeps kept = true →
      ∀ other ∈ descending time rows, keeps other = false → time other < time kept := by
    intro kept member keeps other located drops
    exact greater kept ((mem_descending time).mp member) keeps other
      ((mem_descending time).mp located) drops
  generalize descending time rows = ordered at sorted greater
  induction ordered with
  | nil => rfl
  | cons first rest ih =>
    obtain ⟨notLess, sorted⟩ := List.pairwise_cons.mp sorted
    have later := ih sorted fun kept member keeps other located drops =>
      greater kept (List.mem_cons_of_mem _ member) keeps other
        (List.mem_cons_of_mem _ located) drops
    rw [List.filter_cons, List.filter_cons]
    cases kept : keeps first with
    | true =>
      simp only [if_true, Bool.not_true, Bool.false_eq_true, if_false, List.cons_append, ← later]
    | false =>
      have none : rest.filter keeps = [] := by
        refine List.filter_eq_nil_iff.mpr fun other member keeps => ?_
        exact absurd (notLess other member) (not_le.mpr (greater other
          (List.mem_cons_of_mem _ member) keeps first List.mem_cons_self kept))
      rw [none] at later ⊢
      simp only [Bool.false_eq_true, if_false, Bool.not_false, if_true, List.nil_append] at later ⊢
      rw [← later]

/-- Where no two rows have one time, the newest are those with fewer newer rows than the limit. -/
theorem mem_newest_iff {limit : ℕ} {rows : List α} {row : α} (distinct : (rows.map time).Nodup)
    (member : row ∈ rows) :
    row ∈ newest time limit rows ↔ (rows.filter (time row < time ·)).length < limit := by
  have split : descending time rows = descending time (rows.filter (time row < time ·)) ++
      descending time (rows.filter fun other => !decide (time row < time other)) := by
    refine descending_split time _ fun kept _ newer other _ notNewer => ?_
    simp only [decide_eq_true_eq, decide_eq_false_iff_not, not_lt] at newer notNewer
    exact notNewer.trans_lt newer
  -- The row is the first of those which are not newer than itself.
  obtain ⟨rest, first⟩ : ∃ rest, descending time
      (rows.filter fun other => !decide (time row < time other)) = row :: rest := by
    have sorted := descending_sorted time (rows.filter fun other => !decide (time row < time other))
    have among : row ∈ descending time
        (rows.filter fun other => !decide (time row < time other)) := by
      simp [member]
    cases ordered : descending time (rows.filter fun other => !decide (time row < time other)) with
    | nil => exact absurd (ordered ▸ among) List.not_mem_nil
    | cons head rest =>
      rw [ordered] at sorted among
      have isHead : head ∈ rows ∧ time head ≤ time row := by
        have located := (mem_descending time).mp (ordered ▸ List.mem_cons_self)
        simpa using located
      rcases List.mem_cons.mp among with same | later
      · exact ⟨rest, same ▸ rfl⟩
      · have sameTime := le_antisymm isHead.2 (List.rel_of_pairwise_cons sorted later)
        exact ⟨rest, List.inj_on_of_nodup_map distinct isHead.1 member sameTime ▸ rfl⟩
  have newer : row ∉ descending time (rows.filter (time row < time ·)) := by simp
  rw [newest, split, first, List.take_append, (descending_perm time _).length_eq, List.mem_append,
    or_iff_right fun taken => newer (List.mem_of_mem_take taken)]
  cases room : limit - (rows.filter (time row < time ·)).length with
  | zero => exact iff_of_false List.not_mem_nil (by omega)
  | succ left => exact iff_of_true List.mem_cons_self (by omega)

theorem newest_subperm (limit : ℕ) (rows : List α) : (newest time limit rows).Subperm rows :=
  (List.take_sublist limit _).subperm.trans (descending_perm time rows).subperm

theorem newest_map {β : Type*} (build : β → α) (limit : ℕ) (rows : List β) :
    newest time limit (rows.map build) = (newest (time ∘ build) limit rows).map build := by
  rw [newest, newest, List.map_take, descending, descending]
  congr 1
  exact (List.map_insertionSort _ _ build rows fun _ _ _ _ => Iff.rfl).symm

/-- Where fewer rows than the limit come out, all come out. -/
theorem newest_of_length_lt {limit : ℕ} {rows : List α}
    (room : (newest time limit rows).length < limit) :
    newest time limit rows = descending time rows := by
  apply List.take_of_length_le
  rw [newest, List.length_take] at room
  omega

/-- A row behind all which are at least as new. -/
def insertOlder (row : α) : List α → List α
  | [] => [row]
  | first :: rest =>
    if time row ≤ time first then first :: insertOlder row rest else row :: first :: rest

/-- It does not matter which of two rows is stored first. -/
theorem orderedInsert_insertOlder (row other : α) (rows : List α) :
    (insertOlder time row rows).orderedInsert (fun first second => time second ≤ time first) other =
      insertOlder time row
        (rows.orderedInsert (fun first second => time second ≤ time first) other) := by
  induction rows with
  | nil => rfl
  | cons first rest ih =>
    rw [List.orderedInsert_cons, insertOlder]
    by_cases before : time first ≤ time other
    · rw [if_pos before, insertOlder, insertOlder]
      by_cases older : time row ≤ time first
      · rw [if_pos older, if_pos (older.trans before), List.orderedInsert_cons, if_pos before]
      · rw [if_neg older, List.orderedInsert_cons, List.orderedInsert_cons, if_pos before]
    · have behind : time other < time first := not_le.mp before
      rw [if_neg before, insertOlder]
      by_cases older : time row ≤ time first
      · rw [if_pos older, if_pos older, List.orderedInsert_cons, if_neg before, ih]
      · have last : ¬time row ≤ time other := not_le.mpr (behind.trans (not_le.mp older))
        rw [if_neg older, if_neg older, List.orderedInsert_cons, if_neg last,
          List.orderedInsert_cons, if_neg before]

/-- A row which is stored last comes behind all which are at least as new. -/
theorem descending_concat (rows : List α) (row : α) :
    descending time (rows ++ [row]) = insertOlder time row (descending time rows) := by
  induction rows with
  | nil => rfl
  | cons first rest ih =>
    rw [descending, List.cons_append, List.insertionSort_cons, ← descending, ih,
      orderedInsert_insertOlder]
    rfl

section Limit

variable {time} {row : α} {rows : List α} {limit : ℕ}

/-- A row which is not newer than the last of the newest rows is not one of them. -/
theorem take_insertOlder_of_le (sorted : rows.Pairwise fun first second => time second ≤ time first)
    {last : α} (ends : rows[limit]? = some last) (older : time row ≤ time last) :
    (insertOlder time row rows).take (limit + 1) = rows.take (limit + 1) := by
  induction rows generalizing limit with
  | nil => cases ends
  | cons first rest ih =>
    obtain ⟨newer, sorted⟩ := List.pairwise_cons.mp sorted
    cases limit with
    | zero =>
      cases ends
      rw [insertOlder, if_pos older]
      rfl
    | succ limit =>
      rw [List.getElem?_cons_succ] at ends
      have behind : time row ≤ time first := older.trans (newer last (List.mem_of_getElem? ends))
      rw [insertOlder, if_pos behind, List.take_succ_cons, List.take_succ_cons, ih sorted ends]

/-- Any other row takes the place of the last of the newest rows. -/
theorem any_take_insertOlder (hit : α → Bool)
    (newer : ∀ last, rows[limit]? = some last → time last < time row) :
    ((insertOlder time row rows).take (limit + 1)).any hit =
      (hit row || (rows.take limit).any hit) := by
  induction rows generalizing limit with
  | nil => simp [insertOlder]
  | cons first rest ih =>
    rw [insertOlder]
    split_ifs with older
    · cases limit with
      | zero => exact absurd older (not_le.mpr (newer first rfl))
      | succ limit =>
        rw [List.take_succ_cons, List.take_succ_cons, List.any_cons, List.any_cons,
          ih fun last ends => newer last ends, Bool.or_left_comm]
    · rw [List.take_succ_cons, List.any_cons]

/-- The row pushes out the last of the newest rows, which alone is a hit. -/
def Displaces (time : α → τ) (hit : α → Bool) (limit : ℕ) (rows : List α) (row : α) : Prop :=
  ∃ last, (descending time rows)[limit]? = some last ∧ hit last = true ∧ time last < time row ∧
    hit row = false ∧ ∀ other ∈ newest time limit rows, hit other = false

/-- Storing a row keeps a hit among the newest rows unless it displaces the only one. -/
theorem keeps_hit_iff (time : α → τ) (hit : α → Bool) (limit : ℕ) (rows : List α) (row : α) :
    ((newest time (limit + 1) rows).any hit = true →
        (newest time (limit + 1) (rows ++ [row])).any hit = true) ↔
      ¬Displaces time hit limit rows row := by
  have sorted := descending_sorted time rows
  have before : (newest time (limit + 1) rows).any hit =
      ((newest time limit rows).any hit || (descending time rows)[limit]?.any hit) := by
    rw [newest, List.take_add_one, List.any_append, newest]
    cases (descending time rows)[limit]? <;> simp
  rw [newest, newest, descending_concat, ← newest, before]
  by_cases enters : ∀ last, (descending time rows)[limit]? = some last → time last < time row
  · rw [any_take_insertOlder hit enters, ← newest]
    constructor
    · rintro keeps ⟨last, ends, hits, -, misses, none⟩
      have others : (newest time limit rows).any hit = false :=
        List.any_eq_false.mpr fun other member => Bool.eq_false_iff.mp (none other member)
      have kept := keeps (by rw [ends, Option.any_some, hits, Bool.or_true])
      rw [misses, others] at kept
      cases kept
    · intro stays hits
      by_contra missed
      obtain ⟨misses, none⟩ := Bool.or_eq_false_iff.mp (Bool.not_eq_true _ ▸ missed)
      rw [none, Bool.false_or, Option.any_eq_true] at hits
      obtain ⟨last, ends, hit⟩ := hits
      have others : ∀ other ∈ newest time limit rows, _ := fun other member =>
        Bool.eq_false_iff.mpr (List.any_eq_false.mp none other member)
      exact stays ⟨last, ends, hit, enters last ends, misses, others⟩
  · push Not at enters
    obtain ⟨last, ends, older⟩ := enters
    rw [take_insertOlder_of_le sorted ends older, ← newest, before]
    refine iff_of_true id ?_
    rintro ⟨other, same, -, newer, -⟩
    rw [ends] at same
    cases same
    exact absurd older (not_le.mpr newer)

end Limit

end AlphaAgent.Foundation
