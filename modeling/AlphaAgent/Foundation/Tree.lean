import Mathlib.Data.List.Forall2

/-!
# Nested data

A tree is a leaf, a list of trees, or a mapping with a tree under each key. A relation
of leaves, which may be laxer below some keys, carries over to trees of one shape.
A walk through the mappings stops at the keys of that kind, at lists and at leaves;
what it gathers there on two related trees has the same length.
-/

namespace AlphaAgent.Foundation

inductive Tree (κ α : Type) where
  | leaf (value : α)
  | list (items : List (Tree κ α))
  | mapping (entries : List (κ × Tree κ α))

namespace Tree

variable {κ α β : Type} (picked : κ → Bool)

section Related

variable (related : Bool → α → α → Prop)

mutual

/-- Trees of one shape and the same keys, with related leaves; `below` tells whether a
picked key is above. -/
def Related : Bool → Tree κ α → Tree κ α → Prop
  | below, leaf first, leaf second => related below first second
  | below, list firsts, list seconds => RelatedItems below firsts seconds
  | below, mapping firsts, mapping seconds => RelatedEntries below firsts seconds
  | _, _, _ => False

def RelatedItems : Bool → List (Tree κ α) → List (Tree κ α) → Prop
  | _, [], [] => True
  | below, first :: firsts, second :: seconds =>
    Related below first second ∧ RelatedItems below firsts seconds
  | _, _, _ => False

def RelatedEntries : Bool → List (κ × Tree κ α) → List (κ × Tree κ α) → Prop
  | _, [], [] => True
  | below, (key, first) :: firsts, (other, second) :: seconds =>
    key = other ∧ Related (below || picked key) first second ∧
      RelatedEntries below firsts seconds
  | _, _, _ => False

end

variable {picked related}

/-- Related trees are of one shape. -/
theorem Related.shapes {below : Bool} {first second : Tree κ α}
    (same : Related picked related below first second) :
    (∃ value other, first = leaf value ∧ second = leaf other ∧ related below value other) ∨
    (∃ items others, first = list items ∧ second = list others ∧
      RelatedItems picked related below items others) ∨
    ∃ entries others, first = mapping entries ∧ second = mapping others ∧
      RelatedEntries picked related below entries others := by
  cases first with
  | leaf value =>
    cases second with
    | leaf other => exact .inl ⟨value, other, rfl, rfl, same⟩
    | list | mapping => exact same.elim
  | list items =>
    cases second with
    | list others => exact .inr (.inl ⟨items, others, rfl, rfl, same⟩)
    | leaf | mapping => exact same.elim
  | mapping entries =>
    cases second with
    | mapping others => exact .inr (.inr ⟨entries, others, rfl, rfl, same⟩)
    | leaf | list => exact same.elim

end Related

section Gather

variable (collect : Bool → Tree κ α → List β)

mutual

/-- What the walk gathers in a tree; it tells `collect` whether it stopped at a picked key. -/
def gather : Tree κ α → List β
  | mapping entries => gatherEntries entries
  | leaf value => collect false (leaf value)
  | list items => collect false (list items)

def gatherEntries : List (κ × Tree κ α) → List β
  | [] => []
  | (key, value) :: rest =>
    (if picked key then collect true value else gather value) ++ gatherEntries rest

end

variable {picked collect} {related : Bool → α → α → Prop}

mutual

theorem gather_length (alike : ∀ below first second, Related picked related below first second →
      (collect below first).length = (collect below second).length)
    (first second : Tree κ α) (same : Related picked related false first second) :
    (gather picked collect first).length = (gather picked collect second).length := by
  obtain ⟨value, other, rfl, rfl, -⟩ | ⟨items, others, rfl, rfl, -⟩ |
    ⟨entries, others, rfl, rfl, within⟩ := same.shapes
  · exact alike false _ _ same
  · exact alike false _ _ same
  · simp only [gather]
    exact gatherEntries_length alike entries others within

/-- The walk gathers as much in a mapping as in a related one. -/
theorem gatherEntries_length
    (alike : ∀ below first second, Related picked related below first second →
      (collect below first).length = (collect below second).length)
    (firsts seconds : List (κ × Tree κ α))
    (same : RelatedEntries picked related false firsts seconds) :
    (gatherEntries picked collect firsts).length =
      (gatherEntries picked collect seconds).length := by
  match firsts, seconds, same with
  | [], [], _ => rfl
  | (key, first) :: firsts, (_, second) :: seconds, ⟨rfl, here, later⟩ =>
    have rest := gatherEntries_length alike firsts seconds later
    simp only [gatherEntries, List.length_append, rest]
    cases stops : picked key with
    | true =>
      rw [Bool.false_or, stops] at here
      simp only [if_true, alike true first second here]
    | false =>
      rw [Bool.false_or, stops] at here
      simp only [Bool.false_eq_true, if_false, gather_length alike first second here]

end

end Gather

end Tree

/-- Lists joined from parts of the same length are related exactly when their parts are. -/
theorem forall₂_append_iff {α β : Type} {related : α → β → Prop} {firsts : List α}
    {seconds : List β} {later : List α} {others : List β}
    (same : firsts.length = seconds.length) :
    List.Forall₂ related (firsts ++ later) (seconds ++ others) ↔
      List.Forall₂ related firsts seconds ∧ List.Forall₂ related later others := by
  induction firsts generalizing seconds with
  | nil =>
    obtain rfl := List.length_eq_zero_iff.mp same.symm
    simp
  | cons first firsts ih =>
    cases seconds with
    | nil => cases same
    | cons second seconds =>
      have shorter : firsts.length = seconds.length := by simpa using same
      simp only [List.cons_append, List.forall₂_cons, ih shorter, and_assoc]

end AlphaAgent.Foundation
