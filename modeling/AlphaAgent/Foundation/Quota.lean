import Mathlib.Algebra.Order.Floor.Ring
import Mathlib.Order.Lattice.Nat

/-!
# Whole quantities under limits

A quantity is cut to the floor of each budget over its unit cost. `le_floor_div_iff`
says that the floor loses nothing, so the least of several floors is the largest
quantity which fits every budget. Only a quantity of at least one counts: the
empty quantity fits where a budget is already overdrawn.
-/

namespace AlphaAgent.Foundation

section Budget

variable {α : Type*} [Field α] [LinearOrder α] [IsStrictOrderedRing α] {budget cost : α}
  {quantity : ℕ}

/-- A quantity is at most the floor of a budget over its unit cost exactly when
the budget pays for it. -/
theorem le_floor_div_iff [FloorRing α] (positive : 0 < cost) :
    (quantity : ℤ) ≤ ⌊budget / cost⌋ ↔ quantity * cost ≤ budget := by
  rw [Int.le_floor, le_div_iff₀ positive, Int.cast_natCast]

/-- A budget clamped at zero pays for the same quantities of at least one. -/
theorem mul_le_max_zero_iff (positive : 0 < cost) (one : 1 ≤ quantity) :
    quantity * cost ≤ max budget 0 ↔ quantity * cost ≤ budget := by
  have priced : 0 < (quantity : α) * cost := mul_pos (Nat.cast_pos.mpr one) positive
  rw [le_max_iff]
  exact or_iff_left (not_le.mpr priced)

/-- A budget which pays for a quantity pays for every smaller one. -/
theorem mul_le_of_le {fewer : ℕ} (nonneg : 0 ≤ cost) (below : fewer ≤ quantity)
    (pays : quantity * cost ≤ budget) : fewer * cost ≤ budget :=
  le_trans (mul_le_mul_of_nonneg_right (Nat.cast_le.mpr below) nonneg) pays

end Budget

/-- The quantities of at least one which a limit admits. -/
abbrev Admitted (admits : ℕ → Prop) : Set ℕ := {quantity | 1 ≤ quantity ∧ admits quantity}

variable {admits : ℕ → Prop} {largest bound : ℕ}

/-- A limit which admits the quantities up to a bound has the bound as its
largest quantity, unless the bound is zero. -/
theorem isGreatest_admitted_iff
    (below : ∀ quantity, 1 ≤ quantity → (quantity ≤ bound ↔ admits quantity)) :
    IsGreatest (Admitted admits) largest ↔ 1 ≤ bound ∧ largest = bound := by
  constructor
  · rintro ⟨⟨one, admitted⟩, most⟩
    have le : largest ≤ bound := (below largest one).mpr admitted
    have boundOne : 1 ≤ bound := one.trans le
    exact ⟨boundOne, le.antisymm (most ⟨boundOne, (below bound boundOne).mp le_rfl⟩)⟩
  · rintro ⟨one, rfl⟩
    exact ⟨⟨one, (below largest one).mp le_rfl⟩,
      fun quantity member => (below quantity member.1).mpr member.2⟩

/-- Quantities below a bound have a largest one, if there is any. -/
theorem exists_isGreatest_admitted (bounded : BddAbove (Admitted admits))
    (nonempty : (Admitted admits).Nonempty) : ∃ largest, IsGreatest (Admitted admits) largest :=
  ⟨sSup (Admitted admits), Nat.sSup_mem nonempty bounded, fun _ member =>
    le_csSup bounded member⟩

/-- Two limits which pass to smaller quantities have the same largest quantity
exactly when they admit the same quantities. -/
theorem same_largest_iff {other : ℕ → Prop} (bounded : BddAbove (Admitted admits))
    (otherBounded : BddAbove (Admitted other))
    (down : ∀ quantity fewer, 1 ≤ fewer → fewer ≤ quantity → admits quantity → admits fewer)
    (otherDown : ∀ quantity fewer, 1 ≤ fewer → fewer ≤ quantity → other quantity → other fewer) :
    (∀ largest, IsGreatest (Admitted admits) largest ↔ IsGreatest (Admitted other) largest) ↔
      Admitted admits = Admitted other := by
  constructor
  · intro same
    apply Set.Subset.antisymm
    · intro quantity member
      obtain ⟨largest, greatest⟩ := exists_isGreatest_admitted bounded ⟨quantity, member⟩
      exact ⟨member.1, otherDown largest quantity member.1 (greatest.2 member)
        ((same largest).mp greatest).1.2⟩
    · intro quantity member
      obtain ⟨largest, greatest⟩ := exists_isGreatest_admitted otherBounded ⟨quantity, member⟩
      exact ⟨member.1, down largest quantity member.1 (greatest.2 member)
        ((same largest).mpr greatest).1.2⟩
  · intro same largest
    rw [same]

/-- Two limits which share a first part admit the same quantities exactly when
their second parts agree on what the first part admits. -/
theorem admitted_and_eq_iff {first second : ℕ → Prop} :
    (Admitted fun quantity => admits quantity ∧ first quantity) =
        (Admitted fun quantity => admits quantity ∧ second quantity) ↔
      ∀ quantity ∈ Admitted admits, (first quantity ↔ second quantity) := by
  rw [Set.ext_iff]
  constructor
  · rintro same quantity ⟨one, admitted⟩
    constructor
    · intro fits
      exact ((same quantity).mp ⟨one, admitted, fits⟩).2.2
    · intro fits
      exact ((same quantity).mpr ⟨one, admitted, fits⟩).2.2
  · intro alike quantity
    constructor
    · rintro ⟨one, admitted, fits⟩
      exact ⟨one, admitted, (alike quantity ⟨one, admitted⟩).mp fits⟩
    · rintro ⟨one, admitted, fits⟩
      exact ⟨one, admitted, (alike quantity ⟨one, admitted⟩).mpr fits⟩

/-- A property which passes to smaller quantities holds of all admitted ones
when it holds of the largest. -/
theorem forall_admitted_iff {property : ℕ → Prop} (greatest : IsGreatest (Admitted admits) largest)
    (down : ∀ quantity fewer, fewer ≤ quantity → property quantity → property fewer) :
    (∀ quantity ∈ Admitted admits, property quantity) ↔ property largest :=
  ⟨fun all => all largest greatest.1,
    fun holds quantity member => down largest quantity (greatest.2 member) holds⟩

end AlphaAgent.Foundation
