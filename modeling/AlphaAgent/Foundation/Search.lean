import Mathlib.Algebra.Order.Ring.Int
import Mathlib.Tactic.Common

/-!
# Search along a bounded range

A search tries one candidate after the other until the test accepts one. The test
can fail, and a range can be exhausted; both fail the search.
-/

namespace AlphaAgent.Foundation

universe u

variable {ε : Type u}

/-- The first accepted one of so many candidates from `candidate` on. -/
def searchFrom (test : ℤ → Except ε Bool) (exhausted : ε) : ℕ → ℤ → Except ε ℤ
  | 0, _ => .error exhausted
  | left + 1, candidate =>
    match test candidate with
    | .error raised => .error raised
    | .ok true => .ok candidate
    | .ok false => searchFrom test exhausted left (candidate + 1)

variable {test : ℤ → Except ε Bool} {exhausted : ε}

/-- A search finds something exactly when some candidate is accepted before which the
test does not fail. -/
theorem searchFrom_returns_iff (left : ℕ) (candidate : ℤ) :
    (∃ found, searchFrom test exhausted left candidate = .ok found) ↔
      ∃ accepted, candidate ≤ accepted ∧ accepted < candidate + left ∧
        test accepted = .ok true ∧
        ∀ earlier, candidate ≤ earlier → earlier < accepted →
          ∃ answer, test earlier = .ok answer := by
  induction left generalizing candidate with
  | zero =>
    refine iff_of_false (fun ⟨_, failed⟩ => nomatch failed) ?_
    rintro ⟨accepted, above, below, -⟩
    exact absurd (above.trans_lt below) (by simp)
  | succ left ih =>
    rw [searchFrom]
    cases tested : test candidate with
    | error raised =>
      refine iff_of_false (fun ⟨_, failed⟩ => nomatch failed) ?_
      rintro ⟨accepted, above, -, accepts, answers⟩
      rcases above.lt_or_eq with later | rfl
      · obtain ⟨answer, answered⟩ := answers candidate le_rfl later
        exact nomatch tested.symm.trans answered
      · exact nomatch tested.symm.trans accepts
    | ok answer =>
      cases answer with
      | true =>
        refine iff_of_true ⟨candidate, rfl⟩ ⟨candidate, le_rfl, by omega, tested, ?_⟩
        exact fun earlier above below => absurd below above.not_gt
      | false =>
        dsimp only
        rw [ih]
        constructor
        · rintro ⟨accepted, above, below, accepts, answers⟩
          refine ⟨accepted, by omega, by omega, accepts, fun earlier from_ before => ?_⟩
          rcases from_.lt_or_eq with later | rfl
          · exact answers earlier later before
          · exact ⟨false, tested⟩
        · rintro ⟨accepted, above, below, accepts, answers⟩
          have later : candidate ≠ accepted := by
            rintro rfl
            exact nomatch tested.symm.trans accepts
          exact ⟨accepted, by omega, by omega, accepts,
            fun earlier from_ before => answers earlier (by omega) before⟩

end AlphaAgent.Foundation
