import AlphaAgent.Intraday.Models
import Mathlib.Algebra.Order.Floor.Ring
import Mathlib.Algebra.Order.Ring.Rat
import Mathlib.Tactic.FieldSimp
import Mathlib.Tactic.Linarith

/-!
# Rounding

Over exact numbers `round` of the source goes to the nearest integer, from a half to the
even one. The floats of the source decide otherwise where they are beside the half, so what
they make of it is only known up to a slack.
-/

namespace AlphaAgent.Intraday

section Integer

variable (value : ℚ)

theorem abs_roundHalfEven_sub_le : |(roundHalfEven value : ℚ) - value| ≤ 1 / 2 := by
  have below := Int.floor_le value
  have above := Int.lt_floor_add_one value
  unfold roundHalfEven
  dsimp only
  split_ifs <;> rw [abs_le] <;> push_cast <;> constructor <;> linarith

/-- Rounding reaches an integer from beyond the half below it, and from that
half when the integer is even. -/
theorem le_roundHalfEven_iff (bound : ℤ) :
    bound ≤ roundHalfEven value ↔
      (bound : ℚ) - 1 / 2 < value ∨ (value = bound - 1 / 2 ∧ Even bound) := by
  have below := Int.floor_le value
  have above := Int.lt_floor_add_one value
  rcases lt_trichotomy ⌊value⌋ (bound - 1) with under | here | beyond
  · have reached : (⌊value⌋ : ℚ) + 2 ≤ bound := by exact_mod_cast (by omega : ⌊value⌋ + 2 ≤ bound)
    refine iff_of_false (not_le.mpr ?_) ?_
    · unfold roundHalfEven
      dsimp only
      split_ifs <;> omega
    · rintro (beyond | ⟨half, -⟩) <;> linarith
  · obtain rfl : bound = ⌊value⌋ + 1 := by omega
    have parity : Even (⌊value⌋ + 1) ↔ ¬⌊value⌋ % 2 = 0 := by
      rw [Int.even_add_one, Int.even_iff]
    push_cast
    unfold roundHalfEven
    dsimp only
    split_ifs with low high even
    · refine iff_of_false (by omega) ?_
      rintro (beyond | ⟨half, -⟩) <;> linarith
    · exact iff_of_true le_rfl (.inl (by linarith))
    · refine iff_of_false (by omega) ?_
      rintro (beyond | ⟨-, odd⟩)
      · linarith
      · exact parity.mp odd even
    · exact iff_of_true le_rfl (.inr ⟨by linarith, parity.mpr even⟩)
  · have reached : (bound : ℚ) ≤ ⌊value⌋ := by exact_mod_cast (by omega : bound ≤ ⌊value⌋)
    refine iff_of_true ?_ (.inl (by linarith))
    unfold roundHalfEven
    dsimp only
    split_ifs <;> omega

end Integer

section Digits

variable (digits : ℕ) (value bound : ℚ)

private theorem scale_pos : (0 : ℚ) < 10 ^ digits := by positivity

/-- A rounded value is at most half a unit of its last digit away. -/
theorem abs_roundTo_sub_le : |roundTo digits value - value| ≤ 1 / 2 / 10 ^ digits := by
  have scale := scale_pos digits
  have moved : roundTo digits value - value =
      (roundHalfEven (value * 10 ^ digits) - value * 10 ^ digits) / 10 ^ digits := by
    rw [roundTo, sub_div, mul_div_cancel_right₀ _ scale.ne']
  rw [moved, abs_div, abs_of_pos scale]
  exact div_le_div_of_nonneg_right (abs_roundHalfEven_sub_le _) scale.le

/-- A rounded value is above a bound when the value is beyond the half before
the next unit above the bound. -/
theorem lt_roundTo_iff :
    bound < roundTo digits value ↔
      ((⌊bound * 10 ^ digits⌋ + 1 : ℤ) : ℚ) - 1 / 2 < value * 10 ^ digits ∨
        (value * 10 ^ digits = (⌊bound * 10 ^ digits⌋ + 1 : ℤ) - 1 / 2 ∧
          Even (⌊bound * 10 ^ digits⌋ + 1)) := by
  rw [roundTo, lt_div_iff₀ (scale_pos digits), ← Int.floor_lt, ← le_roundHalfEven_iff]
  exact Int.lt_iff_add_one_le

end Digits

section Cents

/-- The function rounds to a whole cent which is the nearest one up to the slack. -/
structure RoundsToCents (slack : ℚ) (round : ℚ → ℚ) : Prop where
  cents : ∀ value, ∃ count : ℤ, round value = count / 100
  near : ∀ value, |round value - value| ≤ 1 / 200 + slack

theorem roundsToCents_roundTo {slack : ℚ} (nonneg : 0 ≤ slack) :
    RoundsToCents slack (roundTo 2) := by
  constructor
  · intro value
    refine ⟨roundHalfEven (value * 10 ^ 2), ?_⟩
    rw [roundTo]
    norm_num
  · intro value
    have near := abs_roundTo_sub_le 2 value
    norm_num at near
    linarith

variable {slack level price : ℚ} {round : ℚ → ℚ} (rounds : RoundsToCents slack round)
include rounds

/-- What is nearer to a cent below the price, by more than the slack, is rounded to one. -/
theorem RoundsToCents.lt_of_below (below : (level + slack) * 100 < (⌈price * 100⌉ : ℚ) - 1 / 2) :
    round level < price := by
  obtain ⟨count, rounded⟩ := rounds.cents level
  have near := (abs_le.mp (rounds.near level)).2
  rw [rounded] at near ⊢
  have fewer : (count : ℚ) < (⌈price * 100⌉ : ℚ) := by linarith
  have under : (count : ℚ) < price * 100 := Int.lt_ceil.mp (by exact_mod_cast fewer)
  linarith

theorem RoundsToCents.le_of_notBelow
    (beyond : (⌈price * 100⌉ : ℚ) - 1 / 2 < (level - slack) * 100) : price ≤ round level := by
  obtain ⟨count, rounded⟩ := rounds.cents level
  have near := (abs_le.mp (rounds.near level)).1
  rw [rounded] at near ⊢
  have more : (⌈price * 100⌉ : ℚ) < (count + 1 : ℤ) := by
    push_cast
    linarith
  have reached : ⌈price * 100⌉ ≤ count := Int.lt_add_one_iff.mp (by exact_mod_cast more)
  have covered : price * 100 ≤ (count : ℚ) := Int.ceil_le.mp reached
  linarith

/-- What is nearer to a cent above the price, by more than the slack, is rounded to one. -/
theorem RoundsToCents.lt_of_above (above : (⌊price * 100⌋ : ℚ) + 1 / 2 < (level - slack) * 100) :
    price < round level := by
  obtain ⟨count, rounded⟩ := rounds.cents level
  have near := (abs_le.mp (rounds.near level)).1
  rw [rounded] at near ⊢
  have more : (⌊price * 100⌋ : ℚ) < (count : ℚ) := by linarith
  have covered : price * 100 < (count : ℚ) := Int.floor_lt.mp (by exact_mod_cast more)
  linarith

theorem RoundsToCents.le_of_notAbove
    (short : (level + slack) * 100 < (⌊price * 100⌋ : ℚ) + 1 / 2) : round level ≤ price := by
  obtain ⟨count, rounded⟩ := rounds.cents level
  have near := (abs_le.mp (rounds.near level)).2
  rw [rounded] at near ⊢
  have fewer : (count : ℚ) < (⌊price * 100⌋ + 1 : ℤ) := by
    push_cast
    linarith
  have reached : count ≤ ⌊price * 100⌋ := Int.lt_add_one_iff.mp (by exact_mod_cast fewer)
  have under : (count : ℚ) ≤ price * 100 := Int.le_floor.mp reached
  linarith

end Cents

end AlphaAgent.Intraday
