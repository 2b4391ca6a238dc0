import AlphaAgent.Foundation.Fallible
import AlphaAgent.ModelTraining.Loader
import Mathlib.Algebra.Order.BigOperators.Group.List
import Mathlib.Tactic.Positivity

/-!
# The diagnostics of the features

`_feature_diagnostics`: how each feature of the samples goes along with their profit and
loss. Numbers are exact; the root of a product of variances is left open, but for being
positive where the product is. A correlation then never divides by zero, and there is one
exactly where at least five samples have the feature and neither of its columns is
constant.
-/

namespace AlphaAgent.ModelTraining

open Foundation

/-- `fmean(values) if values else 0.0`; over the rationals a quotient by zero is zero. -/
def meanOf (values : List ℚ) : ℚ := values.sum / values.length

theorem meanOf_mul (values : List ℚ) : meanOf values * values.length = values.sum := by
  cases values with
  | nil => simp [meanOf]
  | cons value rest =>
    have some : ((value :: rest).length : ℚ) ≠ 0 := by simp; positivity
    exact div_mul_cancel₀ _ some

/-- `value ** 0.5`, as far as a correlation relies on it. -/
structure SquareRoot where
  root : ℚ → ℚ
  positive : ∀ value, 0 < value → 0 < root value

/-- The sum of the squared distances from the mean. -/
def squaredDeviations (values : List ℚ) : ℚ :=
  (values.map fun value => (value - meanOf values) ^ 2).sum

/-- `_correlation`. -/
def correlation (squareRoot : SquareRoot) (xValues yValues : List ℚ) :
    Except RaisedError (Option ℚ) :=
  if xValues.length < 5 ∨ yValues.length < 5 then .ok none
  else
    let xMean := meanOf xValues
    let yMean := meanOf yValues
    let numerator := (List.zipWith (fun x y => (x - xMean) * (y - yMean)) xValues yValues).sum
    let xVar := squaredDeviations xValues
    let yVar := squaredDeviations yValues
    if xVar = 0 ∨ yVar = 0 then .ok none
    else
      let denominator := squareRoot.root (xVar * yVar)
      if denominator = 0 then .error (.zeroDivisionError "float division by zero")
      else .ok (some (numerator / denominator))

inductive DirectionalHint where
  | notEnoughVariation
  | positiveAssociation
  | negativeAssociation
  | weakOrNoAssociation
deriving DecidableEq, Repr

def DirectionalHint.value : DirectionalHint → String
  | notEnoughVariation => "not_enough_variation"
  | positiveAssociation => "positive_association"
  | negativeAssociation => "negative_association"
  | weakOrNoAssociation => "weak_or_no_association"

/-- `_directional_hint`. -/
def directionalHint : Option ℚ → DirectionalHint
  | none => .notEnoughVariation
  | some correlation =>
    if 1 / 5 ≤ correlation then .positiveAssociation
    else if correlation ≤ -(1 / 5) then .negativeAssociation
    else .weakOrNoAssociation

/-- `_safe_ratio`. -/
def safeRatio (numerator : Option ℚ) (denominator : ℚ) : Option ℚ :=
  if denominator ≤ 0 then none else numerator.map (· / denominator)

/-- The features in their order, with the values which the samples have of them. -/
def features : List (String × (IntradayTrainingSample → Option ℚ)) :=
  [("confidence", (·.confidence)),
    ("reward_risk_ratio", (·.rewardRiskRatio)),
    ("expected_risk_pct", fun sample => safeRatio sample.expectedRisk sample.entryPrice),
    ("expected_reward_pct", fun sample => safeRatio sample.expectedReward sample.entryPrice),
    ("distance_to_stop_pct", fun sample =>
      safeRatio (sample.stopLoss.map (sample.entryPrice - ·)) sample.entryPrice),
    ("distance_to_target_pct", fun sample =>
      safeRatio (sample.takeProfit.map (· - sample.entryPrice)) sample.entryPrice)]

structure FeatureDiagnostic where
  name : String
  samples : ℕ
  correlationToPnlPct : Option ℚ
  directionalHint : DirectionalHint
deriving DecidableEq

section Features

variable (squareRoot : SquareRoot) (samples : List IntradayTrainingSample)
  (feature : IntradayTrainingSample → Option ℚ)

/-- The values of a feature, each with the outcome of its sample. -/
def paired : List (ℚ × ℚ) :=
  samples.filterMap fun sample => (feature sample).map fun value =>
    (value, sample.hypotheticalPnlPct)

/-- The diagnostic of one feature. -/
def featureDiagnostic (name : String) : Except RaisedError FeatureDiagnostic := do
  let pairs := paired samples feature
  let correlation ← correlation squareRoot (pairs.map Prod.fst) (pairs.map Prod.snd)
  return ⟨name, pairs.length, correlation, ModelTraining.directionalHint correlation⟩

/-- `_feature_diagnostics`. -/
def featureDiagnostics : Except RaisedError (List FeatureDiagnostic) :=
  features.mapM fun feature => featureDiagnostic squareRoot samples feature.2 feature.1

end Features

/-- Two of the values differ. -/
def Varies (values : List ℚ) : Prop := ∃ first ∈ values, ∃ second ∈ values, first ≠ second

/-- Squared deviations are none exactly for values which do not vary. -/
theorem squaredDeviations_eq_zero (values : List ℚ) :
    squaredDeviations values = 0 ↔ ¬Varies values := by
  constructor
  · intro zero
    have atMean : ∀ value ∈ values, value = meanOf values := by
      intro value member
      have square := List.all_zero_of_le_zero_le_of_sum_eq_zero
        (List.forall_mem_map.mpr fun other _ => sq_nonneg (other - meanOf values)) zero
        (List.mem_map_of_mem member)
      exact sub_eq_zero.mp (pow_eq_zero_iff two_ne_zero |>.mp square)
    rintro ⟨first, isFirst, second, isSecond, differ⟩
    exact differ ((atMean first isFirst).trans (atMean second isSecond).symm)
  · intro constant
    have atMean : ∀ value ∈ values, value - meanOf values = 0 := by
      intro value member
      have same : values = List.replicate values.length value := by
        refine List.eq_replicate_iff.mpr ⟨rfl, fun other isOther => ?_⟩
        by_contra differ
        exact constant ⟨other, isOther, value, member, differ⟩
      have some : (values.length : ℚ) ≠ 0 := by
        exact_mod_cast (List.length_pos_of_mem member).ne'
      have sum : values.sum = values.length * value := by
        conv_lhs => rw [same]
        rw [List.sum_replicate, nsmul_eq_mul]
      rw [meanOf, sum, mul_div_cancel_left₀ value some, sub_self]
    refine List.sum_eq_zero (List.forall_mem_map.mpr fun value member => ?_)
    rw [atMean value member, sq, zero_mul]

theorem squaredDeviations_nonneg (values : List ℚ) : 0 ≤ squaredDeviations values :=
  List.sum_nonneg (List.forall_mem_map.mpr fun value _ => sq_nonneg (value - meanOf values))

/-- A correlation never raises, and there is one of five pairs which vary. -/
theorem correlation_ok (squareRoot : SquareRoot) (pairs : List (ℚ × ℚ)) :
    ∃ result, correlation squareRoot (pairs.map Prod.fst) (pairs.map Prod.snd) = .ok result ∧
      (result.isSome ↔ 5 ≤ pairs.length ∧ Varies (pairs.map Prod.fst) ∧
        Varies (pairs.map Prod.snd)) := by
  unfold correlation
  simp only [List.length_map, or_self]
  by_cases few : pairs.length < 5
  · rw [if_pos few]
    exact ⟨none, rfl, by simp [few]⟩
  by_cases constant : squaredDeviations (pairs.map Prod.fst) = 0 ∨
      squaredDeviations (pairs.map Prod.snd) = 0
  · simp only [if_neg few, if_pos constant]
    refine ⟨none, rfl, iff_of_false Bool.false_ne_true ?_⟩
    rintro ⟨-, first, second⟩
    rcases constant with zero | zero
    · exact (squaredDeviations_eq_zero _).mp zero first
    · exact (squaredDeviations_eq_zero _).mp zero second
  · obtain ⟨first, second⟩ := not_or.mp constant
    have product : 0 < squaredDeviations (pairs.map Prod.fst) *
        squaredDeviations (pairs.map Prod.snd) :=
      mul_pos ((squaredDeviations_nonneg _).lt_of_ne' first)
        ((squaredDeviations_nonneg _).lt_of_ne' second)
    simp only [if_neg few, if_neg constant, if_neg (squareRoot.positive _ product).ne']
    refine ⟨_, rfl, iff_of_true rfl ⟨not_lt.mp few, ?_, ?_⟩⟩
    · exact not_not.mp (mt (squaredDeviations_eq_zero _).mpr first)
    · exact not_not.mp (mt (squaredDeviations_eq_zero _).mpr second)

/-- What a diagnostic says of a feature of some samples. -/
structure FeatureDiagnostic.Describes (diagnostic : FeatureDiagnostic)
    (samples : List IntradayTrainingSample) (feature : IntradayTrainingSample → Option ℚ) :
    Prop where
  counted : diagnostic.samples = samples.countP fun sample => (feature sample).isSome
  correlated : diagnostic.correlationToPnlPct.isSome ↔ 5 ≤ diagnostic.samples ∧
    Varies ((paired samples feature).map Prod.fst) ∧
    Varies ((paired samples feature).map Prod.snd)
  hint : diagnostic.directionalHint = .notEnoughVariation ↔
    diagnostic.correlationToPnlPct = none

theorem length_paired (samples : List IntradayTrainingSample)
    (feature : IntradayTrainingSample → Option ℚ) :
    (paired samples feature).length = samples.countP fun sample => (feature sample).isSome := by
  rw [paired, List.length_filterMap_eq_countP]
  exact List.countP_congr fun sample _ => by simp

theorem directionalHint_eq (correlation : Option ℚ) :
    directionalHint correlation = .notEnoughVariation ↔ correlation = none := by
  cases correlation with
  | none => exact iff_of_true rfl rfl
  | some correlation =>
    rw [directionalHint]
    split_ifs <;> simp

/-- Every feature has its diagnostic. -/
theorem featureDiagnostics_ok (squareRoot : SquareRoot) (samples : List IntradayTrainingSample) :
    ∃ diagnostics, featureDiagnostics squareRoot samples = .ok diagnostics ∧
      List.Forall₂ (fun feature diagnostic => diagnostic.name = feature.1 ∧
        diagnostic.Describes samples feature.2) features diagnostics := by
  unfold featureDiagnostics
  induction features with
  | nil => exact ⟨[], rfl, .nil⟩
  | cons feature rest ih =>
    obtain ⟨correlation, read, correlated⟩ :=
      correlation_ok squareRoot (paired samples feature.2)
    obtain ⟨diagnostics, others, described⟩ := ih
    rw [List.mapM_cons, featureDiagnostic, read, others]
    refine ⟨_, rfl, .cons ⟨rfl, ?_⟩ described⟩
    exact ⟨length_paired _ _, correlated, directionalHint_eq correlation⟩

end AlphaAgent.ModelTraining
