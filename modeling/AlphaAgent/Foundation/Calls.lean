import Mathlib.Data.List.Basic
import Mathlib.Data.List.Nodup
import Mathlib.Tactic.Common

/-!
# Runs of calls on a state

A run applies a total step to a state once for each call. `AtEachCall` is a
condition on every call in the state in which it is made, and `Throughout` is a
property of every state of the run. A property which one call keeps exactly
under a condition holds throughout a run exactly when the condition holds at
each call.
-/

namespace AlphaAgent.Foundation

universe u v

variable {σ : Type u} {ι : Type v}

/-- The condition holds of each call in the state in which it is made. -/
def AtEachCall (step : σ → ι → σ) (condition : σ → ι → Prop) : σ → List ι → Prop
  | _, [] => True
  | state, call :: rest => condition state call ∧ AtEachCall step condition (step state call) rest

/-- The property holds in every state of the run, from the first to the last. -/
def Throughout (step : σ → ι → σ) (holds : σ → Prop) : σ → List ι → Prop
  | state, [] => holds state
  | state, call :: rest => holds state ∧ Throughout step holds (step state call) rest

/-- A condition which can be decided of a call can be decided of a run. -/
instance decidableAtEachCall (step : σ → ι → σ) (condition : σ → ι → Prop)
    [∀ state call, Decidable (condition state call)] :
    ∀ state calls, Decidable (AtEachCall step condition state calls)
  | _, [] => isTrue trivial
  | state, call :: rest =>
    have := decidableAtEachCall step condition (step state call) rest
    inferInstanceAs (Decidable (_ ∧ _))

instance decidableThroughout (step : σ → ι → σ) (holds : σ → Prop) [DecidablePred holds] :
    ∀ state calls, Decidable (Throughout step holds state calls)
  | state, [] => inferInstanceAs (Decidable (holds state))
  | state, call :: rest =>
    have := decidableThroughout step holds (step state call) rest
    inferInstanceAs (Decidable (_ ∧ _))

variable {step : σ → ι → σ} {condition other : σ → ι → Prop} {holds : σ → Prop} {state : σ}
  {calls : List ι}

theorem Throughout.first (throughout : Throughout step holds state calls) : holds state := by
  cases calls with
  | nil => exact throughout
  | cons call rest => exact throughout.1

theorem Throughout.mono {weaker : σ → Prop} (throughout : Throughout step holds state calls)
    (implies : ∀ state, holds state → weaker state) : Throughout step weaker state calls := by
  induction calls generalizing state with
  | nil => exact implies state throughout
  | cons call rest ih => exact ⟨implies state throughout.1, ih throughout.2⟩

/-- An invariant which a call keeps under the condition holds throughout a run
whose calls all meet it. -/
theorem throughout_of {invariant : σ → Prop}
    (kept : ∀ state call, invariant state → condition state call → invariant (step state call))
    (implies : ∀ state, invariant state → holds state) (initially : invariant state)
    (meets : AtEachCall step condition state calls) : Throughout step holds state calls := by
  induction calls generalizing state with
  | nil => exact implies state initially
  | cons call rest ih =>
    exact ⟨implies state initially, ih (kept state call initially meets.1) meets.2⟩

/-- A condition on the calls alone holds at each call of a run exactly when it holds of every
call. -/
theorem atEachCall_iff_forall_mem {condition : ι → Prop} :
    AtEachCall step (fun _ call => condition call) state calls ↔
      ∀ call ∈ calls, condition call := by
  induction calls generalizing state with
  | nil => exact iff_of_true trivial fun call absent => nomatch absent
  | cons call rest ih => rw [AtEachCall, ih, List.forall_mem_cons]

/-- Where an invariant helps to see that a call keeps the property exactly under
the condition, a run keeps it exactly when the condition holds at each call. -/
theorem throughout_iff_of_invariant {invariant : σ → Prop}
    (kept : ∀ state call, invariant state → invariant (step state call))
    (exactly : ∀ state call, invariant state → holds state →
      (holds (step state call) ↔ condition state call))
    (invariantly : invariant state) (initially : holds state) :
    Throughout step holds state calls ↔ AtEachCall step condition state calls := by
  induction calls generalizing state with
  | nil => exact iff_of_true initially trivial
  | cons call rest ih =>
    have next : invariant (step state call) := kept state call invariantly
    constructor
    · rintro ⟨-, later⟩
      have still : holds (step state call) := later.first
      exact ⟨(exactly state call invariantly initially).mp still, (ih next still).mp later⟩
    · rintro ⟨here, later⟩
      have still : holds (step state call) := (exactly state call invariantly initially).mpr here
      exact ⟨initially, (ih next still).mpr later⟩

/-- Exactly under the condition, a call keeps the property; so a run keeps it
exactly when the condition holds at each call. -/
theorem throughout_iff (exactly : ∀ state call, holds state →
      (holds (step state call) ↔ condition state call)) (initially : holds state) :
    Throughout step holds state calls ↔ AtEachCall step condition state calls :=
  have always : ∀ state call, True → holds state →
      (holds (step state call) ↔ condition state call) := fun state call _ => exactly state call
  throughout_iff_of_invariant (fun _ _ _ => trivial) always trivial initially

section Projection

variable {τ : Type*} {project : σ → τ} {image : τ → ι → τ}

/-- A run on a part of the state has the properties of the whole run about that part. -/
theorem throughout_project {about : τ → Prop}
    (commutes : ∀ state call, project (step state call) = image (project state) call) :
    Throughout image about (project state) calls ↔
      Throughout step (fun state => about (project state)) state calls := by
  induction calls generalizing state with
  | nil => exact Iff.rfl
  | cons call rest ih =>
    rw [Throughout, Throughout, ← commutes, ih]

/-- The same for a condition at each call. -/
theorem atEachCall_project {about : τ → ι → Prop}
    (commutes : ∀ state call, project (step state call) = image (project state) call) :
    AtEachCall image about (project state) calls ↔
      AtEachCall step (fun state => about (project state)) state calls := by
  induction calls generalizing state with
  | nil => exact Iff.rfl
  | cons call rest ih =>
    rw [AtEachCall, AtEachCall, ← commutes, ih]

end Projection

/-- Conditions which agree on every call agree at each call of a run. -/
theorem atEachCall_congr (alike : ∀ state call, condition state call ↔ other state call) :
    AtEachCall step condition state calls ↔ AtEachCall step other state calls := by
  induction calls generalizing state with
  | nil => exact Iff.rfl
  | cons call rest ih => exact and_congr (alike state call) ih

/-- A condition which holds of every call in every state holds at each call. -/
theorem atEachCall_of_forall (always : ∀ state call, condition state call) :
    AtEachCall step condition state calls := by
  induction calls generalizing state with
  | nil => exact trivial
  | cons call rest ih => exact ⟨always state call, ih⟩

/-- A condition which an invariant implies holds at each call of a run which keeps the invariant. -/
theorem atEachCall_of_invariant {invariant : σ → Prop}
    (kept : ∀ state call, invariant state → invariant (step state call))
    (implies : ∀ state call, invariant state → condition state call) (initially : invariant state) :
    AtEachCall step condition state calls := by
  induction calls generalizing state with
  | nil => exact trivial
  | cons call rest ih => exact ⟨implies state call initially, ih (kept state call initially)⟩

/-- A condition holds at each call of two runs, one after the other. -/
theorem atEachCall_append {later : List ι} :
    AtEachCall step condition state (calls ++ later) ↔
      AtEachCall step condition state calls ∧
        AtEachCall step condition (calls.foldl step state) later := by
  induction calls generalizing state with
  | nil => exact (iff_of_eq (true_and _)).symm
  | cons call rest ih =>
    rw [List.cons_append, AtEachCall, AtEachCall, ih, and_assoc]
    rfl

/-- Two conditions hold at each call exactly when both do. -/
theorem atEachCall_and :
    AtEachCall step (fun state call => condition state call ∧ other state call) state calls ↔
      AtEachCall step condition state calls ∧ AtEachCall step other state calls := by
  induction calls generalizing state with
  | nil => exact (and_self_iff (a := True)).symm
  | cons call rest ih =>
    rw [AtEachCall, AtEachCall, AtEachCall, ih]
    exact and_and_and_comm

section Appending

variable {κ : Type*} {keys : σ → List κ} {news : σ → ι → List κ}

/-- Calls which append keys that are not there yet leave the keys distinct exactly
when each call appends distinct ones. -/
theorem nodup_foldl_iff
    (appends : ∀ state call, keys (step state call) = keys state ++ news state call)
    (unknown : ∀ state call, ∀ key ∈ news state call, key ∉ keys state) :
    (keys (calls.foldl step state)).Nodup ↔ (keys state).Nodup ∧
      AtEachCall step (fun state call => (news state call).Nodup) state calls := by
  induction calls generalizing state with
  | nil => exact (and_iff_left trivial).symm
  | cons call rest ih =>
    have apart : ∀ old ∈ keys state, ∀ new ∈ news state call, old ≠ new := by
      rintro key old _ new rfl
      exact unknown state call key new old
    rw [List.foldl_cons, ih, appends, List.nodup_append, AtEachCall, and_iff_left apart, and_assoc]

end Appending

end AlphaAgent.Foundation
