import AlphaAgent.Foundation.Fallible
import Mathlib.Data.List.Basic

/-!
# Loops over a list

`scan` runs a fallible step on each element of a list, hands it the elements
before, and collects what the steps return; a step which raises ends the loop.
A loop which returned splits at any element. `AtEachStep` is a condition on
every state in which the loop reaches a step, and `scan_iff` makes an exact
condition of the single step one of the whole loop.
-/

namespace AlphaAgent.Foundation.Fallible

variable {ε σ ι β : Type}

/-- Run a step on each element, with the elements before it. -/
def scan (step : List ι → ι → Fallible ε σ β) : List ι → List ι → Fallible ε σ (List β)
  | _, [] => pure []
  | earlier, element :: rest => do
    let value ← step earlier element
    let values ← scan step (earlier ++ [element]) rest
    return value :: values

section Scan

variable (step : List ι → ι → Fallible ε σ β)

/-- A loop moves along a reflexive and transitive relation when each step does. -/
theorem along_scan {related : σ → σ → Prop} (reflexive : ∀ state, related state state)
    (transitive : ∀ a b c, related a b → related b c → related a c) (elements : List ι)
    (moves : ∀ earlier, ∀ element ∈ elements, Along related (step earlier element))
    (earlier : List ι) : Along related (scan step earlier elements) := by
  induction elements generalizing earlier with
  | nil => exact along_of_keeps reflexive fun _ => rfl
  | cons element rest ih =>
    rw [scan]
    apply along_bind transitive (moves earlier element List.mem_cons_self)
    intro value
    rw [bind_pure_comp]
    apply along_map
    apply ih
    intro before later member
    exact moves before later (List.mem_cons_of_mem element member)

/-- A loop which returned has taken its first step and returned from the rest. -/
theorem scan_cons_ok {earlier rest : List ι} {element : ι} {state last : σ} {values : List β}
    (returned : (scan step earlier (element :: rest)).run state = (.ok values, last)) :
    ∃ value next later, (step earlier element).run state = (.ok value, next) ∧
      (scan step (earlier ++ [element]) rest).run next = (.ok later, last) ∧
      values = value :: later := by
  rw [scan] at returned
  obtain ⟨value, next, stepped, continued⟩ := run_bind_ok state returned
  obtain ⟨later, final, ran, ended⟩ := run_bind_ok next continued
  cases ended
  exact ⟨value, next, later, stepped, ran, rfl⟩

/-- A loop which returned has returned one value for each element. -/
theorem scan_length {earlier elements : List ι} {state last : σ} {values : List β}
    (returned : (scan step earlier elements).run state = (.ok values, last)) :
    values.length = elements.length := by
  induction elements generalizing earlier state values with
  | nil =>
    cases returned
    rfl
  | cons element rest ih =>
    obtain ⟨value, next, later, -, ran, rfl⟩ := scan_cons_ok step returned
    rw [List.length_cons, List.length_cons, ih ran]

/-- A loop which returned splits at any element. -/
theorem scan_split {earlier first second : List ι} {state last : σ} {values : List β}
    (returned : (scan step earlier (first ++ second)).run state = (.ok values, last)) :
    ∃ early late middle,
      (scan step earlier first).run state = (.ok early, middle) ∧
      (scan step (earlier ++ first) second).run middle = (.ok late, last) ∧
      values = early ++ late := by
  induction first generalizing earlier state values with
  | nil => exact ⟨[], values, state, rfl, by simpa using returned, rfl⟩
  | cons element rest ih =>
    obtain ⟨value, next, later, stepped, ran, rfl⟩ := scan_cons_ok step returned
    obtain ⟨early, late, middle, ranEarly, ranLate, joined⟩ := ih ran
    refine ⟨value :: early, late, middle, ?_, by simpa using ranLate, by simp [joined]⟩
    simp only [scan, run_bind, stepped, ranEarly, run_pure]

/-- A loop which returned has returned the first values after the first elements. -/
theorem scan_take {earlier elements : List ι} {state last : σ} {values : List β} (k : ℕ)
    (returned : (scan step earlier elements).run state = (.ok values, last)) :
    ∃ middle,
      (scan step earlier (elements.take k)).run state = (.ok (values.take k), middle) ∧
      (scan step (earlier ++ elements.take k) (elements.drop k)).run middle =
        (.ok (values.drop k), last) := by
  rw [← List.take_append_drop k elements] at returned
  obtain ⟨early, late, middle, ranEarly, ranLate, rfl⟩ := scan_split step returned
  have earlyLength := scan_length step ranEarly
  have lateLength := scan_length step ranLate
  rw [List.length_take] at earlyLength
  rw [List.length_drop] at lateLength
  have divided : (early ++ late).take k = early ∧ (early ++ late).drop k = late := by
    by_cases inside : k ≤ elements.length
    · have all : early.length = k := by omega
      exact ⟨List.take_left' all, List.drop_left' all⟩
    · obtain rfl : late = [] := List.eq_nil_of_length_eq_zero (by omega)
      have short : (early ++ []).length ≤ k := by
        rw [List.append_nil]
        omega
      exact ⟨by rw [List.take_of_length_le short, List.append_nil],
        List.drop_eq_nil_of_le short⟩
  rw [divided.1, divided.2]
  exact ⟨middle, ranEarly, ranLate⟩

/-- A loop goes on from where its first step returned. -/
theorem run_scan_cons {earlier rest : List ι} {element : ι} {state next : σ} {value : β}
    (stepped : (step earlier element).run state = (.ok value, next)) :
    ((scan step earlier (element :: rest)).run state).2 =
      ((scan step (earlier ++ [element]) rest).run next).2 := by
  simp only [scan, run_bind, stepped, bind_pure_comp, run_map]

/-- Where each step keeps an invariant and leaves a state which its value
describes, a loop which returned has kept the invariant, and each of its values
describes the state which its element, after those before it, left. -/
theorem scan_values {invariant : σ → Prop} {describes : ι → σ → β → Prop}
    {earlier elements : List ι}
    (stepped : ∀ earlier, ∀ element ∈ elements, ∀ state value next, invariant state →
      (step earlier element).run state = (.ok value, next) →
      invariant next ∧ describes element next value)
    {state last : σ} {values : List β} (initially : invariant state)
    (returned : (scan step earlier elements).run state = (.ok values, last)) :
    invariant last ∧ ∀ (i : ℕ) element, elements[i]? = some element →
      ∃ value, values[i]? = some value ∧
        describes element ((scan step earlier (elements.take (i + 1))).run state).2 value := by
  induction elements generalizing earlier state values with
  | nil =>
    cases returned
    exact ⟨initially, fun _ _ located => by cases located⟩
  | cons element rest ih =>
    obtain ⟨value, next, later, ran, ranLater, rfl⟩ := scan_cons_ok step returned
    obtain ⟨kept, described⟩ := stepped earlier element List.mem_cons_self state value next
      initially ran
    obtain ⟨keptLast, each⟩ := ih
      (fun before other member => stepped before other (List.mem_cons_of_mem element member))
      kept ranLater
    refine ⟨keptLast, ?_⟩
    intro i other located
    cases i with
    | zero =>
      obtain rfl := Option.some.inj located
      refine ⟨value, rfl, ?_⟩
      rw [List.take_succ_cons, run_scan_cons step ran]
      exact described
    | succ i =>
      obtain ⟨some, found, describes⟩ := each i other located
      refine ⟨some, found, ?_⟩
      rw [List.take_succ_cons, run_scan_cons step ran]
      exact describes

/-- The condition holds in every state in which the loop reaches a step. -/
def AtEachStep (condition : List ι → ι → σ → Prop) : List ι → List ι → σ → Prop
  | _, [], _ => True
  | earlier, element :: rest, state =>
    condition earlier element state ∧
      ∀ value next, (step earlier element).run state = (.ok value, next) →
        AtEachStep condition (earlier ++ [element]) rest next

/-- When one step keeps a property exactly under a condition, the loop keeps it
exactly when the condition holds at each step. -/
theorem scan_iff {invariant : σ → Prop} (holds : σ → Prop)
    {condition : List ι → ι → σ → Prop} {elements : List ι}
    (preserved : ∀ earlier, ∀ element ∈ elements, ∀ state, invariant state →
      invariant ((step earlier element).run state).2)
    (exactly : ∀ earlier, ∀ element ∈ elements, ∀ state, invariant state →
      (holds ((step earlier element).run state).2 ↔
        holds state ∧ condition earlier element state))
    (earlier : List ι) {state : σ} (initially : invariant state) :
    holds ((scan step earlier elements).run state).2 ↔
      holds state ∧ AtEachStep step condition earlier elements state := by
  induction elements generalizing earlier state with
  | nil => exact (and_iff_left trivial).symm
  | cons element rest ih =>
    have here := exactly earlier element List.mem_cons_self state initially
    have stillInvariant := preserved earlier element List.mem_cons_self state initially
    rw [scan, run_bind, AtEachStep, ← and_assoc, ← here]
    cases stepped : (step earlier element).run state with
    | mk outcome next =>
      rw [stepped] at stillInvariant
      cases outcome with
      | error raised =>
        refine (and_iff_left ?_).symm
        rintro value last ⟨⟩
      | ok value =>
        have later : holds ((scan step (earlier ++ [element]) rest).run next).2 ↔
            holds next ∧ AtEachStep step condition (earlier ++ [element]) rest next :=
          ih (fun before other member => preserved before other (List.mem_cons_of_mem _ member))
            (fun before other member => exactly before other (List.mem_cons_of_mem _ member))
            (earlier ++ [element]) stillInvariant
        simp only [bind_pure_comp, run_map]
        rw [later]
        apply and_congr_right
        intro _
        constructor
        · rintro within value last ⟨⟩
          exact within
        · intro within
          exact within value next rfl

end Scan
end AlphaAgent.Foundation.Fallible
