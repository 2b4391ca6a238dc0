/-!
# Fallible updates of a state

A `Fallible` computation updates a state statement by statement and can raise;
a raised error keeps what was updated before it. The `run_` lemmas evaluate
such a computation one statement at a time. `Along` says that a computation
moves every state along a relation; over a reflexive and transitive relation,
it follows from the statements of the computation.
-/

namespace AlphaAgent.Foundation

/-- A computation on a state `σ` which can raise an error `ε`. -/
abbrev Fallible (ε σ α : Type) := ExceptT ε (StateM σ) α

namespace Fallible

variable {ε σ α β : Type}

/-- Raise what a computation without a state raised. -/
def ofExcept (result : Except ε α) : Fallible ε σ α := ExceptT.mk (pure result)

/-- A sequence of results which returned has returned from both parts. -/
theorem except_bind_ok {first : Except ε α} {rest : α → Except ε β} {value : β}
    (returned : (first >>= rest) = .ok value) :
    ∃ middle, first = .ok middle ∧ rest middle = .ok value := by
  cases first with
  | error raised => cases returned
  | ok middle => exact ⟨middle, rfl, returned⟩

/-- A loop over inputs which can all be read is the loop over what is read. -/
theorem foldlM_read {read : α → Except ε β} {inputs : List α} {values : List β}
    (reads : inputs.map read = values.map .ok) (step : σ → β → σ) (initial : σ) :
    inputs.foldlM (fun state input => do return step state (← read input)) initial =
      (.ok (values.foldl step initial) : Except ε σ) := by
  induction inputs generalizing values initial with
  | nil =>
    cases values with
    | nil => rfl
    | cons value values => cases reads
  | cons input inputs ih =>
    cases values with
    | nil => cases reads
    | cons value values =>
      obtain ⟨head, rest⟩ := List.cons.inj reads
      rw [List.foldlM_cons, head]
      exact ih rest _

/-- Inputs which can each be read can all be read. -/
theorem exists_reads {read : α → Except ε β} {inputs : List α}
    (each : ∀ input ∈ inputs, ∃ value, read input = .ok value) :
    ∃ values : List β, inputs.map read = values.map .ok := by
  induction inputs with
  | nil => exact ⟨[], rfl⟩
  | cons input inputs ih =>
    obtain ⟨value, head⟩ := each input List.mem_cons_self
    obtain ⟨values, rest⟩ := ih fun other member => each other (List.mem_cons_of_mem _ member)
    exact ⟨value :: values, by rw [List.map_cons, head, rest, List.map_cons]⟩

/-- What every input determines of its value is determined for all of them. -/
theorem map_reads {γ : Type} {read : α → Except ε β} {inputs : List α} {values : List β}
    (reads : inputs.map read = values.map .ok) {known : α → γ} {told : β → γ}
    (agree : ∀ input ∈ inputs, ∀ value, read input = .ok value → told value = known input) :
    values.map told = inputs.map known := by
  induction inputs generalizing values with
  | nil =>
    cases values with
    | nil => rfl
    | cons value values => cases reads
  | cons input inputs ih =>
    cases values with
    | nil => cases reads
    | cons value values =>
      obtain ⟨head, rest⟩ := List.cons.inj reads
      rw [List.map_cons, List.map_cons, agree input List.mem_cons_self value head,
        ih rest fun other member => agree other (List.mem_cons_of_mem _ member)]

/-- A value is what one of the inputs reads as. -/
theorem mem_reads {read : α → Except ε β} {inputs : List α} {values : List β}
    (reads : inputs.map read = values.map .ok) {value : β} (member : value ∈ values) :
    ∃ input ∈ inputs, read input = .ok value :=
  List.mem_map.mp (reads ▸ List.mem_map_of_mem member)

section Runs

variable (state : σ)

theorem run_bind (first : Fallible ε σ α) (rest : α → Fallible ε σ β) :
    (first >>= rest).run state =
      match first.run state with
      | (.ok value, next) => (rest value).run next
      | (.error raised, next) => (.error raised, next) := by
  unfold ExceptT.run
  simp only [bind, ExceptT.bind, ExceptT.mk, StateT.bind]
  cases first state with
  | mk result next => cases result <;> rfl

@[simp] theorem run_pure (value : α) :
    (pure value : Fallible ε σ α).run state = (.ok value, state) := rfl

@[simp] theorem run_get : (get : Fallible ε σ σ).run state = (.ok state, state) := rfl

@[simp] theorem run_modify (update : σ → σ) :
    (modify update : Fallible ε σ Unit).run state = (.ok (), update state) := rfl

@[simp] theorem run_ofExcept (result : Except ε α) :
    (ofExcept result : Fallible ε σ α).run state = (result, state) := rfl

@[simp] theorem run_map (change : α → β) (first : Fallible ε σ α) :
    (change <$> first).run state = ((first.run state).1.map change, (first.run state).2) := by
  rw [map_eq_pure_bind, run_bind]
  cases first.run state with
  | mk result next => cases result <;> rfl

/-- A sequence which returned has returned from both parts. -/
theorem run_bind_ok {first : Fallible ε σ α} {rest : α → Fallible ε σ β} {value : β} {last : σ}
    (returned : (first >>= rest).run state = (.ok value, last)) :
    ∃ middle next, first.run state = (.ok middle, next) ∧
      (rest middle).run next = (.ok value, last) := by
  rw [run_bind] at returned
  split at returned
  · next middle next ran => exact ⟨middle, next, ran, returned⟩
  · cases returned

end Runs

/-- The computation moves every state along the relation, also when it raises. -/
def Along (related : σ → σ → Prop) (computation : Fallible ε σ α) : Prop :=
  ∀ state, related state (computation.run state).2

section Along

variable {related : σ → σ → Prop}

/-- A computation which keeps every state moves along a reflexive relation. -/
theorem along_of_keeps (reflexive : ∀ state, related state state) {computation : Fallible ε σ α}
    (keeps : ∀ state, (computation.run state).2 = state) : Along related computation := by
  intro state
  rw [keeps state]
  exact reflexive state

/-- A sequence moves along a transitive relation when both parts do. -/
theorem along_bind (transitive : ∀ a b c, related a b → related b c → related a c)
    {first : Fallible ε σ α} {rest : α → Fallible ε σ β} (moves : Along related first)
    (continues : ∀ value, Along related (rest value)) : Along related (first >>= rest) := by
  intro state
  have start := moves state
  rw [run_bind]
  split
  · next value next ran =>
    rw [ran] at start
    exact transitive state next _ start (continues value next)
  · next raised next ran =>
    rw [ran] at start
    exact start

theorem along_map {first : Fallible ε σ α} (change : α → β) (moves : Along related first) :
    Along related (change <$> first) := by
  intro state
  rw [run_map]
  exact moves state

end Along

end Fallible
end AlphaAgent.Foundation
