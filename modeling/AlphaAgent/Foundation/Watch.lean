import AlphaAgent.Foundation.Calls
import AlphaAgent.Foundation.Work
import Mathlib.Logic.Function.Basic

/-!
# Watched interleavings

A watched pool is one whose operations a monitor observes. When every program of
the pool meets a contract of its own, over a state of its own which nothing else
changes, an invariant of the shared state, the monitor and these states is
established one operation at a time: the operation is one which the contract of
its program allows in the state of this program.
-/

namespace AlphaAgent.Foundation

universe u

/-- A pool and what a monitor has made of its operations so far. -/
structure Watched {Op : Type u} (Reply : Op → Type u) (α σ μ : Type u) where
  pool : Pool Reply α σ
  monitor : μ

namespace Watched

variable {Op : Type u} {Reply : Op → Type u} {α σ μ γ ε : Type u}

/-- The operation which a turn would perform. -/
def nextOp (watched : Watched Reply α σ μ) (turn : Nat × ε) : Option Op :=
  match watched.pool.threads[turn.1]? with
  | some (.request op _) => some op
  | _ => none

variable (performer : ε → Performer Reply σ) (observe : μ → σ → (op : Op) → Reply op → μ)

/-- Advance one program by one operation, which the monitor observes. -/
def turn (watched : Watched Reply α σ μ) (turn : Nat × ε) : Watched Reply α σ μ where
  pool := watched.pool.step (performer turn.2) turn.1
  monitor :=
    match watched.nextOp turn with
    | some op => observe watched.monitor watched.pool.shared op
        (performer turn.2 op watched.pool.shared).1
    | none => watched.monitor

variable {performer observe}

/-- A turn does nothing, or performs the next operation of one program. -/
theorem turn_cases (watched : Watched Reply α σ μ) (turn : Nat × ε) :
    watched.turn performer observe turn = watched ∨
      ∃ op next, watched.pool.threads[turn.1]? = some (.request op next) ∧
        watched.nextOp turn = some op ∧
        (watched.turn performer observe turn).pool.threads = watched.pool.threads.set turn.1
          (next (performer turn.2 op watched.pool.shared).1) ∧
        (watched.turn performer observe turn).pool.shared =
          (performer turn.2 op watched.pool.shared).2 ∧
        (watched.turn performer observe turn).monitor =
          observe watched.monitor watched.pool.shared op
            (performer turn.2 op watched.pool.shared).1 := by
  cases located : watched.pool.threads[turn.1]? with
  | none => exact .inl (by simp [Watched.turn, nextOp, Pool.step, located])
  | some program =>
    cases program with
    | done result => exact .inl (by simp [Watched.turn, nextOp, Pool.step, located])
    | request op next =>
      refine .inr ⟨op, next, rfl, ?_⟩
      simp [Watched.turn, nextOp, Pool.step, located]

/-- The operation of a turn is permitted where its turn comes. -/
def Permitted (permits : σ → μ → Op → Prop) (watched : Watched Reply α σ μ) (turn : Nat × ε) :
    Prop :=
  ∀ op ∈ watched.nextOp turn, permits watched.pool.shared watched.monitor op

instance (permits : σ → μ → Op → Prop) [∀ shared monitor op, Decidable (permits shared monitor op)]
    (watched : Watched Reply α σ μ) (turn : Nat × ε) : Decidable (Permitted permits watched turn) :=
  inferInstanceAs (Decidable (∀ op ∈ watched.nextOp turn, _))

/-- Every program meets its contract from its state, and the invariant holds. -/
structure Holds (contract : Nat → Contract Reply γ) (invariant : σ → μ → (Nat → γ) → Prop)
    (watched : Watched Reply α σ μ) (states : Nat → γ) : Prop where
  programs : ∀ index (program : Program Reply α), watched.pool.threads[index]? = some program →
    program.Meets (contract index) (fun _ _ => True) (states index)
  invariant : invariant watched.pool.shared watched.monitor states

/-- Every permitted operation which a program may ask keeps the invariant, with a
next state of this program which the contract has after the answer. -/
def Preserves (performer : ε → Performer Reply σ) (observe : μ → σ → (op : Op) → Reply op → μ)
    (contract : Nat → Contract Reply γ) (invariant : σ → μ → (Nat → γ) → Prop)
    (permits : σ → μ → Op → Prop) : Prop :=
  ∀ index environment op shared monitor states,
    invariant shared monitor states → (contract index).asks (states index) op →
    permits shared monitor op →
    ∃ after, (contract index).answers (states index) op (performer environment op shared).1 after ∧
      invariant (performer environment op shared).2
        (observe monitor shared op (performer environment op shared).1)
        (Function.update states index after)

section Invariant

variable {contract : Nat → Contract Reply γ} {invariant : σ → μ → (Nat → γ) → Prop}
  {permits : σ → μ → Op → Prop}

/-- What each allowed operation preserves, each turn preserves. -/
theorem Holds.turn (preserves : Preserves performer observe contract invariant permits)
    {watched : Watched Reply α σ μ} {states : Nat → γ}
    (holds : Holds contract invariant watched states) (turn : Nat × ε)
    (permitted : Permitted permits watched turn) :
    ∃ states, Holds contract invariant (watched.turn performer observe turn) states := by
  rcases watched.turn_cases turn with idle | ⟨op, next, located, asked, threads, shared, monitor⟩
  · rw [idle]
    exact ⟨states, holds⟩
  · have meets := holds.programs turn.1 _ located
    obtain ⟨after, answered, kept⟩ := preserves turn.1 turn.2 op _ _ states holds.invariant meets.1
      (permitted op asked)
    refine ⟨Function.update states turn.1 after, ?_, ?_⟩
    · intro index program found
      rw [threads, List.getElem?_set] at found
      by_cases same : turn.1 = index
      · subst same
        rw [if_pos rfl] at found
        split at found
        · rw [← Option.some.inj found, Function.update_self]
          exact meets.2 _ after answered
        · cases found
      · rw [if_neg same] at found
        rw [Function.update_of_ne (Ne.symm same)]
        exact holds.programs index program found
    · rw [shared, monitor]
      exact kept

/-- What each allowed operation preserves holds throughout a run whose operations
are all permitted. -/
theorem Holds.throughout (preserves : Preserves performer observe contract invariant permits)
    {property : Watched Reply α σ μ → Prop}
    (implies : ∀ watched states, invariant watched.pool.shared watched.monitor states →
      property watched)
    {watched : Watched Reply α σ μ} {states : Nat → γ}
    (holds : Holds contract invariant watched states) {schedule : List (Nat × ε)}
    (permitted : AtEachCall (Watched.turn performer observe) (Permitted permits) watched schedule) :
    Throughout (Watched.turn performer observe) property watched schedule := by
  have kept : ∀ (watched : Watched Reply α σ μ) turn,
      (∃ states, Holds contract invariant watched states) → Permitted permits watched turn →
      ∃ states, Holds contract invariant (watched.turn performer observe turn) states := by
    rintro watched turn ⟨states, holds⟩ here
    exact holds.turn preserves turn here
  refine throughout_of kept ?_ ⟨states, holds⟩ permitted
  rintro watched ⟨states, holds⟩
  exact implies watched states holds.invariant

/-- What follows of each turn from the contracts and an invariant which every operation keeps. -/
theorem Holds.at_each_turn
    (preserves : Preserves performer observe contract invariant fun _ _ _ => True)
    {condition : Watched Reply α σ μ → Nat × ε → Prop}
    (implies : ∀ watched states, Holds contract invariant watched states →
      ∀ turn, condition watched turn)
    {watched : Watched Reply α σ μ} {states : Nat → γ}
    (holds : Holds contract invariant watched states) (schedule : List (Nat × ε)) :
    AtEachCall (Watched.turn performer observe) condition watched schedule := by
  have kept : ∀ (watched : Watched Reply α σ μ) turn,
      (∃ states, Holds contract invariant watched states) →
      ∃ states, Holds contract invariant (watched.turn performer observe turn) states := by
    rintro watched turn ⟨states, holds⟩
    exact holds.turn preserves turn fun _ _ => trivial
  refine atEachCall_of_invariant kept ?_ ⟨states, holds⟩
  rintro watched turn ⟨states, holds⟩
  exact implies watched states holds turn

/-- An invariant which every operation keeps holds after every interleaving. -/
theorem Holds.run (preserves : Preserves performer observe contract invariant fun _ _ _ => True)
    {watched : Watched Reply α σ μ} {states : Nat → γ}
    (holds : Holds contract invariant watched states) (schedule : List (Nat × ε)) :
    ∃ monitor states,
      Holds contract invariant ⟨watched.pool.run performer schedule, monitor⟩ states := by
  induction schedule generalizing watched states with
  | nil => exact ⟨watched.monitor, states, holds⟩
  | cons turn rest ih =>
    obtain ⟨next, kept⟩ := holds.turn preserves turn fun _ _ => trivial
    exact ih kept

end Invariant
end Watched
end AlphaAgent.Foundation
