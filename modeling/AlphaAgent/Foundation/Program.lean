/-!
# Programs over atomic operations

A `Program` is the tree of what a sequential computation asks of its
environment: it either ends with a result or requests one atomic operation and
continues with the reply. The environment is a `Performer`, which answers one
operation and updates a shared state. `Program.run` is the uninterrupted run;
`Pool.run` interleaves any number of programs over one shared state, under a
schedule which names the program to advance and the environment which answers
it. Both record the operations performed, with their replies, in order.
-/

namespace AlphaAgent.Foundation

universe u

/-- A computation which requests operations of type `Op`, each answered in the
reply type of that operation. -/
inductive Program {Op : Type u} (Reply : Op → Type u) (α : Type u) : Type u where
  | done (result : α)
  | request (op : Op) (next : Reply op → Program Reply α)

namespace Program

variable {Op : Type u} {Reply : Op → Type u} {α β : Type u}

/-- Continue a program with a second one. -/
def bind : Program Reply α → (α → Program Reply β) → Program Reply β
  | .done result, rest => rest result
  | .request op next, rest => .request op fun reply => (next reply).bind rest

instance : Monad (Program Reply) where
  pure := .done
  bind := Program.bind

/-- Request one operation and return its reply. -/
def perform (op : Op) : Program Reply (Reply op) := .request op .done

/-- Requests of one operation are equal when they continue alike on every reply. -/
theorem request_congr {op : Op} {next other : Reply op → Program Reply α}
    (alike : ∀ reply, next reply = other reply) :
    Program.request op next = .request op other :=
  congrArg (Program.request op) (funext alike)

end Program

/-- One performed operation with its reply. -/
abbrev Event {Op : Type u} (Reply : Op → Type u) : Type u := Σ op : Op, Reply op

/-- How an environment answers an operation over a shared state. -/
abbrev Performer {Op : Type u} (Reply : Op → Type u) (σ : Type u) : Type u :=
  (op : Op) → σ → Reply op × σ

namespace Program

variable {Op : Type u} {Reply : Op → Type u} {α σ : Type u}

/-- What an uninterrupted run leaves: its result, the shared state, and the events. -/
structure Outcome (Reply : Op → Type u) (α σ : Type u) where
  result : α
  shared : σ
  events : List (Event Reply)

/-- Run a program to its end with one environment and nothing in between. -/
def run (performer : Performer Reply σ) : Program Reply α → σ → Outcome Reply α σ
  | .done result, shared => ⟨result, shared, []⟩
  | .request op next, shared =>
    let outcome := (next (performer op shared).1).run performer (performer op shared).2
    { outcome with events := ⟨op, (performer op shared).1⟩ :: outcome.events }

@[simp] theorem run_request (performer : Performer Reply σ) (op : Op)
    (next : Reply op → Program Reply α) (shared : σ) :
    (Program.request op next).run performer shared =
      { (next (performer op shared).1).run performer (performer op shared).2 with
        events := ⟨op, (performer op shared).1⟩ ::
          ((next (performer op shared).1).run performer (performer op shared).2).events } := rfl

end Program

/-- Any number of programs over one shared state, with the events performed so far. -/
structure Pool {Op : Type u} (Reply : Op → Type u) (α σ : Type u) where
  threads : List (Program Reply α)
  shared : σ
  events : List (Event Reply)

namespace Pool

variable {Op : Type u} {Reply : Op → Type u} {α σ : Type u}

/-- All programs at their start. -/
def start (threads : List (Program Reply α)) (shared : σ) : Pool Reply α σ :=
  ⟨threads, shared, []⟩

/-- Advance one program by one operation. A finished program, or an index
outside the pool, leaves the pool as it is. -/
def step (performer : Performer Reply σ) (pool : Pool Reply α σ) (index : Nat) :
    Pool Reply α σ :=
  match pool.threads[index]? with
  | some (.request op next) =>
    { threads := pool.threads.set index (next (performer op pool.shared).1)
      shared := (performer op pool.shared).2
      events := pool.events ++ [⟨op, (performer op pool.shared).1⟩] }
  | _ => pool

/-- Run an interleaving. Each entry of the schedule names the program to
advance and the environment which answers its next operation. -/
def run {ε : Type u} (performer : ε → Performer Reply σ) (schedule : List (Nat × ε))
    (pool : Pool Reply α σ) : Pool Reply α σ :=
  schedule.foldl (fun pool turn => pool.step (performer turn.2) turn.1) pool

theorem run_cons {ε : Type u} (performer : ε → Performer Reply σ) (turn : Nat × ε)
    (rest : List (Nat × ε)) (pool : Pool Reply α σ) :
    pool.run performer (turn :: rest) =
      (pool.step (performer turn.2) turn.1).run performer rest := rfl

/-- What one step can do: nothing, or answer the next operation of one program. -/
theorem step_cases (performer : Performer Reply σ) (pool : Pool Reply α σ) (index : Nat) :
    pool.step performer index = pool ∨
      ∃ op next, pool.threads[index]? = some (.request op next) ∧
        pool.step performer index =
          { threads := pool.threads.set index (next (performer op pool.shared).1)
            shared := (performer op pool.shared).2
            events := pool.events ++ [⟨op, (performer op pool.shared).1⟩] } := by
  unfold step
  split
  · next op next located => exact .inr ⟨op, next, located, rfl⟩
  · exact .inl rfl

/-- A property of the shared state and the events which every operation
preserves holds throughout every interleaving, whatever the programs are. -/
theorem run_preserves {ε : Type u} {performer : ε → Performer Reply σ}
    {holds : σ → List (Event Reply) → Prop}
    (preserved : ∀ (environment : ε) (op : Op) (shared : σ) (events : List (Event Reply)),
      holds shared events →
        holds (performer environment op shared).2
          (events ++ [⟨op, (performer environment op shared).1⟩]))
    (schedule : List (Nat × ε)) (pool : Pool Reply α σ)
    (initially : holds pool.shared pool.events) :
    holds (pool.run performer schedule).shared (pool.run performer schedule).events := by
  induction schedule generalizing pool with
  | nil => exact initially
  | cons turn rest ih =>
    rw [run_cons]
    apply ih
    rcases step_cases (performer turn.2) pool turn.1 with idle | ⟨op, next, _, moved⟩
    · rw [idle]
      exact initially
    · rw [moved]
      exact preserved turn.2 op pool.shared pool.events initially

end Pool
end AlphaAgent.Foundation
