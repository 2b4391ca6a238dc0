import AlphaAgent.Foundation.Program
import Mathlib.Tactic.Common

/-!
# Units of work and their contracts

A `Contract` says which operations may be asked in a state, and what can answer
them. A program which meets it asks nothing else, and ends in states which
satisfy a postcondition, whatever it is answered.

A `Work` computation keeps a local state, raises errors, and asks operations of
a program in between. A `Triple` is its contract with a precondition and one
postcondition for each way to end; the rules follow the statements of a
computation.
-/

namespace AlphaAgent.Foundation

universe u

/-- Which operations may be asked in a state, and what can answer them there. -/
structure Contract {Op : Type u} (Reply : Op → Type u) (σ : Type u) where
  asks : σ → Op → Prop
  answers : σ → (op : Op) → Reply op → σ → Prop

namespace Program

variable {Op : Type u} {Reply : Op → Type u} {α β σ : Type u} {contract : Contract Reply σ}

/-- The program asks only what it may, and what it ends in satisfies the postcondition. -/
def Meets (contract : Contract Reply σ) (post : α → σ → Prop) : Program Reply α → σ → Prop
  | .done result, state => post result state
  | .request op next, state => contract.asks state op ∧
      ∀ reply after, contract.answers state op reply after → (next reply).Meets contract post after

theorem Meets.mono {post other : α → σ → Prop} (weaker : ∀ result state, post result state →
      other result state) {program : Program Reply α} {state : σ}
    (meets : program.Meets contract post state) : program.Meets contract other state := by
  induction program generalizing state with
  | done result => exact weaker result state meets
  | request op next ih =>
    refine ⟨meets.1, ?_⟩
    intro reply after answered
    exact ih reply (meets.2 reply after answered)

/-- A sequence meets a contract when the first part ends where the second one starts. -/
theorem Meets.bind {post : β → σ → Prop} {rest : α → Program Reply β} {first : Program Reply α}
    {state : σ}
    (meets : first.Meets contract (fun value => (rest value).Meets contract post) state) :
    (first >>= rest).Meets contract post state := by
  change (first.bind rest).Meets contract post state
  induction first generalizing state with
  | done result => exact meets
  | request op next ih =>
    refine ⟨meets.1, ?_⟩
    intro reply after answered
    exact ih reply (meets.2 reply after answered)

/-- Where every operation may be asked, a program meets what always holds. -/
theorem meets_of_always (allowed : ∀ state op, contract.asks state op) {post : α → σ → Prop}
    (always : ∀ result state, post result state) (program : Program Reply α) (state : σ) :
    program.Meets contract post state := by
  induction program generalizing state with
  | done result => exact always result state
  | request op next ih => exact ⟨allowed state op, fun reply after _ => ih reply after⟩

/-- Run under an environment which answers as the contract says, a program ends
as it says, too. -/
theorem Meets.run {performer : Performer Reply σ}
    (answers : ∀ state op, contract.answers state op (performer op state).1 (performer op state).2)
    {post : α → σ → Prop} {program : Program Reply α} {state : σ}
    (meets : program.Meets contract post state) :
    post (program.run performer state).result (program.run performer state).shared := by
  induction program generalizing state with
  | done result => exact meets
  | request op next ih => exact ih _ (meets.2 _ _ (answers state op))

/-- A program which meets one contract meets another one which simulates it: what
the first allows to ask the second allows too, and it is answered no differently. -/
theorem Meets.transfer {ρ : Type u} {other : Contract Reply ρ} (related : ρ → σ → Prop)
    (simulates : ∀ left right op, related left right → other.asks left op →
      contract.asks right op ∧ ∀ reply after, contract.answers right op reply after →
        ∃ next, other.answers left op reply next ∧ related next after)
    {post : α → ρ → Prop} {program : Program Reply α} {left : ρ} {right : σ}
    (meets : program.Meets other post left) (start : related left right) :
    program.Meets contract (fun result after => ∃ last, related last after ∧ post result last)
      right := by
  induction program generalizing left right with
  | done result => exact ⟨left, start, meets⟩
  | request op next ih =>
    obtain ⟨allowed, answered⟩ := simulates left right op start meets.1
    refine ⟨allowed, ?_⟩
    intro reply after replies
    obtain ⟨last, otherwise, continues⟩ := answered reply after replies
    exact ih reply (meets.2 reply last otherwise) continues

end Program

/-- A computation with a local state which can raise and asks operations. -/
abbrev Work {Op : Type u} (ε τ : Type u) (Reply : Op → Type u) (α : Type u) : Type u :=
  ExceptT ε (StateT τ (Program Reply)) α

namespace Work

variable {Op : Type u} {Reply : Op → Type u} {ε τ σ α β : Type u}

/-- Ask one operation. -/
def ask (op : Op) : Work ε τ Reply (Reply op) :=
  ExceptT.lift (StateT.lift (Program.perform op))

/-- Raise what a computation without a state raised. -/
def ofExcept (result : Except ε α) : Work ε τ Reply α := ExceptT.mk (pure result)

/-- From local and shared states under the precondition, the computation meets
the contract and ends under the postcondition for its way to end. -/
def Triple (contract : Contract Reply σ) (pre : τ → σ → Prop) (work : Work ε τ Reply α)
    (post : α → τ → σ → Prop) (raises : ε → τ → σ → Prop) : Prop :=
  ∀ here shared, pre here shared → Program.Meets contract (fun ended after =>
    match ended with
    | (.ok value, last) => post value last after
    | (.error raised, last) => raises raised last after) (StateT.run work.run here) shared

namespace Triple

variable {contract : Contract Reply σ} {pre stronger : τ → σ → Prop}
  {post weaker : α → τ → σ → Prop}
  {raises raisesToo : ε → τ → σ → Prop}

theorem consequence {work : Work ε τ Reply α}
    (before : ∀ here shared, stronger here shared → pre here shared)
    (after : ∀ value here shared, post value here shared → weaker value here shared)
    (raised : ∀ error here shared, raises error here shared → raisesToo error here shared)
    (triple : Triple contract pre work post raises) :
    Triple contract stronger work weaker raisesToo := by
  intro here shared holds
  refine (triple here shared (before here shared holds)).mono ?_
  rintro ⟨ended, last⟩ state reached
  cases ended with
  | ok value => exact after value last state reached
  | error error => exact raised error last state reached

/-- A triple holds from any stronger precondition. -/
theorem strengthen {work : Work ε τ Reply α}
    (before : ∀ here shared, stronger here shared → pre here shared)
    (triple : Triple contract pre work post raises) : Triple contract stronger work post raises :=
  triple.consequence before (fun _ _ _ holds => holds) fun _ _ _ holds => holds

/-- A fact of the precondition which names no state is there for the whole triple. -/
theorem given {fact : Prop} {work : Work ε τ Reply α}
    (triple : fact → Triple contract pre work post raises) :
    Triple contract (fun here shared => pre here shared ∧ fact) work post raises := by
  rintro here shared ⟨holds, known⟩
  exact triple known here shared holds

/-- A value which the precondition only says to exist can be named first. -/
theorem choose {ι : Sort _} {known : ι → τ → σ → Prop} {work : Work ε τ Reply α}
    (triple : ∀ value, Triple contract (known value) work post raises) :
    Triple contract (fun here shared => ∃ value, known value here shared) work post raises := by
  rintro here shared ⟨value, holds⟩
  exact triple value here shared holds

/-- Where every operation may be asked, nothing is claimed of any computation. -/
theorem anything (allowed : ∀ state op, contract.asks state op) (work : Work ε τ Reply α) :
    Triple contract (fun _ _ => True) work (fun _ _ _ => True) fun _ _ _ => True := by
  intro here shared _
  apply Program.meets_of_always allowed
  rintro ⟨ended, last⟩ after
  cases ended with
  | ok value => trivial
  | error raised => trivial

theorem pure {value : α} (holds : ∀ here shared, pre here shared → post value here shared) :
    Triple contract pre (Pure.pure value : Work ε τ Reply α) post raises := holds

theorem throw {error : ε} (holds : ∀ here shared, pre here shared → raises error here shared) :
    Triple contract pre (throw error : Work ε τ Reply α) post raises := holds

theorem modify {update : τ → τ} {done : PUnit → τ → σ → Prop}
    (holds : ∀ here shared, pre here shared → done ⟨⟩ (update here) shared) :
    Triple contract pre (modify update : Work ε τ Reply PUnit) done raises := holds

theorem get {read : τ → τ → σ → Prop}
    (holds : ∀ here shared, pre here shared → read here here shared) :
    Triple contract pre (get : Work ε τ Reply τ) read raises := holds

theorem ofExcept {result : Except ε α}
    (ok : ∀ value here shared, result = .ok value → pre here shared → post value here shared)
    (error : ∀ raised here shared, result = .error raised → pre here shared →
      raises raised here shared) :
    Triple contract pre (Work.ofExcept result : Work ε τ Reply α) post raises := by
  intro here shared holds
  cases result with
  | ok value => exact ok value here shared rfl holds
  | error raised => exact error raised here shared rfl holds

theorem bind {middle : α → τ → σ → Prop} {last : β → τ → σ → Prop} {first : Work ε τ Reply α}
    {rest : α → Work ε τ Reply β} (starts : Triple contract pre first middle raises)
    (continues : ∀ value, Triple contract (middle value) (rest value) last raises) :
    Triple contract pre (first >>= rest) last raises := by
  intro here shared holds
  apply Program.Meets.bind
  refine (starts here shared holds).mono ?_
  rintro ⟨ended, between⟩ state reached
  cases ended with
  | ok value => exact continues value between state reached
  | error raised => exact reached

/-- What an operation may be asked, and what each answer leads to. -/
theorem ask {op : Op} {answered : Reply op → τ → σ → Prop}
    (allowed : ∀ here shared, pre here shared → contract.asks shared op)
    (leads : ∀ here shared reply after, pre here shared → contract.answers shared op reply after →
      answered reply here after) :
    Triple contract pre (Work.ask op : Work ε τ Reply (Reply op)) answered raises := by
  intro here shared holds
  refine ⟨allowed here shared holds, ?_⟩
  intro reply after replies
  exact leads here shared reply after holds replies

/-- A handler starts where its body raised. -/
theorem tryCatch {body : Work ε τ Reply α} {handler : ε → Work ε τ Reply α}
    (tries : Triple contract pre body post raises)
    (handles : ∀ error, Triple contract (raises error) (handler error) post raisesToo) :
    Triple contract pre (tryCatch body handler) post raisesToo := by
  intro here shared holds
  apply Program.Meets.bind
  refine (tries here shared holds).mono ?_
  rintro ⟨ended, between⟩ state reached
  cases ended with
  | ok value => exact reached
  | error error => exact handles error between state reached

theorem ite {condition : Prop} [Decidable condition] {first second : Work ε τ Reply α}
    (whenTrue : condition → Triple contract pre first post raises)
    (whenFalse : ¬condition → Triple contract pre second post raises) :
    Triple contract pre (if condition then first else second) post raises := by
  split
  · next holds => exact whenTrue holds
  · next fails => exact whenFalse fails

/-- A loop keeps an assertion about the entries which are left. -/
theorem forM {ι : Type u} (assertion : List ι → τ → σ → Prop) {body : ι → Work ε τ Reply PUnit}
    (round : ∀ entry rest, Triple contract (assertion (entry :: rest)) (body entry)
      (fun _ => assertion rest) raises) (entries : List ι) :
    Triple contract (assertion entries) (entries.forM body) (fun _ => assertion []) raises := by
  induction entries with
  | nil =>
    apply Triple.pure
    intro here shared holds
    exact holds
  | cons entry rest ih => exact Triple.bind (round entry rest) fun _ => ih

/-- A loop keeps an assertion which each round keeps. -/
theorem forM_keeps {ι : Type u} {body : ι → Work ε τ Reply PUnit}
    (round : ∀ entry, Triple contract pre (body entry) (fun _ => pre) raises) (entries : List ι) :
    Triple contract pre (entries.forM body) (fun _ => pre) raises :=
  forM (fun _ => pre) (fun entry _ => round entry) entries

end Triple
end Work
end AlphaAgent.Foundation
