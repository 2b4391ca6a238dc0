import AlphaAgent.Foundation.Fallible

/-!
# Transactions

A transaction keeps all of what a computation wrote, or none of it. A
computation which raises is rolled back. The commit of one which returned can
fail as well: it is rolled back, or it took effect and only its report was lost.
`Fallible.transaction_cases` says once what a transaction can do.
-/

namespace AlphaAgent.Foundation

/-- A failure which a commit reports, and whether the commit took effect. -/
structure CommitFault (ε : Type) where
  raised : ε
  committed : Bool
deriving DecidableEq

namespace Fallible

variable {ε δ σ α : Type}

/-- Raise an error where there is one. -/
def raiseIf (fault : Option ε) : Fallible ε σ Unit :=
  match fault with
  | none => pure ()
  | some raised => throw raised

@[simp] theorem run_raiseIf_none (state : σ) :
    (raiseIf none : Fallible ε σ Unit).run state = (.ok (), state) := rfl

@[simp] theorem run_raiseIf_some (raised : ε) (state : σ) :
    (raiseIf (some raised) : Fallible ε σ Unit).run state = (.error raised, state) := rfl

/-- A statement which could raise and returned did nothing. -/
theorem raiseIf_ok {fault : Option ε} {value : Unit} {state next : σ}
    (returned : (raiseIf fault).run state = (.ok value, next)) : fault = none ∧ state = next := by
  cases fault with
  | none => exact ⟨rfl, (Prod.mk.inj returned).2⟩
  | some raised => cases returned

/-- Run a computation and commit what it wrote. -/
def transaction (fault : Option (CommitFault ε)) (computation : Fallible ε σ α) :
    Fallible ε σ α :=
  ExceptT.mk fun state =>
    match computation.run state, fault with
    | (.error raised, _), _ => (.error raised, state)
    | (.ok value, next), none => (.ok value, next)
    | (.ok _, next), some fault => (.error fault.raised, if fault.committed then next else state)

/-- Answer an error in the state in which it was raised. -/
def handle (computation : Fallible ε σ α) (handler : ε → Fallible δ σ α) : Fallible δ σ α :=
  ExceptT.mk fun state =>
    match computation.run state with
    | (.ok value, next) => (.ok value, next)
    | (.error raised, next) => (handler raised).run next

section Runs

variable {fault : Option (CommitFault ε)} {computation : Fallible ε σ α}
  {handler : ε → Fallible δ σ α} {value : α} {raised : ε} {state next : σ}

theorem run_transaction_error (failed : computation.run state = (.error raised, next)) :
    (transaction fault computation).run state = (.error raised, state) := by
  unfold transaction
  rw [ExceptT.run_mk, failed]

theorem run_transaction_none (returned : computation.run state = (.ok value, next)) :
    (transaction none computation).run state = (.ok value, next) := by
  unfold transaction
  rw [ExceptT.run_mk, returned]

theorem run_transaction_some (returned : computation.run state = (.ok value, next))
    (fault : CommitFault ε) :
    (transaction (some fault) computation).run state =
      (.error fault.raised, if fault.committed then next else state) := by
  unfold transaction
  rw [ExceptT.run_mk, returned]

theorem run_handle_ok (returned : computation.run state = (.ok value, next)) :
    (handle computation handler).run state = (.ok value, next) := by
  unfold handle
  rw [ExceptT.run_mk, returned]

theorem run_handle_error (failed : computation.run state = (.error raised, next)) :
    (handle computation handler).run state = (handler raised).run next := by
  unfold handle
  rw [ExceptT.run_mk, failed]

/-- A transaction returns what its computation wrote, or raises and is rolled
back, or raises although its commit took effect. -/
theorem transaction_cases (fault : Option (CommitFault ε)) (computation : Fallible ε σ α)
    (state : σ) :
    (∃ value next, fault = none ∧ computation.run state = (.ok value, next) ∧
      (transaction fault computation).run state = (.ok value, next)) ∨
    (∃ raised, (transaction fault computation).run state = (.error raised, state)) ∨
    (∃ value next unreported, fault = some unreported ∧ unreported.committed = true ∧
      computation.run state = (.ok value, next) ∧
      (transaction fault computation).run state = (.error unreported.raised, next)) := by
  cases ran : computation.run state with
  | mk result next =>
    cases result with
    | error raised => exact .inr (.inl ⟨raised, run_transaction_error ran⟩)
    | ok value =>
      cases fault with
      | none => exact .inl ⟨value, next, rfl, rfl, run_transaction_none ran⟩
      | some fault =>
        have reported := run_transaction_some ran fault
        cases committed : fault.committed with
        | false =>
          rw [committed] at reported
          exact .inr (.inl ⟨fault.raised, reported⟩)
        | true =>
          rw [committed] at reported
          exact .inr (.inr ⟨value, next, fault, rfl, committed, rfl, reported⟩)

end Runs
end Fallible
end AlphaAgent.Foundation
