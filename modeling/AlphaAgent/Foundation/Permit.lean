import AlphaAgent.Foundation.Program
import Mathlib.Algebra.BigOperators.Group.List.Basic
import Mathlib.Algebra.GroupWithZero.Nat
import Mathlib.Algebra.Order.Monoid.Unbundled.Basic

/-!
# Permits

A permit discipline says which replies hand out permits and how many permits an
operation uses up. A program is `Permitted` when on every path each operation
finds the permits it uses among those its own earlier replies handed out.
Permits are never shared between programs, so the count survives interleaving:
`Pool.uses_le_grants` bounds the permits used in any interleaving of permitted
programs by the permits handed out in it.
-/

namespace AlphaAgent.Foundation

universe u

/-- How many permits a reply hands out and how many an operation uses up. -/
structure PermitPolicy {Op : Type u} (Reply : Op → Type u) where
  grants : (op : Op) → Reply op → Nat
  uses : Op → Nat

namespace PermitPolicy

variable {Op : Type u} {Reply : Op → Type u}

/-- Permits handed out in a list of events. -/
def granted (policy : PermitPolicy Reply) (events : List (Event Reply)) : Nat :=
  (events.map fun event => policy.grants event.1 event.2).sum

/-- Permits used up in a list of events. -/
def used (policy : PermitPolicy Reply) (events : List (Event Reply)) : Nat :=
  (events.map fun event => policy.uses event.1).sum

@[simp] theorem granted_nil (policy : PermitPolicy Reply) : policy.granted [] = 0 := rfl

@[simp] theorem used_nil (policy : PermitPolicy Reply) : policy.used [] = 0 := rfl

@[simp] theorem granted_append (policy : PermitPolicy Reply) (first second : List (Event Reply)) :
    policy.granted (first ++ second) = policy.granted first + policy.granted second := by
  simp [granted]

@[simp] theorem used_append (policy : PermitPolicy Reply) (first second : List (Event Reply)) :
    policy.used (first ++ second) = policy.used first + policy.used second := by
  simp [used]

@[simp] theorem granted_single (policy : PermitPolicy Reply) (event : Event Reply) :
    policy.granted [event] = policy.grants event.1 event.2 := by
  simp [granted]

@[simp] theorem used_single (policy : PermitPolicy Reply) (event : Event Reply) :
    policy.used [event] = policy.uses event.1 := by
  simp [used]

end PermitPolicy

namespace Program

variable {Op : Type u} {Reply : Op → Type u} {α : Type u}

/-- Holding `held` permits, the program never uses a permit it does not hold. -/
def Permitted (policy : PermitPolicy Reply) : Nat → Program Reply α → Prop
  | _, .done _ => True
  | held, .request op next =>
    policy.uses op ≤ held ∧
      ∀ reply, (next reply).Permitted policy (held - policy.uses op + policy.grants op reply)

theorem permitted_request (policy : PermitPolicy Reply) (held : Nat) (op : Op)
    (next : Reply op → Program Reply α) :
    (Program.request op next).Permitted policy held ↔
      policy.uses op ≤ held ∧
        ∀ reply, (next reply).Permitted policy
          (held - policy.uses op + policy.grants op reply) := Iff.rfl

end Program

namespace Pool

variable {Op : Type u} {Reply : Op → Type u} {α σ : Type u}

/-- Every permit handed out so far is used up or held by exactly one program. -/
def Balanced (policy : PermitPolicy Reply) (pool : Pool Reply α σ) : Prop :=
  ∃ held : List Nat, List.Forall₂ (fun count thread => Program.Permitted policy count thread)
      held pool.threads ∧
    held.sum + policy.used pool.events = policy.granted pool.events

private theorem forall₂_set {β γ : Type*} {related : β → γ → Prop} {left : List β}
    {right : List γ} (all : List.Forall₂ related left right) {index : Nat} {value : γ}
    (located : right[index]? = some value) :
    ∃ old, left[index]? = some old ∧ related old value ∧
      ∀ newLeft newRight, related newLeft newRight →
        List.Forall₂ related (left.set index newLeft) (right.set index newRight) := by
  induction all generalizing index with
  | nil => simp at located
  | @cons a b as bs head tail ih =>
    cases index with
    | zero =>
      simp only [List.getElem?_cons_zero, Option.some.injEq] at located
      subst located
      exact ⟨a, rfl, head, fun _ _ new => .cons new tail⟩
    | succ index =>
      obtain ⟨old, atIndex, holds, rebuild⟩ := ih (by simpa using located)
      exact ⟨old, by simpa using atIndex, holds,
        fun newLeft newRight new => .cons head (rebuild newLeft newRight new)⟩

private theorem sum_set {counts : List Nat} {index old : Nat} (new : Nat)
    (located : counts[index]? = some old) :
    (counts.set index new).sum + old = counts.sum + new := by
  induction counts generalizing index with
  | nil => simp at located
  | cons head rest ih =>
    cases index with
    | zero =>
      simp only [List.getElem?_cons_zero, Option.some.injEq] at located
      subst located
      simp only [List.set_cons_zero, List.sum_cons]
      omega
    | succ index =>
      have tail := ih (by simpa using located)
      simp only [List.set_cons_succ, List.sum_cons]
      omega

/-- One step of one program keeps the permits balanced. -/
theorem Balanced.step {policy : PermitPolicy Reply} {pool : Pool Reply α σ}
    (balanced : pool.Balanced policy) (performer : Performer Reply σ) (index : Nat) :
    (pool.step performer index).Balanced policy := by
  rcases step_cases performer pool index with idle | ⟨op, next, located, moved⟩
  · rw [idle]
    exact balanced
  · obtain ⟨held, permitted, account⟩ := balanced
    obtain ⟨old, atIndex, allowed, rebuild⟩ := forall₂_set permitted located
    obtain ⟨enough, continues⟩ := (Program.permitted_request policy old op next).mp allowed
    rw [moved]
    refine ⟨held.set index
      (old - policy.uses op + policy.grants op (performer op pool.shared).1),
      rebuild _ _ (continues _), ?_⟩
    have shifted := sum_set
      (old - policy.uses op + policy.grants op (performer op pool.shared).1) atIndex
    simp only [PermitPolicy.used_append, PermitPolicy.used_single,
      PermitPolicy.granted_append, PermitPolicy.granted_single]
    omega

/-- Every interleaving keeps the permits balanced. -/
theorem Balanced.run {ε : Type u} {policy : PermitPolicy Reply}
    (performer : ε → Performer Reply σ) (schedule : List (Nat × ε)) {pool : Pool Reply α σ}
    (balanced : pool.Balanced policy) : (pool.run performer schedule).Balanced policy := by
  induction schedule generalizing pool with
  | nil => exact balanced
  | cons turn rest ih => exact ih (balanced.step (performer turn.2) turn.1)

/-- Programs which start without permits start balanced. -/
theorem balanced_start {policy : PermitPolicy Reply} {threads : List (Program Reply α)}
    (shared : σ) (permitted : ∀ thread ∈ threads, Program.Permitted policy 0 thread) :
    (start threads shared).Balanced policy := by
  refine ⟨List.replicate threads.length 0, ?_, by simp [start]⟩
  induction threads with
  | nil => exact .nil
  | cons thread rest ih =>
    exact .cons (permitted thread List.mem_cons_self)
      (ih fun other member => permitted other (List.mem_cons_of_mem thread member))

/-- In every interleaving of permitted programs, the permits used never exceed
the permits handed out. -/
theorem uses_le_grants {ε : Type u} {policy : PermitPolicy Reply}
    (performer : ε → Performer Reply σ) (schedule : List (Nat × ε))
    {threads : List (Program Reply α)} (shared : σ)
    (permitted : ∀ thread ∈ threads, Program.Permitted policy 0 thread) :
    policy.used ((start threads shared).run performer schedule).events ≤
      policy.granted ((start threads shared).run performer schedule).events := by
  obtain ⟨held, _, account⟩ := (balanced_start shared permitted).run performer schedule
  omega

end Pool
end AlphaAgent.Foundation
