import AlphaAgent.Shadow.Training

/-!
# Parts of a cycle which only ask

The pauses, the cooldown and the exit decision read rows and change nothing. A
computation which only asks such queries keeps every assertion which queries
keep, under any contract that allows them.
-/

namespace AlphaAgent.Shadow

open Foundation

/-- A query other than the lookup of the open observation. -/
def Operation.isQuery : Operation → Bool
  | .hasStrategy _ | .hasInstrument _ _ _ | .samples _ _ => true
  | .observations _ (.openFor _ _) => false
  | .observations _ _ => true
  | _ => false

/-- Only queries are asked; any answer will do. -/
def queryContract : Contract Reply PUnit where
  asks _ op := op.isQuery = true
  answers _ _ _ _ := True

section Queries

variable {α β : Type}

/-- The computation only asks queries and leaves what is pending. -/
def Queries (work : SessionM α) : Prop :=
  ∀ pending : List Write, Work.Triple queryContract (fun here _ => here = pending) work
    (fun _ here _ => here = pending) fun _ here _ => here = pending

theorem queries_pure (value : α) : Queries (pure value) := by
  intro pending
  exact Work.Triple.pure fun _ _ same => same

theorem queries_throw (raised : RaisedError) : Queries (throw raised : SessionM α) := by
  intro pending
  exact Work.Triple.throw fun _ _ same => same

theorem queries_bind {first : SessionM α} {rest : α → SessionM β} (starts : Queries first)
    (continues : ∀ value, Queries (rest value)) : Queries (first >>= rest) := by
  intro pending
  exact Work.Triple.bind (starts pending) fun value => continues value pending

theorem queries_ite {condition : Prop} [Decidable condition] {first second : SessionM α}
    (whenTrue : Queries first) (whenFalse : Queries second) :
    Queries (if condition then first else second) := by
  intro pending
  exact Work.Triple.ite (fun _ => whenTrue pending) fun _ => whenFalse pending

theorem queries_ofExcept (result : Except RaisedError α) :
    Queries (Work.ofExcept result) := by
  cases result with
  | ok value => exact queries_pure value
  | error raised => exact queries_throw raised

theorem queries_get : Queries (get : SessionM (List Write)) := by
  intro pending
  exact Work.Triple.get fun _ _ same => same

theorem queries_ask {op : Operation} (isQuery : op.isQuery = true) :
    Queries (Work.ask op : SessionM (Reply op)) := by
  intro pending
  exact Work.Triple.ask (fun _ _ _ => isQuery) fun _ _ _ _ same _ => same

theorem queries_fromDatabase {asked : SessionM (Except DatabaseError α)} (queries : Queries asked) :
    Queries (fromDatabase asked) := by
  apply queries_bind queries
  intro result
  cases result with
  | ok value => exact queries_pure value
  | error failed => exact queries_throw failed.raised

/-- Under a contract which allows queries, asking them keeps an assertion which
every answer keeps. -/
theorem Queries.keeps {σ : Type} {contract : Contract Reply σ} {pre : List Write → σ → Prop}
    {work : SessionM α} (queries : Queries work)
    (asks : ∀ state op, op.isQuery = true → contract.asks state op)
    (keeps : ∀ pending state op reply after, op.isQuery = true → pre pending state →
      contract.answers state op reply after → pre pending after) :
    Work.Triple contract pre work (fun _ => pre) fun _ => pre := by
  intro pending state holds
  have simulates : ∀ (left : PUnit) right op, pre pending right → queryContract.asks left op →
      contract.asks right op ∧ ∀ reply after, contract.answers right op reply after →
        ∃ next, queryContract.answers left op reply next ∧ pre pending after := by
    intro left right op here isQuery
    refine ⟨asks right op isQuery, ?_⟩
    intro reply after answered
    exact ⟨left, trivial, keeps pending right op reply after isQuery here answered⟩
  refine ((queries pending pending PUnit.unit rfl).transfer (fun _ => pre pending) simulates
    holds).mono ?_
  rintro ⟨ended, last⟩ after ⟨_, here, same⟩
  cases ended with
  | ok value => exact (show last = pending from same) ▸ here
  | error raised => exact (show last = pending from same) ▸ here

end Queries

section Service

variable (session : ℕ) (cycle : Cycle) (market : Market) (symbol : String) (now : ℤ)

theorem queries_selectSamples (filter : SampleFilter) : Queries (selectSamples session filter) :=
  queries_fromDatabase (queries_ask rfl)

theorem queries_recentTrainingSamples (symbol : Option String) (limit : ℕ) :
    Queries (recentTrainingSamples session cycle market symbol now limit) :=
  queries_bind (queries_selectSamples session _) fun _ => queries_pure _

theorem queries_activeReentryCooldown :
    Queries (activeReentryCooldown session cycle market symbol now) :=
  queries_ite (queries_pure none)
    (queries_bind
      (queries_bind (queries_fromDatabase (queries_ask rfl))
        fun _ => queries_bind queries_get fun _ => queries_pure _)
      fun _ => queries_pure _)

theorem queries_marketLossPause : Queries (marketLossPause session cycle market now) :=
  queries_bind (queries_recentTrainingSamples session cycle market now none _) fun _ =>
    queries_pure _

theorem queries_previousSessionSymbolLossPause :
    Queries (previousSessionSymbolLossPause session cycle market symbol now) :=
  queries_ite (queries_pure none) (queries_bind (queries_selectSamples session _) fun _ =>
    queries_pure _)

theorem queries_symbolLossPause : Queries (symbolLossPause session cycle market symbol now) :=
  queries_bind (queries_recentTrainingSamples session cycle market now (some symbol) _) fun _ =>
    queries_pure _

theorem queries_activeLossDisciplinePause :
    Queries (activeLossDisciplinePause session cycle market symbol now) := by
  apply queries_ite (queries_pure none)
  apply queries_bind (queries_marketLossPause session cycle market now)
  intro pause
  cases pause with
  | some pause => exact queries_pure _
  | none =>
    apply queries_bind (queries_previousSessionSymbolLossPause session cycle market symbol now)
    intro pause
    cases pause with
    | some pause => exact queries_pure _
    | none => exact queries_symbolLossPause session cycle market symbol now

theorem queries_entryAllowed (round : SymbolRound) (assessment : Assessment) :
    Queries (entryAllowed session cycle market round assessment) := by
  apply queries_ite (queries_pure false)
  apply queries_bind (queries_ofExcept _)
  intro blocks
  apply queries_ite (queries_pure false)
  apply queries_bind (queries_activeReentryCooldown session cycle market _ _)
  intro cooldown
  apply queries_ite (queries_pure false)
  exact queries_bind (queries_activeLossDisciplinePause session cycle market _ _) fun _ =>
    queries_pure _

theorem queries_decideExit (observation : ShadowObservation) :
    Queries (decideExit session cycle observation) :=
  queries_ite (queries_pure _) (queries_bind (queries_selectSamples session _) fun _ =>
    queries_pure _)

end Service
end AlphaAgent.Shadow
