import AlphaAgent.Shadow.Queries
import AlphaAgent.Shadow.Rounds

/-!
# Units of work over the tables

Within a cycle the tables are spread over what is committed, what the session
has flushed and what it has pending. `At` says which tables result from all
three together. A query answers from the flushed ones; a flush moves what is
pending there, or ends the transaction with an error which the service does not
catch.
-/

namespace AlphaAgent.Shadow

open Foundation

/-- One session works on the database, whatever the surroundings refuse. -/
def serialContract : Contract Reply Store where
  asks _ _ := True
  answers store op reply after := ∃ environment, performer environment op store = (reply, after)

section Assertions

variable (session : ℕ) (base : Database)

/-- The tables which result from what is committed, flushed and pending. -/
def Store.resulting (store : Store) (pending : List Write) : Database :=
  (store.view session).applyAll pending

/-- The session stands at the tables: what its cycle found committed still is,
and what is flushed and pending leads to them, with every instrument flushed. -/
structure At (tables : Database) (pending : List Write) (store : Store) : Prop where
  committed : store.committed = base
  instruments : (store.view session).instruments = tables.instruments
  resulting : store.resulting session pending = tables

/-- The same, with nothing pending. -/
def Settled (tables : Database) (pending : List Write) (store : Store) : Prop :=
  pending = [] ∧ At session base tables pending store

/-- The session stands at tables to which a step leads. -/
def Reaches (leads : Database → Prop) (pending : List Write) (store : Store) : Prop :=
  ∃ tables, leads tables ∧ At session base tables pending store

/-- An error leaves what was committed, and one which the service catches leaves
what it relies on then. -/
def Fails (kept : List Write → Store → Prop) (raised : RaisedError) (pending : List Write)
    (store : Store) : Prop :=
  store.committed = base ∧ (isTradingAlpha raised = true → kept pending store)

/-- A triple whose errors fail as above. -/
abbrev Spec {α : Type} (kept pre : List Write → Store → Prop) (work : SessionM α)
    (post : α → List Write → Store → Prop) : Prop :=
  Work.Triple serialContract pre work post (Fails base kept)

end Assertions

section Rules

variable {session : ℕ} {base : Database} {α : Type} {kept pre : List Write → Store → Prop}

theorem ask_spec {op : Operation} {answered : Reply op → List Write → Store → Prop}
    {raises : RaisedError → List Write → Store → Prop}
    (leads : ∀ pending store environment, pre pending store →
      answered (performer environment op store).1 pending (performer environment op store).2) :
    Work.Triple serialContract pre (Work.ask op) answered raises := by
  apply Work.Triple.ask
  · intro pending store _
    trivial
  · rintro pending store reply after holds ⟨environment, performed⟩
    have led := leads pending store environment holds
    rwa [performed] at led

theorem fromDatabase_spec {asked : SessionM (Except DatabaseError α)}
    {post : α → List Write → Store → Prop}
    (triple : Spec base kept pre asked fun result pending store =>
      match result with
      | .ok value => post value pending store
      | .error _ => store.committed = base) :
    Spec base kept pre (fromDatabase asked) post := by
  refine Work.Triple.bind triple fun result => ?_
  cases result with
  | ok value => exact Work.Triple.pure fun _ _ holds => holds
  | error failed =>
    apply Work.Triple.throw
    intro pending store same
    exact ⟨same, by simp⟩

/-- A query which the surroundings let through returns its value and changes nothing. -/
theorem answer_spec {value : α} {refused : Bool} {post : α → Prop} {store : Store}
    (holds : post value) (same : store.committed = base) :
    match answer refused value with
    | .ok value => post value
    | .error _ => store.committed = base := by
  cases refused with
  | true => exact same
  | false => exact holds

/-- A query leaves the store alone. -/
theorem performer_query {op : Operation} (isQuery : op.isQuery = true) (environment : Environment)
    (store : Store) : (performer environment op store).2 = store := by
  cases op with
  | flush | commit | rollback => cases isQuery
  | _ => rfl

/-- Queries keep the assertion before them, also where they raise. -/
theorem queries_spec {work : SessionM α} (queries : Queries work)
    (committed : ∀ pending store, pre pending store → store.committed = base)
    (keeps : ∀ pending store, pre pending store → kept pending store) :
    Spec base kept pre work fun _ => pre := by
  have same : Work.Triple serialContract pre work (fun _ => pre) fun _ => pre := by
    apply queries.keeps
    · intro store op _
      trivial
    · rintro pending store op reply after isQuery holds ⟨environment, performed⟩
      have same : after = store := by
        rw [← performer_query isQuery environment store, performed]
      exact same ▸ holds
  exact same.consequence (fun _ _ holds => holds) (fun _ _ _ holds => holds)
    fun _ pending store holds => ⟨committed pending store holds, fun _ => keeps pending store holds⟩

/-- A query returns the objects of the rows which it selects. -/
theorem selectObservations_spec (filter : ObservationFilter)
    (order : List ShadowObservation → List ShadowObservation)
    (committed : ∀ pending store, pre pending store → store.committed = base) :
    Spec base kept pre (selectObservations session filter order) fun objects pending store =>
      pre pending store ∧ objects =
        (order ((store.view session).observations.filter filter.selects)).map (loaded pending) := by
  have asked : Spec base kept pre
      (fromDatabase (Work.ask (Operation.observations session filter)))
      fun (rows : List ShadowObservation) pending store => pre pending store ∧
        rows = (store.view session).observations.filter filter.selects :=
    fromDatabase_spec (ask_spec fun pending store _ holds =>
      answer_spec ⟨holds, rfl⟩ (committed pending store holds))
  refine Work.Triple.bind asked fun rows => ?_
  have gets : Spec base kept (fun pending store => pre pending store ∧
      rows = (store.view session).observations.filter filter.selects) get
      fun value pending store => value = pending ∧ pre pending store ∧
        rows = (store.view session).observations.filter filter.selects :=
    Work.Triple.get fun _ _ holds => ⟨rfl, holds⟩
  refine Work.Triple.bind gets fun value => Work.Triple.pure ?_
  rintro pending store ⟨rfl, holds, rfl⟩
  exact ⟨holds, rfl⟩

/-- A query returns the samples which it selects. -/
theorem selectSamples_spec (filter : SampleFilter)
    (committed : ∀ pending store, pre pending store → store.committed = base) :
    Spec base kept pre (selectSamples session filter) fun samples pending store =>
      pre pending store ∧ samples = (store.view session).samples.filter filter.selects :=
  fromDatabase_spec (ask_spec fun pending store _ holds =>
    answer_spec ⟨holds, rfl⟩ (committed pending store holds))

/-- A flush which the database accepts leaves nothing pending. -/
theorem flush_spec {post : List Write → Store → Prop}
    (committed : ∀ pending store, pre pending store → store.committed = base)
    (leads : ∀ pending store, pre pending store → (store.view session).AcceptsAll pending →
      post [] (store.afterFlush session pending)) :
    Spec base kept pre (flush session) fun _ => post := by
  have gets : Spec base kept pre get fun value pending store => value = pending ∧
      pre pending store := Work.Triple.get fun _ _ holds => ⟨rfl, holds⟩
  refine Work.Triple.bind gets fun value => ?_
  have asked : Spec base kept (fun pending store => value = pending ∧ pre pending store)
      (fromDatabase (Work.ask (Operation.flush session value))) fun _ _ store => post [] store := by
    apply fromDatabase_spec
    apply ask_spec
    rintro pending store environment ⟨rfl, holds⟩
    rcases performer_flush environment store session value with ⟨accepted, flushed⟩ |
      ⟨failed, refused⟩
    · rw [flushed]
      exact leads value store holds accepted
    · rw [refused]
      exact committed value store holds
  exact Work.Triple.bind asked fun _ => Work.Triple.modify fun _ _ holds => holds

theorem write_spec {post : List Write → Store → Prop} (entry : Write)
    (leads : ∀ pending store, pre pending store → post (pending ++ [entry]) store) :
    Spec base kept pre (write entry) fun _ => post :=
  Work.Triple.modify leads

end Rules

section Standing

variable {session : ℕ} {base tables : Database} {pending : List Write} {store : Store}

theorem Settled.standing (settled : Settled session base tables pending store) :
    At session base tables pending store := settled.2

theorem Settled.view (settled : Settled session base tables pending store) :
    store.view session = tables := by
  obtain ⟨rfl, standing⟩ := settled
  exact standing.resulting

/-- A flush moves what is pending to the flushed writes. -/
theorem At.flushed (standing : At session base tables pending store) :
    Settled session base tables [] (store.afterFlush session pending) := by
  have view : (store.afterFlush session pending).view session = tables :=
    (store.view_afterFlush pending).trans standing.resulting
  exact ⟨rfl, standing.committed, congrArg Database.instruments view, view⟩

/-- The tables after a write which inserts no instrument. -/
theorem At.written (standing : At session base tables pending store) (entry : Write)
    (same : (tables.apply entry).instruments = tables.instruments) :
    At session base (tables.apply entry) (pending ++ [entry]) store := by
  refine ⟨standing.committed, standing.instruments.trans same.symm, ?_⟩
  rw [Store.resulting, Database.applyAll_append, ← Store.resulting, standing.resulting]
  rfl

theorem flush_settles {kept : List Write → Store → Prop} :
    Spec base kept (At session base tables) (flush session)
      fun _ => Settled session base tables :=
  flush_spec (fun _ _ standing => standing.committed) fun _ _ standing _ => standing.flushed

end Standing
end AlphaAgent.Shadow
