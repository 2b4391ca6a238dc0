import AlphaAgent.Services.StateSessions

/-!
# Concurrent services over one system state

Any number of service calls, each in a session of its own, perform their
statements in any order, and any statement can fail. A commit is a merge of what
its call assigns into the row which is stored by then, so no call overwrites a
column which it did not mean to change.
-/

namespace AlphaAgent.Services

open Foundation

section Interleaving

/-- What the sessions have selected so far. -/
def selections (selected : ℕ → Option SystemState) (_database : Database) :
    (op : StateStatement) → StateReply op → ℕ → Option SystemState
  | .select session, .ok found => Function.update selected session found
  | _, _ => selected

/-- The pool of services, and what its sessions have selected. -/
abbrev ServicePool := Watched StateReply (Except RaisedError SystemStateSnapshot) Database
  (ℕ → Option SystemState)

/-- A statement and its environment: the session, and what fails. -/
abbrev ServiceTurn := ℕ × Option (CommitFault SQLAlchemyError)

/-- The calls at their start, each in a session of its own. -/
def startServices (calls : List ServiceCall) (database : Database) : ServicePool :=
  ⟨Pool.start (calls.mapIdx fun session call => call.program session) database, fun _ => none⟩

/-- One statement of one session, with what fails of it. -/
def serviceTurn (services : ServicePool) (turn : ServiceTurn) : ServicePool :=
  services.turn stateDatabase selections turn

/-- What a commit does to the tables: it merges what the call assigns into the row
which is stored by then, or stores it as the first row. -/
inductive SessionEffect (call : ServiceCall) (selected : Option SystemState)
    (database next : Database) : Prop where
  | merges (row stored : SystemState) (selects : selected = some row)
      (bound : database.systemState.get? SystemStateService.stateKey = some stored)
      (allowed : call.refuses = false)
      (written : next =
        { systemState := database.systemState.set SystemStateService.stateKey
            ((row.changesTo (call.assigned row)).applyTo stored)
          auditLogs := database.auditLogs ++ (call.log row).toList })
  | creates (selects : selected = none)
      (unbound : database.systemState.get? SystemStateService.stateKey = none)
      (allowed : call.refuses = false)
      (written : next =
        { systemState := database.systemState.set SystemStateService.stateKey
            (call.assigned call.firstRow)
          auditLogs := database.auditLogs ++ (call.log call.firstRow).toList })

variable {calls : List ServiceCall} {call : ServiceCall} {session : ℕ}

theorem sessionEffect_of_committed {row : SystemState} {inserted selected : Option SystemState}
    {database next : Database} (allowed : call.refuses = false)
    (works : WorksOn call row inserted selected)
    (committed : database.committed inserted (row.changesTo (call.assigned row)) (call.log row) =
      some next) : SessionEffect call selected database next := by
  unfold Database.committed at committed
  rcases works with ⟨selects, rfl⟩ | ⟨selects, rfl, rfl⟩
  · cases bound : database.systemState.get? SystemStateService.stateKey with
    | none =>
      rw [bound] at committed
      cases committed
    | some stored =>
      rw [bound] at committed
      exact .merges row stored selects bound allowed (Option.some.inj committed).symm
  · cases bound : database.systemState.get? SystemStateService.stateKey with
    | some stored =>
      rw [bound] at committed
      cases committed
    | none =>
      rw [bound] at committed
      dsimp only at committed
      rw [ServiceCall.applyTo_changesTo] at committed
      exact .creates selects bound allowed (Option.some.inj committed).symm

/-- The tables after a statement which a session may ask. -/
theorem sessionEffect_of_asks {selected : Option SystemState} {op : StateStatement}
    (asks : (sessionContract calls session).asks selected op)
    (fault : Option (CommitFault SQLAlchemyError)) (database : Database) :
    (stateDatabase fault op database).2 = database ∨
      ∃ call, calls[session]? = some call ∧
        SessionEffect call selected database (stateDatabase fault op database).2 := by
  cases op with
  | select own => exact .inl (by cases fault <;> rfl)
  | insert own row =>
    refine .inl ?_
    unfold stateDatabase
    cases fault with
    | none =>
      dsimp only
      split_ifs <;> rfl
    | some fault => rfl
  | commit own inserted changes log =>
    obtain ⟨-, call, located, allowed, row, works, rfl, rfl⟩ := asks
    change (commitReply _ fault database).2 = database ∨ ∃ call, calls[session]? = some call ∧
      SessionEffect call selected database (commitReply _ fault database).2
    cases committed : database.committed inserted (row.changesTo (call.assigned row))
        (call.log row) with
    | none => exact .inl rfl
    | some next =>
      have effect := sessionEffect_of_committed allowed works committed
      cases fault with
      | none => exact .inr ⟨call, located, effect⟩
      | some fault =>
        unfold commitReply
        dsimp only
        split_ifs with takesEffect
        · exact .inr ⟨call, located, effect⟩
        · exact .inl rfl

/-- The contracts of the sessions know what the sessions have selected. -/
theorem selections_preserves :
    Watched.Preserves stateDatabase selections (sessionContract calls)
      (fun _ selected states => selected = states) fun _ _ _ => True := by
  rintro session fault op database selected _ rfl asks -
  cases op with
  | select own =>
    obtain rfl : own = session := asks
    cases fault with
    | none => exact ⟨_, rfl, rfl⟩
    | some fault => exact ⟨_, rfl, (Function.update_eq_self _ _).symm⟩
  | insert own row =>
    exact ⟨_, rfl, (Function.update_eq_self _ _).symm⟩
  | commit own inserted changes log =>
    exact ⟨_, rfl, (Function.update_eq_self _ _).symm⟩

theorem startServices_holds (calls : List ServiceCall) (database : Database) :
    Watched.Holds (sessionContract calls) (fun _ selected states => selected = states)
      (startServices calls database) fun _ => none where
  programs := by
    intro session program located
    rw [startServices, Pool.start, List.getElem?_mapIdx, Option.map_eq_some_iff] at located
    obtain ⟨call, found, rfl⟩ := located
    exact ServiceCall.program_meets found
  invariant := rfl

end Interleaving

section Rows

/-- What several concurrent calls can make of a stored row: the columns of one call
only, and a live-capable mode only under settings which allow it. -/
structure RowKept (call : ServiceCall) (row next : SystemState) : Prop where
  id : next.id = row.id
  liveTradingEnabled : next.liveTradingEnabled = row.liveTradingEnabled
  killSwitch : next.killSwitch ≠ row.killSwitch →
    call.operation = if next.killSwitch then .enableKillSwitch else .disableKillSwitch
  tradingMode : next.tradingMode ≠ row.tradingMode →
    call.operation = .setMode next.tradingMode ∧ call.refuses = false

variable {call : ServiceCall} {row stored : SystemState}

theorem changedColumn_self {α : Type} [DecidableEq α] (loaded : α) :
    changedColumn loaded loaded = none := if_pos rfl

/-- A column which the call assigns has what it assigns, or what is stored. -/
theorem getD_changedColumn_cases {α : Type} [DecidableEq α] (loaded assigned stored : α) :
    (changedColumn loaded assigned).getD stored = stored ∨
      (changedColumn loaded assigned).getD stored = assigned := by
  unfold changedColumn
  split_ifs with same
  · exact .inl rfl
  · exact .inr rfl

/-- A merge changes only what its call is for. -/
theorem rowKept_merge (allowed : call.refuses = false) (row stored : SystemState) :
    RowKept call stored ((row.changesTo (call.assigned row)).applyTo stored) where
  id := rfl
  liveTradingEnabled := rfl
  killSwitch := by
    have merged := getD_changedColumn_cases row.killSwitch (call.assigned row).killSwitch
      stored.killSwitch
    change (changedColumn row.killSwitch (call.assigned row).killSwitch).getD stored.killSwitch ≠
      _ → _ = if (changedColumn row.killSwitch (call.assigned row).killSwitch).getD
        stored.killSwitch then _ else _
    intro changed
    have assigned := merged.resolve_left changed
    rw [assigned]
    unfold ServiceCall.assigned at changed ⊢
    cases asked : call.operation with
    | enableKillSwitch => rfl
    | disableKillSwitch => rfl
    | _ =>
      rw [asked] at changed
      exact absurd (congrArg (Option.getD · stored.killSwitch) (changedColumn_self _)) changed
  tradingMode := by
    have merged := getD_changedColumn_cases row.tradingMode (call.assigned row).tradingMode
      stored.tradingMode
    change (changedColumn row.tradingMode (call.assigned row).tradingMode).getD
      stored.tradingMode ≠ _ → _ = ServiceOperation.setMode ((changedColumn row.tradingMode
        (call.assigned row).tradingMode).getD stored.tradingMode) ∧ _
    intro changed
    have assigned := merged.resolve_left changed
    rw [assigned]
    unfold ServiceCall.assigned at changed ⊢
    cases asked : call.operation with
    | setMode mode => exact ⟨rfl, allowed⟩
    | _ =>
      rw [asked] at changed
      exact absurd (congrArg (Option.getD · stored.tradingMode) (changedColumn_self _)) changed

/-- A stored row stays stored, and only what the call is for has changed. -/
theorem SessionEffect.rowKept {selected : Option SystemState} {database next : Database}
    (effect : SessionEffect call selected database next)
    (bound : database.systemState.get? SystemStateService.stateKey = some stored) :
    ∃ after, next.systemState.get? SystemStateService.stateKey = some after ∧
      RowKept call stored after := by
  cases effect with
  | merges row found selects located allowed written =>
    rw [bound] at located
    cases located
    rw [written]
    exact ⟨_, Dict.get?_set_self _ _ _, rowKept_merge allowed row stored⟩
  | creates selects unbound allowed written =>
    rw [bound] at unbound
    cases unbound

end Rows

section Runs

variable {calls : List ServiceCall}

/-- A turn does nothing to the tables, or commits what the call of its session assigns. -/
def CommitsItsCall (calls : List ServiceCall) (services : ServicePool) (turn : ServiceTurn) :
    Prop :=
  (serviceTurn services turn).pool.shared = services.pool.shared ∨
    ∃ call, calls[turn.1]? = some call ∧ SessionEffect call (services.monitor turn.1)
      services.pool.shared (serviceTurn services turn).pool.shared

theorem commitsItsCall_of_holds (services : ServicePool) (states : ℕ → Option SystemState)
    (holds : services.Holds (sessionContract calls) (fun _ selected states => selected = states)
      states) (turn : ServiceTurn) : CommitsItsCall calls services turn := by
  rcases services.turn_cases turn with idle | ⟨op, next, located, -, -, shared, -⟩
  · exact .inl (congrArg (·.pool.shared) idle)
  · have asks := (holds.programs turn.1 _ located).1
    rw [← holds.invariant] at asks
    rw [CommitsItsCall, serviceTurn, shared]
    exact sessionEffect_of_asks asks turn.2 services.pool.shared

/-- What a stretch of an interleaving makes of a stored row. -/
structure RowEvolves (calls : List ServiceCall) (turns : List ServiceTurn)
    (row next : SystemState) : Prop where
  id : next.id = row.id
  liveTradingEnabled : next.liveTradingEnabled = row.liveTradingEnabled
  switchedOff : row.killSwitch = true → next.killSwitch = false → ∃ turn ∈ turns,
    ∃ call, calls[turn.1]? = some call ∧ call.operation = .disableKillSwitch
  tradingMode : next.tradingMode = row.tradingMode ∨ ∃ turn ∈ turns, ∃ call,
    calls[turn.1]? = some call ∧ call.operation = .setMode next.tradingMode ∧
      call.refuses = false

theorem RowEvolves.refl (turns : List ServiceTurn) (row : SystemState) :
    RowEvolves calls turns row row where
  id := rfl
  liveTradingEnabled := rfl
  switchedOff := by
    intro enabled disabled
    rw [enabled] at disabled
    cases disabled
  tradingMode := .inl rfl

/-- A commit first, and then a stretch. -/
theorem RowEvolves.cons {turn : ServiceTurn} {turns : List ServiceTurn} {call : ServiceCall}
    {row between next : SystemState} (located : calls[turn.1]? = some call)
    (kept : RowKept call row between) (evolves : RowEvolves calls turns between next) :
    RowEvolves calls (turn :: turns) row next where
  id := evolves.id.trans kept.id
  liveTradingEnabled := evolves.liveTradingEnabled.trans kept.liveTradingEnabled
  switchedOff := by
    intro enabled disabled
    cases switched : between.killSwitch with
    | true =>
      obtain ⟨later, member, found⟩ := evolves.switchedOff switched disabled
      exact ⟨later, List.mem_cons_of_mem turn member, found⟩
    | false =>
      have turnedOff := kept.killSwitch (by rw [switched, enabled]; decide)
      rw [switched] at turnedOff
      exact ⟨turn, List.mem_cons_self, call, located, turnedOff⟩
  tradingMode := by
    rcases evolves.tradingMode with same | ⟨later, member, found⟩
    · by_cases changed : between.tradingMode = row.tradingMode
      · exact .inl (same.trans changed)
      · have set := kept.tradingMode changed
        rw [← same] at set
        exact .inr ⟨turn, List.mem_cons_self, call, located, set⟩
    · exact .inr ⟨later, List.mem_cons_of_mem turn member, found⟩

theorem RowEvolves.weaken {turn : ServiceTurn} {turns : List ServiceTurn} {row next : SystemState}
    (evolves : RowEvolves calls turns row next) : RowEvolves calls (turn :: turns) row next where
  id := evolves.id
  liveTradingEnabled := evolves.liveTradingEnabled
  switchedOff := by
    intro enabled disabled
    obtain ⟨later, member, found⟩ := evolves.switchedOff enabled disabled
    exact ⟨later, List.mem_cons_of_mem turn member, found⟩
  tradingMode := by
    rcases evolves.tradingMode with same | ⟨later, member, found⟩
    · exact .inl same
    · exact .inr ⟨later, List.mem_cons_of_mem turn member, found⟩

/-- A stored row stays stored over a stretch of commits. -/
theorem rowEvolves_of_commits {services : ServicePool} {turns : List ServiceTurn}
    (commits : AtEachCall serviceTurn (CommitsItsCall calls) services turns) {row : SystemState}
    (bound : services.pool.shared.systemState.get? SystemStateService.stateKey = some row) :
    ∃ next, (turns.foldl serviceTurn services).pool.shared.systemState.get?
        SystemStateService.stateKey = some next ∧ RowEvolves calls turns row next := by
  induction turns generalizing services row with
  | nil => exact ⟨row, bound, .refl [] row⟩
  | cons turn rest ih =>
    rcases commits.1 with unchanged | ⟨call, located, effect⟩
    · rw [← unchanged] at bound
      obtain ⟨next, stored, evolves⟩ := ih commits.2 bound
      exact ⟨next, stored, evolves.weaken⟩
    · obtain ⟨between, stays, kept⟩ := effect.rowKept bound
      obtain ⟨next, stored, evolves⟩ := ih commits.2 stays
      exact ⟨next, stored, evolves.cons located kept⟩

/-- In every interleaving of concurrent services, under any settings and any failures,
every statement leaves the tables alone or merges what its own call assigns into the
row which is stored by then, with the log of the call. So from any point on the row
keeps its id and its live flag, its kill switch goes off only by a commit of
`disable_kill_switch`, and its mode changes only to one which a `set_mode` call asks
for under settings which allow it. -/
theorem interleaved_services (database : Database) (calls : List ServiceCall)
    (schedule : List ServiceTurn) :
    AtEachCall serviceTurn (CommitsItsCall calls) (startServices calls database) schedule ∧
    ∀ earlier later row, schedule = earlier ++ later →
      (earlier.foldl serviceTurn (startServices calls database)).pool.shared.systemState.get?
        SystemStateService.stateKey = some row →
      ∃ next, (schedule.foldl serviceTurn
          (startServices calls database)).pool.shared.systemState.get?
            SystemStateService.stateKey = some next ∧ RowEvolves calls later row next := by
  have commits : ∀ turns, AtEachCall serviceTurn (CommitsItsCall calls)
      (startServices calls database) turns := fun turns =>
    (startServices_holds calls database).at_each_turn selections_preserves
      commitsItsCall_of_holds turns
  refine ⟨commits schedule, ?_⟩
  rintro earlier later row rfl bound
  rw [List.foldl_append]
  exact rowEvolves_of_commits (atEachCall_append.mp (commits (earlier ++ later))).2 bound

end Runs

section LostEnable

/-- Somebody enables the kill switch while somebody else disables it. -/
def rivalSwitches : List ServiceCall :=
  [{ settings := .default, operation := .enableKillSwitch },
    { settings := .default, operation := .disableKillSwitch }]

/-- An `enable_kill_switch` which selected the switch on writes nothing to it: a
`disable_kill_switch` which commits in between wins, whoever commits last. -/
example : (([(0, none), (1, none), (1, none), (0, none)] : List ServiceTurn).foldl serviceTurn
    (startServices rivalSwitches .initialized)).pool.shared.state .default =
      { tradingMode := .shadowLive, liveTradingEnabled := false, killSwitch := false } := by
  rfl

end LostEnable

end AlphaAgent.Services
