import AlphaAgent.Foundation.Grouping
import AlphaAgent.Foundation.Watch
import AlphaAgent.Services.AuditChain

/-!
# Service calls as sessions of a database

A call of the service in a session of its own selects the row, inserts one where
there is none, and commits. A commit writes the columns in which the row differs
from what the session selected. `program_run_alone` says that a session which
nothing disturbs does what the serial service does.
-/

namespace AlphaAgent.Services

open Foundation

/-- What an `UPDATE` sets: the columns which were assigned another value. -/
structure RowChanges where
  tradingMode : Option TradingMode
  killSwitch : Option Bool
  reason : Option String
deriving DecidableEq

/-- An assignment of the value which was loaded is no change. -/
def changedColumn {α : Type} [DecidableEq α] (loaded assigned : α) : Option α :=
  if assigned = loaded then none else some assigned

/-- The assignments which lead from the loaded row to its next value. -/
def SystemState.changesTo (row changed : SystemState) : RowChanges where
  tradingMode := changedColumn row.tradingMode changed.tradingMode
  killSwitch := changedColumn row.killSwitch changed.killSwitch
  reason := changedColumn row.reason changed.reason

def RowChanges.applyTo (changes : RowChanges) (row : SystemState) : SystemState :=
  { row with
    tradingMode := changes.tradingMode.getD row.tradingMode
    killSwitch := changes.killSwitch.getD row.killSwitch
    reason := changes.reason.getD row.reason }

/-- The statements of a session: the lookup of the row, the flush of a new one, and
the commit with what the session inserted, its update and its log. -/
inductive StateStatement where
  | select (session : ℕ)
  | insert (session : ℕ) (row : SystemState)
  | commit (session : ℕ) (inserted : Option SystemState) (changes : RowChanges)
      (log : Option AuditLog)

abbrev StateReply : StateStatement → Type
  | .select _ => Except SQLAlchemyError (Option SystemState)
  | .insert _ _ => Except SQLAlchemyError Unit
  | .commit _ _ _ _ => Except SQLAlchemyError Unit

/-- `IntegrityError` of the unique key, and `StaleDataError` of an update without its row. -/
def rowConflict : SQLAlchemyError := ⟨"system_state row conflict"⟩

/-- The tables after a commit. A row which another session committed first excludes
an inserted one. -/
def Database.committed (database : Database) (inserted : Option SystemState)
    (changes : RowChanges) (log : Option AuditLog) : Option Database :=
  match inserted, database.systemState.get? SystemStateService.stateKey with
  | none, some row | some row, none => some
    { systemState := database.systemState.set SystemStateService.stateKey (changes.applyTo row)
      auditLogs := database.auditLogs ++ log.toList }
  | _, _ => none

/-- What a commit answers, and the tables which it leaves. -/
def commitReply (committed : Option Database) (fault : Option (CommitFault SQLAlchemyError))
    (database : Database) : Except SQLAlchemyError Unit × Database :=
  match committed, fault with
  | none, _ => (.error rowConflict, database)
  | some next, none => (.ok (), next)
  | some next, some fault => (.error fault.raised, if fault.committed then next else database)

/-- The database under read-committed isolation, with what fails of a statement. A
conflict of keys shows at the flush or at the commit. -/
def stateDatabase (fault : Option (CommitFault SQLAlchemyError)) : Performer StateReply Database
  | .select _, database =>
    match fault with
    | none => (.ok (database.systemState.get? SystemStateService.stateKey), database)
    | some fault => (.error fault.raised, database)
  | .insert _ _, database =>
    match fault with
    | none =>
      if (database.systemState.get? SystemStateService.stateKey).isSome then
        (.error rowConflict, database)
      else (.ok (), database)
    | some fault => (.error fault.raised, database)
  | .commit _ inserted changes log, database =>
    commitReply (database.committed inserted changes log) fault database

/-- A computation of one session, which remembers the row that it inserted. -/
abbrev StateSession (α : Type) := Work SQLAlchemyError (Option SystemState) StateReply α

/-- What a statement returns, unless the database raised. -/
def statement {α : Type} (asked : StateSession (Except SQLAlchemyError α)) : StateSession α := do
  Work.ofExcept (← asked)

namespace ServiceCall

/-- The row with what the call assigns. -/
def assigned (call : ServiceCall) (row : SystemState) : SystemState :=
  match call.operation with
  | .getState => row
  | .enableKillSwitch => { row with killSwitch := true, reason := "kill_switch_enabled" }
  | .disableKillSwitch => { row with killSwitch := false, reason := "kill_switch_disabled" }
  | .setMode mode => { row with tradingMode := mode, reason := "mode_changed:" ++ mode.value }

/-- The log which the call adds. -/
def log (call : ServiceCall) (row : SystemState) : Option AuditLog :=
  match call.operation with
  | .getState => none
  | _ => some (auditLog row (call.assigned row) (call.assigned row).reason)

/-- `set_mode` refuses a mode which is live-capable under unsafe settings. -/
def refuses (call : ServiceCall) : Bool :=
  match call.operation with
  | .setMode mode => mode.isLiveCapable && !call.settings.liveModeSafetyErrors.isEmpty
  | _ => false

/-- The row which a call creates where it finds none. -/
def firstRow (call : ServiceCall) : SystemState :=
  SystemStateService.initialRow call.settings call.newId

section Session

variable (call : ServiceCall) (session : ℕ)

/-- `_get_or_create_row` in a session. -/
def locateRow : StateSession SystemState := do
  match ← statement (Work.ask (StateStatement.select session)) with
  | some row => return row
  | none =>
    statement (Work.ask (StateStatement.insert session call.firstRow))
    set (some call.firstRow)
    return call.firstRow

/-- `get_state` and `_mutate_state` up to their commit. -/
def statements : StateSession SystemStateSnapshot := do
  let row ← locateRow call session
  let inserted ← get
  statement (Work.ask (StateStatement.commit session inserted
    (row.changesTo (call.assigned row)) (call.log row)))
  return (call.assigned row).snapshot

/-- What a call reports of the outcome of its session. -/
def answer : Except SQLAlchemyError SystemStateSnapshot → Except RaisedError SystemStateSnapshot
  | .ok snapshot => .ok snapshot
  | .error _ =>
    match call.operation with
    | .getState => .ok (SystemStateService.databaseUnavailableSnapshot call.settings)
    | _ => .error (.riskRejected "system_state_database_unavailable")

/-- A call in a session of its own. -/
def program : Program StateReply (Except RaisedError SystemStateSnapshot) :=
  if call.refuses then .done (.error (.riskRejected "live_mode_safety_flags_not_satisfied"))
  else do
    let (outcome, _) ← StateT.run (call.statements session).run none
    return call.answer outcome

end Session
end ServiceCall

section Statements

variable {call : ServiceCall}

theorem ServiceCall.assigned_id (row : SystemState) : (call.assigned row).id = row.id := by
  unfold ServiceCall.assigned
  cases call.operation <;> rfl

theorem ServiceCall.assigned_liveTradingEnabled (row : SystemState) :
    (call.assigned row).liveTradingEnabled = row.liveTradingEnabled := by
  unfold ServiceCall.assigned
  cases call.operation <;> rfl

theorem getD_changedColumn {α : Type} [DecidableEq α] (loaded assigned : α) :
    (changedColumn loaded assigned).getD loaded = assigned := by
  unfold changedColumn
  split_ifs with same
  · exact same.symm
  · rfl

/-- An update of the row which was loaded stores what was assigned. -/
theorem ServiceCall.applyTo_changesTo (row : SystemState) :
    (row.changesTo (call.assigned row)).applyTo row = call.assigned row := by
  rw [RowChanges.applyTo, SystemState.changesTo]
  dsimp only
  rw [getD_changedColumn, getD_changedColumn, getD_changedColumn,
    ← call.assigned_id row, ← call.assigned_liveTradingEnabled row]

end Statements

section Contract

variable (calls : List ServiceCall)

/-- The row on which a session works, and what it has inserted: the row which it
selected, or its first row where it selected none. -/
def WorksOn (call : ServiceCall) (row : SystemState) (inserted selected : Option SystemState) :
    Prop :=
  selected = some row ∧ inserted = none ∨
    selected = none ∧ row = call.firstRow ∧ inserted = some row

/-- A session commits what its call assigns to the row on which it works. Its state
is what it has selected. -/
def sessionContract (session : ℕ) : Contract StateReply (Option SystemState) where
  asks selected op :=
    match op with
    | .select own | .insert own _ => own = session
    | .commit own inserted changes log => own = session ∧
        ∃ call, calls[session]? = some call ∧ call.refuses = false ∧
          ∃ row, WorksOn call row inserted selected ∧
            changes = row.changesTo (call.assigned row) ∧ log = call.log row
  answers selected op reply after :=
    match op, reply with
    | .select _, .ok found => after = found
    | _, _ => after = selected

variable {calls} {call : ServiceCall} {session : ℕ}

theorem statement_triple {α σ : Type} {contract : Contract StateReply σ}
    {asked : StateSession (Except SQLAlchemyError α)} {pre : Option SystemState → σ → Prop}
    {post : α → Option SystemState → σ → Prop}
    {raises : SQLAlchemyError → Option SystemState → σ → Prop}
    (triple : Work.Triple contract pre asked (fun reply inserted shared =>
      match reply with
      | .ok value => post value inserted shared
      | .error raised => raises raised inserted shared) raises) :
    Work.Triple contract pre (statement asked) post raises := by
  refine Work.Triple.bind triple fun reply => Work.Triple.ofExcept ?_ ?_
  · rintro value inserted shared rfl holds
    exact holds
  · rintro raised inserted shared rfl holds
    exact holds

theorem ServiceCall.locateRow_triple :
    Work.Triple (sessionContract calls session) (fun inserted selected => inserted = none ∧
        selected = none) (call.locateRow session) (WorksOn call) fun _ _ _ => True := by
  have selects : Work.Triple (sessionContract calls session)
      (fun inserted selected => inserted = none ∧ selected = none)
      (statement (Work.ask (StateStatement.select session)))
      (fun found inserted selected => inserted = none ∧ selected = found) fun _ _ _ => True := by
    apply statement_triple
    apply Work.Triple.ask
    · rintro inserted selected -
      rfl
    · rintro inserted selected reply after ⟨rfl, -⟩ answered
      cases reply with
      | ok found => exact ⟨rfl, answered⟩
      | error raised => trivial
  refine Work.Triple.bind selects fun found => ?_
  cases found with
  | some row => exact Work.Triple.pure fun inserted selected holds => .inl ⟨holds.2, holds.1⟩
  | none =>
    have inserts : Work.Triple (sessionContract calls session)
        (fun inserted selected => inserted = none ∧ selected = none)
        (statement (Work.ask (StateStatement.insert session call.firstRow)))
        (fun _ _ selected => selected = none) fun _ _ _ => True := by
      apply statement_triple
      apply Work.Triple.ask
      · rintro inserted selected -
        rfl
      · rintro inserted selected reply after ⟨-, rfl⟩ answered
        cases reply with
        | ok value => exact answered
        | error raised => trivial
    refine Work.Triple.bind inserts fun _ => ?_
    have remembers : Work.Triple (sessionContract calls session) (fun _ selected => selected = none)
        (set (some call.firstRow) : StateSession PUnit)
        (fun _ inserted selected => inserted = some call.firstRow ∧ selected = none)
        fun _ _ _ => True := fun _ _ holds => ⟨rfl, holds⟩
    exact Work.Triple.bind remembers fun _ => Work.Triple.pure fun _ _ holds =>
      .inr ⟨holds.2, rfl, holds.1⟩

theorem ServiceCall.statements_triple (located : calls[session]? = some call)
    (allowed : call.refuses = false) :
    Work.Triple (sessionContract calls session) (fun inserted selected => inserted = none ∧
        selected = none) (call.statements session) (fun _ _ _ => True) fun _ _ _ => True := by
  refine Work.Triple.bind ServiceCall.locateRow_triple fun row => ?_
  have reads : Work.Triple (sessionContract calls session) (WorksOn call row)
      (get : StateSession (Option SystemState))
      (fun known inserted selected => known = inserted ∧ WorksOn call row inserted selected)
      fun _ _ _ => True := Work.Triple.get fun _ _ holds => ⟨rfl, holds⟩
  refine Work.Triple.bind reads fun inserted => ?_
  have commits : Work.Triple (sessionContract calls session)
      (fun known selected => inserted = known ∧ WorksOn call row known selected)
      (statement (Work.ask (StateStatement.commit session inserted
        (row.changesTo (call.assigned row)) (call.log row))))
      (fun _ _ _ => True) fun _ _ _ => True := by
    apply statement_triple
    apply Work.Triple.ask
    · rintro known selected ⟨rfl, works⟩
      exact ⟨rfl, call, located, allowed, row, works, rfl, rfl⟩
    · rintro known selected reply after - -
      cases reply <;> trivial
  exact Work.Triple.bind commits fun _ => Work.Triple.pure fun _ _ _ => trivial

/-- A call meets the contract of its session. -/
theorem ServiceCall.program_meets (located : calls[session]? = some call) :
    (call.program session).Meets (sessionContract calls session) (fun _ _ => True) none := by
  unfold ServiceCall.program
  split_ifs with refused
  · trivial
  · have meets := ServiceCall.statements_triple located (Bool.eq_false_iff.mpr refused) none none
      ⟨rfl, rfl⟩
    apply Program.Meets.bind
    refine meets.mono ?_
    rintro ⟨outcome, inserted⟩ selected -
    trivial

end Contract

section Alone

/-- The row which a call finds, or creates. -/
def ServiceCall.found (call : ServiceCall) (database : Database) : SystemState :=
  (database.systemState.get? SystemStateService.stateKey).getD call.firstRow

/-- The tables after a call on the row which it finds. -/
def ServiceCall.settled (call : ServiceCall) (database : Database) : Database where
  systemState := database.systemState.set SystemStateService.stateKey
    (call.assigned (call.found database))
  auditLogs := database.auditLogs ++ (call.log (call.found database)).toList

/-- A database on which nothing fails and nothing else works. -/
def quietContract : Contract StateReply Database where
  asks _ _ := True
  answers database op reply after := (reply, after) = stateDatabase none op database

variable {call : ServiceCall} {session : ℕ} {database : Database}

theorem ServiceCall.locateRow_alone :
    Work.Triple quietContract (fun inserted current => inserted = none ∧ current = database)
      (call.locateRow session)
      (fun row inserted current => current = database ∧ row = call.found database ∧
        WorksOn call row inserted (database.systemState.get? SystemStateService.stateKey))
      fun _ _ _ => False := by
  have selects : Work.Triple quietContract
      (fun inserted current => inserted = none ∧ current = database)
      (statement (Work.ask (StateStatement.select session)))
      (fun found inserted current => inserted = none ∧ current = database ∧
        found = database.systemState.get? SystemStateService.stateKey) fun _ _ _ => False := by
    apply statement_triple
    apply Work.Triple.ask
    · intros
      trivial
    · rintro inserted current reply after ⟨rfl, rfl⟩ answered
      cases answered
      exact ⟨rfl, rfl, rfl⟩
  refine Work.Triple.bind selects fun found => ?_
  cases found with
  | some row =>
    apply Work.Triple.pure
    rintro inserted current ⟨rfl, rfl, bound⟩
    refine ⟨rfl, ?_, .inl ⟨bound.symm, rfl⟩⟩
    rw [ServiceCall.found, ← bound]
    rfl
  | none =>
    have inserts : Work.Triple quietContract
        (fun inserted current => inserted = none ∧ current = database ∧
          none = database.systemState.get? SystemStateService.stateKey)
        (statement (Work.ask (StateStatement.insert session call.firstRow)))
        (fun _ _ current => current = database ∧
          none = database.systemState.get? SystemStateService.stateKey) fun _ _ _ => False := by
      apply statement_triple
      apply Work.Triple.ask
      · intros
        trivial
      · rintro inserted current reply after ⟨-, rfl, unbound⟩ answered
        simp only [quietContract, stateDatabase, ← unbound, Option.isSome_none] at answered
        cases answered
        exact ⟨rfl, unbound⟩
    refine Work.Triple.bind inserts fun _ => ?_
    have remembers : Work.Triple quietContract
        (fun _ current => current = database ∧
          none = database.systemState.get? SystemStateService.stateKey)
        (set (some call.firstRow) : StateSession PUnit)
        (fun _ inserted current => inserted = some call.firstRow ∧ current = database ∧
          none = database.systemState.get? SystemStateService.stateKey)
        fun _ _ _ => False := fun _ _ holds => ⟨rfl, holds⟩
    refine Work.Triple.bind remembers fun _ => Work.Triple.pure ?_
    rintro inserted current ⟨rfl, rfl, unbound⟩
    refine ⟨rfl, ?_, .inr ⟨unbound.symm, rfl, rfl⟩⟩
    rw [ServiceCall.found, ← unbound]
    rfl

/-- A commit on the row which is stored, or on an own one, stores what is assigned. -/
theorem ServiceCall.committed_found {inserted : Option SystemState}
    (works : WorksOn call (call.found database) inserted
      (database.systemState.get? SystemStateService.stateKey)) :
    database.committed inserted ((call.found database).changesTo
      (call.assigned (call.found database))) (call.log (call.found database)) =
        some (call.settled database) := by
  rcases works with ⟨bound, rfl⟩ | ⟨unbound, first, rfl⟩
  · unfold Database.committed
    rw [bound]
    dsimp only
    rw [ServiceCall.applyTo_changesTo]
    rfl
  · unfold Database.committed
    rw [unbound]
    dsimp only
    rw [ServiceCall.applyTo_changesTo]
    rfl

theorem ServiceCall.statements_alone :
    Work.Triple quietContract (fun inserted current => inserted = none ∧ current = database)
      (call.statements session)
      (fun snapshot _ current => snapshot = (call.assigned (call.found database)).snapshot ∧
        current = call.settled database) fun _ _ _ => False := by
  refine Work.Triple.bind ServiceCall.locateRow_alone fun row => ?_
  have reads : Work.Triple quietContract
      (fun inserted current => current = database ∧ row = call.found database ∧
        WorksOn call row inserted (database.systemState.get? SystemStateService.stateKey))
      (get : StateSession (Option SystemState))
      (fun known inserted current => current = database ∧ row = call.found database ∧
        WorksOn call row known (database.systemState.get? SystemStateService.stateKey))
      fun _ _ _ => False := Work.Triple.get fun _ _ holds => holds
  refine Work.Triple.bind reads fun inserted => ?_
  have commits : Work.Triple quietContract
      (fun _ current => current = database ∧ row = call.found database ∧
        WorksOn call row inserted (database.systemState.get? SystemStateService.stateKey))
      (statement (Work.ask (StateStatement.commit session inserted
        (row.changesTo (call.assigned row)) (call.log row))))
      (fun _ _ current => row = call.found database ∧ current = call.settled database)
      fun _ _ _ => False := by
    apply statement_triple
    apply Work.Triple.ask
    · intros
      trivial
    · rintro known current reply after ⟨rfl, rfl, works⟩ answered
      change (reply, after) = commitReply (Database.committed _ inserted _ _) none _ at answered
      rw [ServiceCall.committed_found works] at answered
      cases answered
      exact ⟨rfl, rfl⟩
  refine Work.Triple.bind commits fun _ => Work.Triple.pure ?_
  rintro known current ⟨rfl, rfl⟩
  exact ⟨rfl, rfl⟩

theorem SystemStateService.getOrCreateRow_alone (call : ServiceCall) (database : Database) :
    (getOrCreateRow call.settings call.newId {}).run database = (.ok (call.found database),
      { database with
        systemState := database.systemState.set stateKey (call.found database) }) := by
  unfold getOrCreateRow ServiceCall.found
  rw [Fallible.run_bind, Fallible.run_raiseIf_none]
  dsimp only
  rw [Fallible.run_bind, Fallible.run_get]
  dsimp only
  cases bound : database.systemState.get? stateKey with
  | none => rfl
  | some row =>
    rw [Option.getD_some, Dict.set_of_get? bound]
    rfl

theorem inSession_alone {α : Type} {statements : Fallible SQLAlchemyError Database α} {value : α}
    {database next : Database} (returned : statements.run database = (.ok value, next)) :
    (inSession {} statements).run database = (.ok value, next) := by
  apply Fallible.run_transaction_none
  rw [Fallible.run_bind, Fallible.run_raiseIf_none]
  exact returned

/-- A mutation which is alone. -/
theorem SystemStateService.mutateState_alone (call : ServiceCall) (database : Database)
    (tradingMode : Option TradingMode) (killSwitch : Option Bool) (reason : String)
    (assigns : { call.found database with
      tradingMode := tradingMode.getD (call.found database).tradingMode
      killSwitch := killSwitch.getD (call.found database).killSwitch
      reason } = call.assigned (call.found database))
    (logs : call.log (call.found database) =
      some (auditLog (call.found database) (call.assigned (call.found database)) reason)) :
    (mutateState call.settings call.newId {} tradingMode killSwitch reason).run database =
      (.ok (call.assigned (call.found database)).snapshot, call.settled database) := by
  apply Fallible.run_handle_ok
  apply inSession_alone
  unfold changeState
  rw [Fallible.run_bind, getOrCreateRow_alone]
  dsimp only
  rw [assigns, Fallible.run_bind, Fallible.run_modify]
  dsimp only
  rw [Dict.set_set, ServiceCall.settled, logs]
  rfl

/-- A serial call on a database which answers reports the row with what it assigns,
and leaves the tables with this row. -/
theorem ServiceCall.perform_alone (call : ServiceCall) (faultless : call.faults = {})
    (allowed : call.refuses = false) (database : Database) :
    call.perform.run database =
      (.ok (call.assigned (call.found database)).snapshot, call.settled database) := by
  unfold ServiceCall.perform
  rw [faultless]
  cases asked : call.operation with
  | getState =>
    have located := inSession_alone (SystemStateService.getOrCreateRow_alone call database)
    have assigns : call.assigned (call.found database) = call.found database := by
      rw [ServiceCall.assigned, asked]
    have logs : call.log (call.found database) = none := by rw [ServiceCall.log, asked]
    apply Fallible.run_handle_ok
    unfold SystemStateService.readState
    rw [Fallible.run_bind, located]
    dsimp only
    rw [Fallible.run_bind, Fallible.run_raiseIf_none, ServiceCall.settled, assigns, logs]
    simp
  | enableKillSwitch =>
    apply SystemStateService.mutateState_alone
    · rw [ServiceCall.assigned, asked]
      rfl
    · rw [ServiceCall.log, ServiceCall.assigned, asked]
  | disableKillSwitch =>
    apply SystemStateService.mutateState_alone
    · rw [ServiceCall.assigned, asked]
      rfl
    · rw [ServiceCall.log, ServiceCall.assigned, asked]
  | setMode mode =>
    have permitted : ¬(mode.isLiveCapable ∧ call.settings.liveModeSafetyErrors ≠ []) := by
      rw [ServiceCall.refuses, asked] at allowed
      simpa using allowed
    dsimp only
    rw [SystemStateService.setMode, if_neg permitted]
    apply SystemStateService.mutateState_alone
    · rw [ServiceCall.assigned, asked]
      rfl
    · rw [ServiceCall.log, ServiceCall.assigned, asked]

/-- A service which is alone with its database does what the serial service does. -/
theorem ServiceCall.program_run_alone (call : ServiceCall) (faultless : call.faults = {})
    (session : ℕ) (database : Database) :
    ((call.program session).run (stateDatabase none) database).result = call.reported database ∧
      ((call.program session).run (stateDatabase none) database).shared = call.next database := by
  unfold ServiceCall.reported ServiceCall.next
  cases refused : call.refuses with
  | true =>
    unfold ServiceCall.program
    rw [if_pos refused]
    unfold ServiceCall.refuses at refused
    cases asked : call.operation with
    | setMode mode =>
      rw [asked] at refused
      have unsafeMode : mode.isLiveCapable ∧ call.settings.liveModeSafetyErrors ≠ [] := by
        simpa using refused
      unfold ServiceCall.perform
      rw [asked]
      dsimp only
      rw [SystemStateService.setMode, if_pos unsafeMode]
      exact ⟨rfl, rfl⟩
    | _ =>
      rw [asked] at refused
      cases refused
  | false =>
    have meets : (call.program session).Meets quietContract (fun result current =>
        result = .ok (call.assigned (call.found database)).snapshot ∧
          current = call.settled database) database := by
      unfold ServiceCall.program
      rw [if_neg (Bool.eq_false_iff.mp refused)]
      apply Program.Meets.bind
      refine (ServiceCall.statements_alone none database ⟨rfl, rfl⟩).mono ?_
      rintro ⟨outcome, inserted⟩ current reached
      cases outcome with
      | error raised => exact reached.elim
      | ok snapshot =>
        obtain ⟨rfl, rfl⟩ := reached
        exact ⟨rfl, rfl⟩
    rw [call.perform_alone faultless refused]
    exact meets.run fun _ _ => rfl

end Alone

end AlphaAgent.Services
