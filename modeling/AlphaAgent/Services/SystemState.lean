import AlphaAgent.Core.Json
import AlphaAgent.Foundation.Dict
import AlphaAgent.Foundation.Transaction
import AlphaAgent.Risk.RiskEngine

/-!
# The system state service

`SystemStateService` over the two tables it uses. Every operation runs one
transaction; the database can fail at each of its calls, and a failed commit can
have taken effect. An instance is its settings, so an operation under changed
settings is an operation of a restarted service.
-/

namespace AlphaAgent.Services

open Foundation

/-- The settings with the permissions of the agentic review. -/
structure ServiceSettings extends Settings where
  agentCanForceTrade : Bool := false
  agentCanIncreaseRisk : Bool := false
  agentCanChangeStrategyLive : Bool := false

/-- The settings of an empty environment. -/
def ServiceSettings.default : ServiceSettings := { Settings.default with }

def ServiceSettings.liveModeSafetyErrors (settings : ServiceSettings) : List String :=
  Risk.rejectIf (!settings.tradingMode.isLiveCapable) "trading_mode_is_not_live_capable" ++
  Risk.rejectIf (!settings.liveTradingEnabled) "live_trading_enabled_false" ++
  Risk.rejectIf (!settings.liveOrdersEnabled) "live_orders_enabled_false" ++
  Risk.rejectIf settings.killSwitch "kill_switch_enabled" ++
  Risk.rejectIf settings.agentCanForceTrade "agent_can_force_trade_true" ++
  Risk.rejectIf settings.agentCanIncreaseRisk "agent_can_increase_risk_true" ++
  Risk.rejectIf settings.agentCanChangeStrategyLive "agent_can_change_strategy_live_true" ++
  Risk.rejectIf (!settings.realProviderRequired) "real_provider_required_false" ++
  Risk.rejectIf (!settings.brokerReconciliationRequired) "broker_reconciliation_required_false" ++
  Risk.rejectIf (!settings.riskEngineRequired) "risk_engine_required_false" ++
  ((Risk.blockedFlags settings.toSettings).filter Prod.snd).map fun flag => flag.1 ++ "_true"

structure SQLAlchemyError where
  message : String
deriving DecidableEq

/-- A row of `system_state`, which is keyed by its `key`. -/
structure SystemState where
  id : String
  tradingMode : TradingMode
  liveTradingEnabled : Bool
  killSwitch : Bool
  reason : String
deriving DecidableEq

/-- A row of `audit_logs`. -/
structure AuditLog where
  actor : String
  action : String
  entityType : String
  entityId : String
  before : Mapping
  after : Mapping
  message : String

structure Database where
  systemState : Dict String SystemState
  auditLogs : List AuditLog

/-- Which calls of the session raise during one operation, and what. The row is
read again after the commit where the session expires it. -/
structure DatabaseFaults where
  connect : Option SQLAlchemyError := none
  select : Option SQLAlchemyError := none
  flush : Option SQLAlchemyError := none
  commit : Option (CommitFault SQLAlchemyError) := none
  refresh : Option SQLAlchemyError := none
deriving DecidableEq

/-- The commit takes effect and is reported as a failure. -/
def DatabaseFaults.unreported (faults : DatabaseFaults) : Bool :=
  faults.commit.any CommitFault.committed

/-- The database answers a read. -/
def DatabaseFaults.answered (faults : DatabaseFaults) : Bool :=
  faults.connect.isNone && faults.select.isNone && faults.commit.isNone && faults.refresh.isNone

/-- `with self.session_factory() as session`, up to its commit. -/
def inSession {α : Type} (faults : DatabaseFaults)
    (statements : Fallible SQLAlchemyError Database α) : Fallible SQLAlchemyError Database α :=
  Fallible.transaction faults.commit do
    Fallible.raiseIf faults.connect
    statements

/-- `asdict(snapshot)`. -/
def asdict (snapshot : SystemStateSnapshot) : Mapping :=
  [("trading_mode", .text snapshot.tradingMode.value),
    ("live_trading_enabled", .bool snapshot.liveTradingEnabled),
    ("kill_switch", .bool snapshot.killSwitch),
    ("compliance_status", .text "NOT_APPROVED")]

/-- `_snapshot_from_row`. -/
def SystemState.snapshot (row : SystemState) : SystemStateSnapshot where
  tradingMode := row.tradingMode
  liveTradingEnabled := row.liveTradingEnabled
  killSwitch := row.killSwitch

/-- The log of a change of a row. -/
def auditLog (row changed : SystemState) (reason : String) : AuditLog where
  actor := "system_state_service"
  action := reason
  entityType := "system_state"
  entityId := row.id
  before := asdict row.snapshot
  after := asdict changed.snapshot
  message := "System state changed."

namespace SystemStateService

def stateKey : String := "global"

/-- The row which a service writes where there is none. -/
def initialRow (settings : ServiceSettings) (newId : String) : SystemState where
  id := newId
  tradingMode := settings.tradingMode
  liveTradingEnabled := settings.liveTradingEnabled
  killSwitch := settings.killSwitch
  reason := "initialized_from_environment"

variable (settings : ServiceSettings) (newId : String) (faults : DatabaseFaults)

/-- `_get_or_create_row`. -/
def getOrCreateRow : Fallible SQLAlchemyError Database SystemState := do
  Fallible.raiseIf faults.select
  let database ← get
  match database.systemState.get? stateKey with
  | some row => return row
  | none =>
    let row := initialRow settings newId
    Fallible.raiseIf faults.flush
    modify fun database =>
      { database with systemState := database.systemState.set stateKey row }
    return row

/-- `_database_unavailable_snapshot`. -/
def databaseUnavailableSnapshot : SystemStateSnapshot where
  tradingMode := settings.tradingMode
  liveTradingEnabled := false
  killSwitch := true

/-- The part of `get_state` which uses the database. -/
def readState : Fallible SQLAlchemyError Database SystemStateSnapshot := do
  let row ← inSession faults (getOrCreateRow settings newId faults)
  Fallible.raiseIf faults.refresh
  return row.snapshot

def getState : Fallible RaisedError Database SystemStateSnapshot :=
  Fallible.handle (readState settings newId faults) fun _ =>
    return databaseUnavailableSnapshot settings

/-- The statements of `_mutate_state` in its session. -/
def changeState (tradingMode : Option TradingMode) (killSwitch : Option Bool) (reason : String) :
    Fallible SQLAlchemyError Database SystemStateSnapshot := do
  let row ← getOrCreateRow settings newId faults
  let changed : SystemState :=
    { row with
      tradingMode := tradingMode.getD row.tradingMode
      killSwitch := killSwitch.getD row.killSwitch
      reason }
  modify fun database =>
    { systemState := database.systemState.set stateKey changed
      auditLogs := database.auditLogs ++ [auditLog row changed reason] }
  return changed.snapshot

/-- `_mutate_state`. -/
def mutateState (tradingMode : Option TradingMode) (killSwitch : Option Bool) (reason : String) :
    Fallible RaisedError Database SystemStateSnapshot :=
  Fallible.handle
    (inSession faults (changeState settings newId faults tradingMode killSwitch reason))
    fun _ => throw (.riskRejected "system_state_database_unavailable")

def enableKillSwitch : Fallible RaisedError Database SystemStateSnapshot :=
  mutateState settings newId faults none (some true) "kill_switch_enabled"

def disableKillSwitch : Fallible RaisedError Database SystemStateSnapshot :=
  mutateState settings newId faults none (some false) "kill_switch_disabled"

def setMode (mode : TradingMode) : Fallible RaisedError Database SystemStateSnapshot :=
  if mode.isLiveCapable ∧ settings.liveModeSafetyErrors ≠ [] then
    throw (.riskRejected "live_mode_safety_flags_not_satisfied")
  else mutateState settings newId faults (some mode) none ("mode_changed:" ++ mode.value)

end SystemStateService

/-- What a session does: all of its statements take effect and it returns; it raises
and nothing takes effect; or it raises although they did. -/
theorem inSession_cases {α : Type} (faults : DatabaseFaults)
    (statements : Fallible SQLAlchemyError Database α) (database : Database) :
    (∃ value next, faults.connect = none ∧ faults.commit = none ∧
      statements.run database = (.ok value, next) ∧
      (inSession faults statements).run database = (.ok value, next)) ∨
    (∃ raised, (inSession faults statements).run database = (.error raised, database)) ∨
    (∃ value next raised, faults.unreported = true ∧
      statements.run database = (.ok value, next) ∧
      (inSession faults statements).run database = (.error raised, next)) := by
  have connected : ∀ {value next}, (do
      Fallible.raiseIf faults.connect
      statements).run database = (.ok value, next) →
        faults.connect = none ∧ statements.run database = (.ok value, next) := by
    intro value next returned
    obtain ⟨_, _, reached, continued⟩ := Fallible.run_bind_ok _ returned
    obtain ⟨unbroken, rfl⟩ := Fallible.raiseIf_ok reached
    exact ⟨unbroken, continued⟩
  rcases Fallible.transaction_cases faults.commit (do
      Fallible.raiseIf faults.connect
      statements) database with
    ⟨value, next, unfailed, ran, returned⟩ | failed |
      ⟨value, next, fault, found, committed, ran, failed⟩
  · exact .inl ⟨value, next, (connected ran).1, unfailed, (connected ran).2, returned⟩
  · exact .inr (.inl failed)
  · refine .inr (.inr ⟨value, next, fault.raised, ?_, (connected ran).2, failed⟩)
    rw [DatabaseFaults.unreported, found]
    exact committed

/-- The state which a service finds, or would initialize. -/
def Database.state (database : Database) (settings : ServiceSettings) : SystemStateSnapshot :=
  match database.systemState.get? SystemStateService.stateKey with
  | some row => row.snapshot
  | none => .fromSettings settings.toSettings

/-- A stored row is the state, whatever the settings. -/
theorem Database.state_of_stored {database : Database} {row : SystemState}
    (stored : database.systemState.get? SystemStateService.stateKey = some row)
    (settings : ServiceSettings) : database.state settings = row.snapshot := by
  unfold state
  rw [stored]

theorem Database.state_of_missing {database : Database}
    (missing : database.systemState.get? SystemStateService.stateKey = none)
    (settings : ServiceSettings) :
    database.state settings = .fromSettings settings.toSettings := by
  unfold state
  rw [missing]

/-- A snapshot with another mode, another kill switch, or both. -/
def changedSnapshot (tradingMode : Option TradingMode) (killSwitch : Option Bool)
    (snapshot : SystemStateSnapshot) : SystemStateSnapshot :=
  { snapshot with
    tradingMode := tradingMode.getD snapshot.tradingMode
    killSwitch := killSwitch.getD snapshot.killSwitch }

/-- The next database holds the state `after`, and exactly one audit log more,
from the previous state to this one. -/
structure Mutated (settings : ServiceSettings) (database next : Database)
    (after : SystemStateSnapshot) : Prop where
  stored : ∃ row, next.systemState.get? SystemStateService.stateKey = some row ∧
    row.snapshot = after
  logged : ∃ entry, next.auditLogs = database.auditLogs ++ [entry] ∧
    entry.before = asdict (database.state settings) ∧ entry.after = asdict after

/-- After a mutation every service finds the new state. -/
theorem Mutated.state {settings : ServiceSettings} {database next : Database}
    {after : SystemStateSnapshot} (mutated : Mutated settings database next after)
    (other : ServiceSettings) : next.state other = after := by
  obtain ⟨row, stored, same⟩ := mutated.stored
  rw [Database.state_of_stored stored, same]

/-- The database is unchanged, or has the initial row of a service where there was none. -/
def Initialized (settings : ServiceSettings) (database next : Database) : Prop :=
  next = database ∨ ∃ newId, database.systemState.get? SystemStateService.stateKey = none ∧
    next = { database with
      systemState := database.systemState.set SystemStateService.stateKey
        (SystemStateService.initialRow settings newId) }

namespace Initialized

variable {settings : ServiceSettings} {database next : Database}
  (initialized : Initialized settings database next)

include initialized

theorem auditLogs : next.auditLogs = database.auditLogs := by
  rcases initialized with rfl | ⟨newId, missing, rfl⟩ <;> rfl

theorem state : next.state settings = database.state settings := by
  rcases initialized with rfl | ⟨newId, missing, rfl⟩
  · rfl
  · rw [Database.state_of_missing missing, Database.state_of_stored (Dict.get?_set_self _ _ _)]
    rfl

/-- A stored row stays. -/
theorem stored {row : SystemState}
    (stored : database.systemState.get? SystemStateService.stateKey = some row) :
    next = database := by
  rcases initialized with same | ⟨newId, missing, -⟩
  · exact same
  · rw [stored] at missing
    cases missing

end Initialized

namespace SystemStateService

variable {settings : ServiceSettings} {newId : String} {faults : DatabaseFaults}
  {database next : Database} {row : SystemState}

/-- What `_get_or_create_row` returns is stored already, or is the initial row, which is stored
then. -/
theorem getOrCreateRow_ok
    (returned : (getOrCreateRow settings newId faults).run database = (.ok row, next)) :
    faults.select = none ∧
      ((database.systemState.get? stateKey = some row ∧ next = database) ∨
        (database.systemState.get? stateKey = none ∧ row = initialRow settings newId ∧
          next = { database with systemState := database.systemState.set stateKey row })) := by
  unfold getOrCreateRow at returned
  obtain ⟨_, _, selected, continued⟩ := Fallible.run_bind_ok _ returned
  obtain ⟨unbroken, rfl⟩ := Fallible.raiseIf_ok selected
  refine ⟨unbroken, ?_⟩
  rw [Fallible.run_bind, Fallible.run_get] at continued
  dsimp only at continued
  cases found : database.systemState.get? stateKey with
  | some stored =>
    rw [found, Fallible.run_pure] at continued
    obtain ⟨rowEq, nextEq⟩ := Prod.mk.inj continued
    exact .inl ⟨congrArg some (Except.ok.inj rowEq), nextEq.symm⟩
  | none =>
    rw [found] at continued
    obtain ⟨_, _, flushed, created⟩ := Fallible.run_bind_ok _ continued
    obtain ⟨-, rfl⟩ := Fallible.raiseIf_ok flushed
    rw [Fallible.run_bind, Fallible.run_modify] at created
    obtain ⟨rowEq, nextEq⟩ := Prod.mk.inj created
    have initial : initialRow settings newId = row := Except.ok.inj rowEq
    subst initial
    exact .inr ⟨rfl, rfl, nextEq.symm⟩

theorem getOrCreateRow_initialized
    (returned : (getOrCreateRow settings newId faults).run database = (.ok row, next)) :
    Initialized settings database next := by
  rcases (getOrCreateRow_ok returned).2 with ⟨-, rfl⟩ | ⟨missing, rfl, rfl⟩
  · exact .inl rfl
  · exact .inr ⟨newId, missing, rfl⟩

/-- The row is the state which the service finds, and is stored; no log is written. -/
theorem getOrCreateRow_state
    (returned : (getOrCreateRow settings newId faults).run database = (.ok row, next)) :
    row.snapshot = database.state settings ∧ next.systemState.get? stateKey = some row ∧
      next.auditLogs = database.auditLogs := by
  rcases (getOrCreateRow_ok returned).2 with ⟨stored, rfl⟩ | ⟨missing, rfl, rfl⟩
  · exact ⟨(Database.state_of_stored stored settings).symm, stored, rfl⟩
  · exact ⟨(Database.state_of_missing missing settings).symm, Dict.get?_set_self _ _ _, rfl⟩

/-- The transaction of a mutation, when it returns. -/
theorem changeState_ok {tradingMode : Option TradingMode} {killSwitch : Option Bool}
    {reason : String} {after : SystemStateSnapshot}
    (returned : (changeState settings newId faults tradingMode killSwitch reason).run database =
      (.ok after, next)) :
    after = changedSnapshot tradingMode killSwitch (database.state settings) ∧
      Mutated settings database next after := by
  unfold changeState at returned
  obtain ⟨row, _, located, changed⟩ := Fallible.run_bind_ok _ returned
  obtain ⟨same, -, unlogged⟩ := getOrCreateRow_state located
  rw [Fallible.run_bind, Fallible.run_modify] at changed
  obtain ⟨afterEq, rfl⟩ := Prod.mk.inj changed
  rw [← Except.ok.inj afterEq, ← same]
  refine ⟨rfl, ⟨_, Dict.get?_set_self _ _ _, rfl⟩, auditLog row _ reason, ?_, ?_, rfl⟩
  · exact congrArg (· ++ _) unlogged
  · exact congrArg asdict same

/-- What a mutation does: it succeeds; it fails and changes nothing; or its commit
takes effect and is reported as a failure. -/
theorem mutateState_cases (tradingMode : Option TradingMode) (killSwitch : Option Bool)
    (reason : String) (database : Database) :
    (∃ next, (mutateState settings newId faults tradingMode killSwitch reason).run database =
        (.ok (changedSnapshot tradingMode killSwitch (database.state settings)), next) ∧
      Mutated settings database next
        (changedSnapshot tradingMode killSwitch (database.state settings))) ∨
    (mutateState settings newId faults tradingMode killSwitch reason).run database =
      (.error (.riskRejected "system_state_database_unavailable"), database) ∨
    (∃ next, (mutateState settings newId faults tradingMode killSwitch reason).run database =
        (.error (.riskRejected "system_state_database_unavailable"), next) ∧
      faults.unreported = true ∧
      Mutated settings database next
        (changedSnapshot tradingMode killSwitch (database.state settings))) := by
  unfold mutateState
  rcases inSession_cases faults
    (changeState settings newId faults tradingMode killSwitch reason) database with
    ⟨after, next, -, -, changed, returned⟩ | ⟨raised, failed⟩ |
      ⟨after, next, raised, unreported, changed, failed⟩
  · obtain ⟨rfl, mutated⟩ := changeState_ok changed
    exact .inl ⟨next, Fallible.run_handle_ok returned, mutated⟩
  · exact .inr (.inl (Fallible.run_handle_error failed))
  · obtain ⟨rfl, mutated⟩ := changeState_ok changed
    exact .inr (.inr ⟨next, Fallible.run_handle_error failed, unreported, mutated⟩)

/-- `get_state` always reports: the state, where the database answers, or else the
snapshot of an unavailable database. -/
theorem getState_cases (settings : ServiceSettings) (newId : String) (faults : DatabaseFaults)
    (database : Database) :
    ∃ snapshot next, (getState settings newId faults).run database = (.ok snapshot, next) ∧
      Initialized settings database next ∧
      (faults.answered = true ∧ snapshot = database.state settings ∨
        snapshot = databaseUnavailableSnapshot settings) := by
  have unread : ∀ {raised next}, (inSession faults
      (getOrCreateRow settings newId faults)).run database = (.error raised, next) →
      (getState settings newId faults).run database =
        (.ok (databaseUnavailableSnapshot settings), next) := by
    intro raised next failed
    have unanswered : (readState settings newId faults).run database = (.error raised, next) := by
      unfold readState
      rw [Fallible.run_bind, failed]
    exact Fallible.run_handle_error unanswered
  rcases inSession_cases faults (getOrCreateRow settings newId faults) database with
    ⟨row, next, connected, committed, found, returned⟩ | ⟨raised, failed⟩ |
      ⟨row, next, raised, -, found, failed⟩
  · have kept := getOrCreateRow_initialized found
    cases refreshed : faults.refresh with
    | none =>
      refine ⟨row.snapshot, next, Fallible.run_handle_ok ?_, kept,
        .inl ⟨?_, (getOrCreateRow_state found).1⟩⟩
      · unfold readState
        rw [Fallible.run_bind, returned, refreshed]
        rfl
      · rw [DatabaseFaults.answered, connected, (getOrCreateRow_ok found).1, committed, refreshed]
        rfl
    | some raised =>
      refine ⟨databaseUnavailableSnapshot settings, next, ?_, kept, .inr rfl⟩
      have expired : (readState settings newId faults).run database = (.error raised, next) := by
        unfold readState
        rw [Fallible.run_bind, returned, refreshed]
        rfl
      exact Fallible.run_handle_error expired
  · exact ⟨_, database, unread failed, .inl rfl, .inr rfl⟩
  · exact ⟨_, next, unread failed, getOrCreateRow_initialized found, .inr rfl⟩

end SystemStateService
end AlphaAgent.Services
