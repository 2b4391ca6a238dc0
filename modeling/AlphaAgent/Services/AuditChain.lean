import AlphaAgent.Foundation.Calls
import AlphaAgent.Services.SystemState
import Mathlib.Data.List.Chain

/-!
# The audit chain

Serial runs of service calls, each under the settings of its own instance and
with database failures of its own. Every call reads, mutates the state together
with its log, or changes nothing. `ServiceCall.performed` says this once; the
audit chain and the kill switch follow from it.
-/

namespace AlphaAgent.Services

open Foundation

inductive ServiceOperation where
  | getState
  | enableKillSwitch
  | disableKillSwitch
  | setMode (mode : TradingMode)
deriving DecidableEq

/-- The state which an operation asks for. -/
def ServiceOperation.requested (snapshot : SystemStateSnapshot) :
    ServiceOperation → SystemStateSnapshot
  | .getState => snapshot
  | .enableKillSwitch => { snapshot with killSwitch := true }
  | .disableKillSwitch => { snapshot with killSwitch := false }
  | .setMode mode => { snapshot with tradingMode := mode }

/-- One call of a service: the settings of the instance, the id a new row would
have, and what fails. -/
structure ServiceCall where
  settings : ServiceSettings
  operation : ServiceOperation
  newId : String := "row"
  faults : DatabaseFaults := {}

namespace ServiceCall

def perform (call : ServiceCall) : Fallible RaisedError Database SystemStateSnapshot :=
  match call.operation with
  | .getState => SystemStateService.getState call.settings call.newId call.faults
  | .enableKillSwitch => SystemStateService.enableKillSwitch call.settings call.newId call.faults
  | .disableKillSwitch => SystemStateService.disableKillSwitch call.settings call.newId call.faults
  | .setMode mode => SystemStateService.setMode call.settings call.newId call.faults mode

/-- What a call returns or raises. -/
def reported (call : ServiceCall) (database : Database) : Except RaisedError SystemStateSnapshot :=
  (call.perform.run database).1

/-- The database after a call. -/
def next (database : Database) (call : ServiceCall) : Database := (call.perform.run database).2

end ServiceCall

/-- What a call can do: read the state; mutate it; refuse and change nothing; or
mutate it in a commit which is reported as a failure. -/
inductive Performed (call : ServiceCall) (database : Database) : Prop where
  | read (snapshot : SystemStateSnapshot) (reads : call.operation = .getState)
      (reported : call.reported database = .ok snapshot)
      (initialized : Initialized call.settings database (call.next database))
      (source : call.faults.answered = true ∧ snapshot = database.state call.settings ∨
        snapshot = SystemStateService.databaseUnavailableSnapshot call.settings)
  | mutated (mutates : call.operation ≠ .getState)
      (reported : call.reported database =
        .ok (call.operation.requested (database.state call.settings)))
      (mutated : Mutated call.settings database (call.next database)
        (call.operation.requested (database.state call.settings)))
  | refused (raised : RaisedError) (mutates : call.operation ≠ .getState)
      (reported : call.reported database = .error raised)
      (unchanged : call.next database = database)
  | unreported (raised : RaisedError) (mutates : call.operation ≠ .getState)
      (reported : call.reported database = .error raised)
      (unreported : call.faults.unreported = true)
      (mutated : Mutated call.settings database (call.next database)
        (call.operation.requested (database.state call.settings)))

/-- A call which runs `_mutate_state` for the state it asks for. -/
theorem Performed.of_mutateState {call : ServiceCall} {database : Database}
    {tradingMode : Option TradingMode} {killSwitch : Option Bool} {reason : String}
    (mutates : call.operation ≠ .getState)
    (runs : call.perform = SystemStateService.mutateState call.settings call.newId call.faults
      tradingMode killSwitch reason)
    (asks : changedSnapshot tradingMode killSwitch (database.state call.settings) =
      call.operation.requested (database.state call.settings)) : Performed call database := by
  rcases SystemStateService.mutateState_cases tradingMode killSwitch reason database with
    ⟨next, ran, mutated⟩ | ran | ⟨next, ran, unreported, mutated⟩
  all_goals rw [← runs] at ran
  · rw [asks] at ran mutated
    refine .mutated mutates (congrArg Prod.fst ran) ?_
    rw [ServiceCall.next, ran]
    exact mutated
  · exact .refused _ mutates (congrArg Prod.fst ran) (congrArg Prod.snd ran)
  · rw [asks] at mutated
    refine .unreported _ mutates (congrArg Prod.fst ran) unreported ?_
    rw [ServiceCall.next, ran]
    exact mutated

theorem ServiceCall.performed (call : ServiceCall) (database : Database) :
    Performed call database := by
  obtain ⟨settings, operation, newId, faults⟩ := call
  cases operation with
  | getState =>
    obtain ⟨snapshot, next, ran, initialized, source⟩ :=
      SystemStateService.getState_cases settings newId faults database
    have moved : ServiceCall.next database ⟨settings, .getState, newId, faults⟩ = next :=
      congrArg Prod.snd ran
    refine .read snapshot rfl (congrArg Prod.fst ran) ?_ source
    rw [moved]
    exact initialized
  | enableKillSwitch => exact .of_mutateState (by simp) rfl rfl
  | disableKillSwitch => exact .of_mutateState (by simp) rfl rfl
  | setMode mode =>
    by_cases unsafeMode : mode.isLiveCapable ∧ settings.liveModeSafetyErrors ≠ []
    · have ran : ServiceCall.perform ⟨settings, .setMode mode, newId, faults⟩ =
          throw (.riskRejected "live_mode_safety_flags_not_satisfied") := if_pos unsafeMode
      refine .refused (.riskRejected "live_mode_safety_flags_not_satisfied") (by simp) ?_ ?_
      · rw [ServiceCall.reported, ran]
        rfl
      · rw [ServiceCall.next, ran]
        rfl
    · exact .of_mutateState (by simp) (if_neg unsafeMode) rfl

/-- What a call leaves in the database, whatever it reports. -/
theorem ServiceCall.effect (call : ServiceCall) (database : Database) :
    Mutated call.settings database (call.next database)
        (call.operation.requested (database.state call.settings)) ∨
      Initialized call.settings database (call.next database) := by
  cases call.performed database with
  | read _ _ _ initialized _ => exact .inr initialized
  | mutated _ _ mutated => exact .inl mutated
  | refused _ _ _ unchanged => exact .inr (.inl unchanged)
  | unreported _ _ _ _ mutated => exact .inl mutated

/-- What one call does to the state and to the log. A mutation which succeeds
writes both; one which fails writes neither, or both if its commit took effect;
a read writes no log. -/
structure Audited (database : Database) (call : ServiceCall) : Prop where
  succeeded : ∀ after, call.operation ≠ .getState → call.reported database = .ok after →
    Mutated call.settings database (call.next database) after
  failed : ∀ raised, call.reported database = .error raised →
    call.next database = database ∨
      call.faults.unreported = true ∧
        ∃ after, Mutated call.settings database (call.next database) after
  reads : call.operation = .getState →
    (call.next database).auditLogs = database.auditLogs ∧
      (call.next database).state call.settings = database.state call.settings
  setMode : ∀ mode, call.operation = .setMode mode →
    ((call.next database).state call.settings).killSwitch =
        (database.state call.settings).killSwitch ∧
      ((call.next database).state call.settings).liveTradingEnabled =
        (database.state call.settings).liveTradingEnabled

theorem ServiceCall.audited (call : ServiceCall) (database : Database) : Audited database call := by
  cases call.performed database with
  | read snapshot reads reported initialized source =>
    constructor
    · exact fun _ mutates => absurd reads mutates
    · intro raised failed
      rw [reported] at failed
      cases failed
    · exact fun _ => ⟨initialized.auditLogs, initialized.state⟩
    · intro mode sets
      rw [reads] at sets
      cases sets
  | mutated mutates reported mutated =>
    constructor
    · intro after _ succeeded
      rw [reported] at succeeded
      rw [← Except.ok.inj succeeded]
      exact mutated
    · intro raised failed
      rw [reported] at failed
      cases failed
    · exact fun reads => absurd reads mutates
    · intro mode sets
      rw [mutated.state, sets]
      exact ⟨rfl, rfl⟩
  | refused raised mutates reported unchanged =>
    constructor
    · intro after _ succeeded
      rw [reported] at succeeded
      cases succeeded
    · exact fun _ _ => .inl unchanged
    · exact fun reads => absurd reads mutates
    · intro mode sets
      rw [unchanged]
      exact ⟨rfl, rfl⟩
  | unreported raised mutates reported unreported mutated =>
    constructor
    · intro after _ succeeded
      rw [reported] at succeeded
      cases succeeded
    · exact fun _ _ => .inr ⟨unreported, _, mutated⟩
    · exact fun reads => absurd reads mutates
    · intro mode sets
      rw [mutated.state, sets]
      exact ⟨rfl, rfl⟩

section Chain

/-- The log of the last mutation leads to the stored row. -/
def Database.EndsIn (database : Database) (entry : AuditLog) : Prop :=
  ∃ row, database.systemState.get? SystemStateService.stateKey = some row ∧
    entry.after = asdict row.snapshot

/-- The logs written between two databases: each starts in the state in which the
one before it ended, and the last ends in the stored state. -/
def Chained (database final : Database) : Prop :=
  ∃ entries, final.auditLogs = database.auditLogs ++ entries ∧
    entries.IsChain (fun earlier later => later.before = earlier.after) ∧
    ∀ entry ∈ entries.getLast?, final.EndsIn entry

variable {start database next : Database} {settings : ServiceSettings}

/-- Without a new log the chain stays as it is. -/
theorem Chained.initialized (chained : Chained start database)
    (initialized : Initialized settings database next) : Chained start next := by
  obtain ⟨entries, appended, linked, ends⟩ := chained
  refine ⟨entries, initialized.auditLogs.trans appended, linked, ?_⟩
  intro entry last
  obtain ⟨row, stored, after⟩ := ends entry last
  rw [initialized.stored stored]
  exact ⟨row, stored, after⟩

/-- A mutation adds one link. -/
theorem Chained.mutated {after : SystemStateSnapshot} (chained : Chained start database)
    (mutated : Mutated settings database next after) : Chained start next := by
  obtain ⟨entries, appended, linked, ends⟩ := chained
  obtain ⟨row, stored, same⟩ := mutated.stored
  obtain ⟨entry, logged, before, ended⟩ := mutated.logged
  refine ⟨entries ++ [entry], ?_, ?_, ?_⟩
  · rw [logged, appended, List.append_assoc]
  · refine linked.append (List.isChain_singleton entry) ?_
    intro previous last first listed
    obtain ⟨found, located, reached⟩ := ends previous last
    rw [List.head?_cons, Option.mem_some_iff] at listed
    rw [← listed, before, Database.state_of_stored located, reached]
  · intro last listed
    rw [List.getLast?_concat, Option.mem_some_iff] at listed
    exact ⟨row, stored, by rw [← listed, ended, same]⟩

theorem Chained.step (chained : Chained start database) (call : ServiceCall) :
    Chained start (call.next database) := by
  rcases call.effect database with mutated | initialized
  · exact chained.mutated mutated
  · exact chained.initialized initialized

theorem Chained.run (chained : Chained start database) (calls : List ServiceCall) :
    Chained start (calls.foldl ServiceCall.next database) := by
  induction calls generalizing database with
  | nil => exact chained
  | cons call rest ih => exact ih (chained.step call)

end Chain

section KillSwitch

/-- The call mutates the state and the log, whatever it reports. -/
def TakesEffect (database : Database) (call : ServiceCall) : Prop :=
  ∃ after, Mutated call.settings database (call.next database) after

/-- A `get_state` call reports the kill switch on. -/
def ReportsOn (database : Database) (call : ServiceCall) : Prop :=
  call.operation = .getState →
    ∃ snapshot, call.reported database = .ok snapshot ∧ snapshot.killSwitch = true

/-- The stored kill switch is on. -/
def KillSwitchOn (database : Database) : Prop :=
  ∃ row, database.systemState.get? SystemStateService.stateKey = some row ∧ row.killSwitch = true

variable {database : Database} {call : ServiceCall}

theorem Mutated.killSwitchOn {settings : ServiceSettings} {next : Database}
    {after : SystemStateSnapshot} (mutated : Mutated settings database next after)
    (enabled : after.killSwitch = true) : KillSwitchOn next := by
  obtain ⟨row, stored, same⟩ := mutated.stored
  refine ⟨row, stored, ?_⟩
  rw [← same] at enabled
  exact enabled

theorem KillSwitchOn.state (switchedOn : KillSwitchOn database) (settings : ServiceSettings) :
    (database.state settings).killSwitch = true := by
  obtain ⟨row, stored, enabled⟩ := switchedOn
  rw [Database.state_of_stored stored]
  exact enabled

/-- A read of a database whose kill switch is on reports it on, also where the
database is unavailable. -/
theorem KillSwitchOn.reportsOn (switchedOn : KillSwitchOn database) (call : ServiceCall) :
    ReportsOn database call := by
  intro reads
  cases call.performed database with
  | read snapshot _ reported _ source =>
    refine ⟨snapshot, reported, ?_⟩
    rcases source with ⟨-, stored⟩ | unavailable
    · rw [stored]
      exact switchedOn.state call.settings
    · rw [unavailable]
      rfl
  | mutated mutates _ _ => exact absurd reads mutates
  | refused _ mutates _ _ => exact absurd reads mutates
  | unreported _ mutates _ _ _ => exact absurd reads mutates

/-- An operation other than `disable_kill_switch` asks for a switch which is on to stay on. -/
theorem ServiceOperation.requested_killSwitch {operation : ServiceOperation}
    {snapshot : SystemStateSnapshot} (kept : operation ≠ .disableKillSwitch)
    (enabled : snapshot.killSwitch = true) : (operation.requested snapshot).killSwitch = true := by
  cases operation with
  | getState => exact enabled
  | enableKillSwitch => rfl
  | disableKillSwitch => exact absurd rfl kept
  | setMode mode => exact enabled

/-- Only a `disable_kill_switch` call which takes effect turns the stored switch off. -/
theorem KillSwitchOn.step (switchedOn : KillSwitchOn database)
    (kept : call.operation = .disableKillSwitch → ¬ TakesEffect database call) :
    KillSwitchOn (call.next database) := by
  rcases call.effect database with mutated | initialized
  · apply mutated.killSwitchOn
    apply ServiceOperation.requested_killSwitch
    · exact fun disables => kept disables ⟨_, mutated⟩
    · exact switchedOn.state call.settings
  · obtain ⟨row, stored, enabled⟩ := switchedOn
    rw [initialized.stored stored]
    exact ⟨row, stored, enabled⟩

/-- An `enable_kill_switch` call which takes effect turns the stored switch on. -/
theorem killSwitchOn_of_enable (enables : call.operation = .enableKillSwitch)
    (effective : TakesEffect database call) : KillSwitchOn (call.next database) := by
  rcases call.effect database with mutated | initialized
  · apply mutated.killSwitchOn
    rw [enables]
    rfl
  · obtain ⟨after, mutated⟩ := effective
    obtain ⟨entry, logged, -, -⟩ := mutated.logged
    rw [initialized.auditLogs] at logged
    simp at logged

theorem KillSwitchOn.run {later : List ServiceCall} (switchedOn : KillSwitchOn database)
    (kept : AtEachCall ServiceCall.next (fun database call =>
      call.operation = .disableKillSwitch → ¬ TakesEffect database call) database later) :
    AtEachCall ServiceCall.next ReportsOn database later := by
  induction later generalizing database with
  | nil => exact trivial
  | cons call rest ih => exact ⟨switchedOn.reportsOn call, ih (switchedOn.step kept.1) kept.2⟩

end KillSwitch

/-- In every serial run, under any settings and any failures: every call is
audited, the new logs form a chain which ends in the stored state, and from an
`enable_kill_switch` which takes effect every `get_state` reports the kill switch
on until a `disable_kill_switch` takes effect. -/
theorem auditChain_run (database : Database) (calls : List ServiceCall) :
    AtEachCall ServiceCall.next Audited database calls ∧
    Chained database (calls.foldl ServiceCall.next database) ∧
    ∀ earlier enable later others, calls = earlier ++ enable :: (later ++ others) →
      enable.operation = .enableKillSwitch →
      TakesEffect (earlier.foldl ServiceCall.next database) enable →
      AtEachCall ServiceCall.next (fun database call =>
        call.operation = .disableKillSwitch → ¬ TakesEffect database call)
        (enable.next (earlier.foldl ServiceCall.next database)) later →
      AtEachCall ServiceCall.next ReportsOn
        (enable.next (earlier.foldl ServiceCall.next database)) later := by
  refine ⟨atEachCall_of_forall fun database call => call.audited database, ?_, ?_⟩
  · have start : Chained database database :=
      ⟨[], (List.append_nil _).symm, List.isChain_nil, fun entry absent => by cases absent⟩
    exact start.run calls
  · intro earlier enable later others _ enables effective kept
    exact (killSwitchOn_of_enable enables effective).run kept

/-- A database with a stored state, and no logs yet. -/
def Database.initialized : Database where
  systemState := Dict.empty.set SystemStateService.stateKey
    (SystemStateService.initialRow .default "row")
  auditLogs := []

/-- A `disable_kill_switch` whose commit takes effect and loses its reply. -/
def unreportedDisable : ServiceCall where
  settings := .default
  operation := .disableKillSwitch
  faults := { commit := some ⟨⟨"server closed the connection unexpectedly"⟩, true⟩ }

/-- It raises, and the state has changed: a failed mutation can change the state. -/
theorem failed_mutation_changes : ¬ ∀ (database : Database) (calls : List ServiceCall),
    AtEachCall ServiceCall.next (fun database call => ∀ raised,
      call.reported database = .error raised → call.next database = database) database calls := by
  intro unchanged
  have same := (unchanged .initialized [unreportedDisable]).1 _ rfl
  have written : (unreportedDisable.next .initialized).auditLogs.length = 1 := rfl
  rw [same] at written
  cases written

end AlphaAgent.Services
