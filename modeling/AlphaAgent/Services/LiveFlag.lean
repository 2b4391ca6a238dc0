import AlphaAgent.Services.AuditChain

/-!
# The live-trading flag over restarts

The row keeps the flag of the environment which created it, and no operation
writes the flag again. A later service whose environment has the flag off still
reports live trading on from this row. `liveByEnvironment_iff` says exactly when
every report agrees with the environment of the service which gives it.
-/

namespace AlphaAgent.Services

open Foundation

section Stored

variable {settings : ServiceSettings} {newId : String} {faults : DatabaseFaults}
  {database : Database} {row : SystemState}
  (stored : database.systemState.get? SystemStateService.stateKey = some row)

include stored

theorem SystemStateService.getOrCreateRow_stored (unselected : faults.select = none) :
    (getOrCreateRow settings newId faults).run database = (.ok row, database) := by
  unfold getOrCreateRow
  rw [Fallible.run_bind, unselected, Fallible.run_raiseIf_none]
  dsimp only
  rw [Fallible.run_bind, Fallible.run_get]
  dsimp only
  rw [stored]
  rfl

/-- A database which answers reports the stored row, whatever the settings. -/
theorem SystemStateService.getState_answered (answered : faults.answered = true) :
    (getState settings newId faults).run database = (.ok row.snapshot, database) := by
  simp only [DatabaseFaults.answered, Bool.and_eq_true, Option.isNone_iff_eq_none] at answered
  obtain ⟨⟨⟨connected, selected⟩, committed⟩, refreshed⟩ := answered
  have found : (inSession faults (getOrCreateRow settings newId faults)).run database =
      (.ok row, database) := by
    unfold inSession
    rw [committed]
    apply Fallible.run_transaction_none
    rw [Fallible.run_bind, connected, Fallible.run_raiseIf_none]
    exact getOrCreateRow_stored stored selected
  apply Fallible.run_handle_ok
  unfold readState
  rw [Fallible.run_bind, found]
  dsimp only
  rw [Fallible.run_bind, refreshed, Fallible.run_raiseIf_none]
  rfl

end Stored

/-- A call never changes a stored flag. -/
theorem ServiceCall.keeps_flag (call : ServiceCall) {database : Database} {row : SystemState}
    (stored : database.systemState.get? SystemStateService.stateKey = some row) :
    ∃ next, (call.next database).systemState.get? SystemStateService.stateKey = some next ∧
      next.liveTradingEnabled = row.liveTradingEnabled := by
  rcases call.effect database with mutated | initialized
  · obtain ⟨next, found, same⟩ := mutated.stored
    refine ⟨next, found, ?_⟩
    have asked : (call.operation.requested (database.state call.settings)).liveTradingEnabled =
        row.liveTradingEnabled := by
      rw [Database.state_of_stored stored]
      cases call.operation <;> rfl
    rw [← asked, ← same]
    rfl
  · rw [initialized.stored stored]
    exact ⟨row, stored, rfl⟩

/-- A service reports live trading on only where its own environment enables it. -/
def LiveByEnvironment (database : Database) (call : ServiceCall) : Prop :=
  call.operation = .getState → ∀ snapshot, call.reported database = .ok snapshot →
    snapshot.liveTradingEnabled = true → call.settings.liveTradingEnabled = true

/-- The database answers a service whose environment has the flag off from a row
which was created under an environment with the flag on. -/
def ReadsOldFlag (database : Database) (call : ServiceCall) : Prop :=
  call.operation = .getState ∧ call.faults.answered = true ∧
    call.settings.liveTradingEnabled = false ∧
    ∃ row, database.systemState.get? SystemStateService.stateKey = some row ∧
      row.liveTradingEnabled = true

/-- A report is not backed by the environment exactly when it is read from such a row. -/
theorem ServiceCall.liveByEnvironment_iff (call : ServiceCall) (database : Database) :
    LiveByEnvironment database call ↔ ¬ ReadsOldFlag database call := by
  constructor
  · rintro backed ⟨reads, answered, disabled, row, stored, live⟩
    have reported : call.reported database = .ok row.snapshot := by
      unfold ServiceCall.reported ServiceCall.perform
      rw [reads]
      exact congrArg Prod.fst (SystemStateService.getState_answered stored answered)
    have enabled := backed reads row.snapshot reported live
    rw [disabled] at enabled
    cases enabled
  · intro recent reads snapshot reported live
    cases call.performed database with
    | read found _ returned _ source =>
      rw [returned] at reported
      rw [← Except.ok.inj reported] at live
      rcases source with ⟨answered, same⟩ | unavailable
      · cases enabled : call.settings.liveTradingEnabled with
        | true => rfl
        | false =>
          rw [same] at live
          cases stored : database.systemState.get? SystemStateService.stateKey with
          | some row =>
            rw [Database.state_of_stored stored] at live
            exact absurd ⟨reads, answered, enabled, row, stored, live⟩ recent
          | none =>
            rw [Database.state_of_missing stored] at live
            exact enabled.symm.trans live
      · rw [unavailable] at live
        cases live
    | mutated mutates _ _ => exact absurd reads mutates
    | refused _ mutates _ _ => exact absurd reads mutates
    | unreported _ mutates _ _ _ => exact absurd reads mutates

/-- Over every history of services, each under its own settings: every report of
live trading is backed by the environment of the service which gives it exactly
when no answered `get_state` under a disabled flag finds a row with the flag on. -/
theorem liveByEnvironment_run_iff (database : Database) (history : List ServiceCall) :
    AtEachCall ServiceCall.next LiveByEnvironment database history ↔
      AtEachCall ServiceCall.next (fun database call => ¬ ReadsOldFlag database call) database
        history :=
  atEachCall_congr fun database call => call.liveByEnvironment_iff database

/-- From a stored row on, its flag decides: it is off, or every service which the
database answers has the flag on. -/
theorem liveByEnvironment_run_iff_of_stored {database : Database} {row : SystemState}
    (stored : database.systemState.get? SystemStateService.stateKey = some row)
    (history : List ServiceCall) :
    AtEachCall ServiceCall.next LiveByEnvironment database history ↔
      (row.liveTradingEnabled = true → ∀ call ∈ history, call.operation = .getState →
        call.faults.answered = true → call.settings.liveTradingEnabled = true) := by
  induction history generalizing database row with
  | nil => exact iff_of_true trivial fun _ call absent => nomatch absent
  | cons call rest ih =>
    obtain ⟨next, found, kept⟩ := call.keeps_flag stored
    rw [AtEachCall, call.liveByEnvironment_iff, ih found, kept]
    constructor
    · rintro ⟨recent, later⟩ live other listed reads answered
      rcases List.mem_cons.mp listed with rfl | listed
      · cases enabled : other.settings.liveTradingEnabled with
        | true => rfl
        | false => exact absurd ⟨reads, answered, enabled, row, stored, live⟩ recent
      · exact later live other listed reads answered
    · intro backed
      constructor
      · rintro ⟨reads, answered, disabled, other, located, live⟩
        rw [stored] at located
        cases located
        have enabled := backed live call List.mem_cons_self reads answered
        rw [disabled] at enabled
        cases enabled
      · exact fun live other listed => backed live other (List.mem_cons_of_mem _ listed)

/-- The tables before the first service ran. -/
def Database.empty : Database := ⟨Dict.empty, []⟩

/-- A service starts with live trading enabled, and restarts with it disabled. -/
def disabledAfterwards : List ServiceCall :=
  [{ settings := { ServiceSettings.default with liveTradingEnabled := true },
     operation := .getState },
    { settings := .default, operation := .getState }]

/-- The restarted service still reports live trading on. -/
theorem restart_keeps_live : ¬ ∀ (database : Database) (history : List ServiceCall),
    AtEachCall ServiceCall.next LiveByEnvironment database history := by
  intro backed
  have restarted := (backed .empty disabledAfterwards).2.1 rfl _ rfl rfl
  cases restarted

end AlphaAgent.Services
