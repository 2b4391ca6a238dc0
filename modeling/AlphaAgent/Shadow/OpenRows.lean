import AlphaAgent.Shadow.Lifecycle
import AlphaAgent.Shadow.Training

/-!
# Open rows of a symbol

Writes assign to the rows which are there and append rows of their own. An
assignment never opens a row and never moves it to another symbol, and whether
writes close a row depends on its id alone. So writes add at most the open rows
which they insert, and writes which leave none of their own open add none, also
below other writes.
-/

namespace AlphaAgent.Shadow

/-- What an open observation stands for, beside the one strategy of the service. -/
structure ObservationKey where
  market : Market
  symbol : String
deriving DecidableEq

/-- The lookup of `_record_shadow_observation`. -/
def ObservationKey.lookup (key : ObservationKey) : ObservationFilter :=
  .openFor key.market key.symbol

/-- The observations which writes leave on empty tables. -/
def added (writes : List Write) : List ShadowObservation :=
  (Database.applyAll {} writes).observations

/-- The write closes the row with this id. -/
def Write.closes (id : String) : Write → Bool
  | .assign other (.close _) => other = id
  | _ => false

section Counts

variable (key : ObservationKey)

/-- How many open observations for the key the tables have. -/
def Database.openCount (database : Database) : ℕ :=
  database.observations.countP key.lookup.selects

/-- How many of the observations which writes add for the key they leave open. -/
def ownCount (writes : List Write) : ℕ := (added writes).countP key.lookup.selects

/-- The write inserts an open observation for the key. -/
def Write.inserts : Write → Bool
  | .addObservation observation => key.lookup.selects observation
  | _ => false

/-- How many open observations for the key writes insert. -/
def insertions (writes : List Write) : ℕ := writes.countP (Write.inserts key)

end Counts

section Rows

theorem observations_apply (database : Database) (write : Write) :
    (database.apply write).observations =
      database.observations.map write.onRow ++ (Database.apply {} write).observations := by
  cases write with
  | addObservation observation => simp [Database.apply, Write.onRow]
  | assign id assignment => simp [Database.apply]
  | _ => simp [Database.apply, Write.onRow]

@[simp] theorem loaded_id (writes : List Write) (row : ShadowObservation) :
    (loaded writes row).id = row.id := by
  induction writes generalizing row with
  | nil => rfl
  | cons write rest ih => exact (ih _).trans (onRow_id row write)

@[simp] theorem loaded_nil : loaded [] = id := rfl

/-- Writes assign to the rows which are there and append rows of their own. -/
theorem observations_applyAll (database : Database) (writes : List Write) :
    (database.applyAll writes).observations =
      database.observations.map (loaded writes) ++ added writes := by
  induction writes generalizing database with
  | nil => simp [Database.applyAll, added]
  | cons write rest ih =>
    have composed : loaded (write :: rest) = loaded rest ∘ write.onRow := rfl
    have first : (Database.applyAll {} (write :: rest)).observations =
        (Database.apply {} write).observations.map (loaded rest) ++ added rest := ih _
    calc (database.applyAll (write :: rest)).observations
        = (database.apply write).observations.map (loaded rest) ++ added rest := ih _
      _ = database.observations.map (loaded (write :: rest)) ++
          ((Database.apply {} write).observations.map (loaded rest) ++ added rest) := by
        rw [observations_apply, List.map_append, List.map_map, composed, List.append_assoc]
      _ = database.observations.map (loaded (write :: rest)) ++ added (write :: rest) := by
        rw [← first, added]

variable {key : ObservationKey} {row : ShadowObservation}

theorem key_of_selects (selected : key.lookup.selects row = true) :
    key = ⟨row.market, row.symbol⟩ := by
  rw [ObservationKey.lookup, ObservationFilter.selects, Bool.and_eq_true, Bool.and_eq_true]
    at selected
  obtain ⟨⟨market, symbol⟩, _⟩ := selected
  rw [of_decide_eq_true market, of_decide_eq_true symbol]

/-- A row is open for the key after a write exactly if it was and the write does not close it. -/
theorem selects_onRow (write : Write) :
    key.lookup.selects (write.onRow row) = (key.lookup.selects row && !write.closes row.id) := by
  cases write with
  | assign id assignment =>
    by_cases same : row.id = id
    · cases assignment with
      | mark columns =>
        simp [Write.onRow, Write.closes, same, ObservationKey.lookup, ObservationFilter.selects,
          ShadowObservation.assigned, ShadowObservation.isOpen]
      | close columns =>
        simp [Write.onRow, Write.closes, same, ObservationKey.lookup, ObservationFilter.selects,
          ShadowObservation.assigned, ShadowObservation.isOpen]
    · cases assignment <;> simp [Write.onRow, Write.closes, same, Ne.symm same]
  | _ => simp [Write.onRow, Write.closes]

theorem selects_loaded (writes : List Write) :
    key.lookup.selects (loaded writes row) =
      (key.lookup.selects row && !writes.any (Write.closes row.id)) := by
  induction writes generalizing row with
  | nil => simp [loaded]
  | cons write rest ih =>
    have stepped : loaded (write :: rest) row = loaded rest (write.onRow row) := rfl
    rw [stepped, ih, selects_onRow, onRow_id, List.any_cons, Bool.not_or, Bool.and_assoc]

end Rows

section Bounds

variable (key : ObservationKey) (database : Database)

theorem openCount_applyAll (writes : List Write) :
    (database.applyAll writes).openCount key =
      database.observations.countP (key.lookup.selects ∘ loaded writes) + ownCount key writes := by
  rw [Database.openCount, observations_applyAll, List.countP_append, List.countP_map, ownCount]

/-- Rows which are open after writes were open before. -/
theorem countP_loaded_le (rows : List ShadowObservation) (writes : List Write) :
    rows.countP (key.lookup.selects ∘ loaded writes) ≤ rows.countP key.lookup.selects := by
  apply List.countP_mono_left
  intro row _ isOpen
  rw [Function.comp_apply, selects_loaded, Bool.and_eq_true] at isOpen
  exact isOpen.1

/-- Writes add at most the open rows of their own. -/
theorem openCount_applyAll_le (writes : List Write) :
    (database.applyAll writes).openCount key ≤ database.openCount key + ownCount key writes := by
  rw [openCount_applyAll]
  exact Nat.add_le_add_right (countP_loaded_le key database.observations writes) _

/-- Writes leave open at most the rows which they insert. -/
theorem ownCount_le_insertions (writes : List Write) :
    ownCount key writes ≤ insertions key writes := by
  induction writes with
  | nil => exact Nat.le_refl 0
  | cons write rest ih =>
    have split : ownCount key (write :: rest) = ((Database.apply {} write).observations.countP
        (key.lookup.selects ∘ loaded rest)) + ownCount key rest :=
      openCount_applyAll key (Database.apply {} write) rest
    have first : (Database.apply {} write).observations.countP key.lookup.selects =
        if write.inserts key then 1 else 0 := by
      cases write with
      | addObservation observation =>
        rw [Database.apply, List.nil_append, List.countP_singleton]
        rfl
      | _ => rfl
    have fewer := countP_loaded_le key (Database.apply {} write).observations rest
    rw [insertions, List.countP_cons, ← insertions]
    omega

/-- Below other writes, writes which leave none of their own open add no open row. -/
theorem openCount_below_le {inner : List Write} (none : ownCount key inner = 0)
    (outer : List Write) :
    ((database.applyAll inner).applyAll outer).openCount key ≤
      (database.applyAll outer).openCount key := by
  have closed : (added inner).countP (key.lookup.selects ∘ loaded outer) = 0 :=
    Nat.eq_zero_of_le_zero ((countP_loaded_le key (added inner) outer).trans_eq none)
  have fewer : database.observations.countP ((key.lookup.selects ∘ loaded outer) ∘ loaded inner) ≤
      database.observations.countP (key.lookup.selects ∘ loaded outer) := by
    apply List.countP_mono_left
    intro row _ isOpen
    simp only [Function.comp_apply, selects_loaded, loaded_id, Bool.and_eq_true] at isOpen ⊢
    exact ⟨isOpen.1.1, isOpen.2⟩
  rw [openCount_applyAll, openCount_applyAll, observations_applyAll, List.countP_append,
    List.countP_map, closed, Nat.add_zero]
  exact Nat.add_le_add_right fewer _

end Bounds
end AlphaAgent.Shadow
