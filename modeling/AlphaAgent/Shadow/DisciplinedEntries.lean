import AlphaAgent.Shadow.Interleaving
import AlphaAgent.Shadow.LossDiscipline

/-!
# Disciplined entries

Any number of cycles perform their operations in any order. A monitor notes what each
session has been shown since its last flush, and with each observation which is flushed
what its session had been shown. Every observation which is ever committed was flushed
by a session which had seen that it was allowed to open it.
-/

namespace AlphaAgent.Shadow

open Foundation

/-- An observation which a session flushed, and what it had been shown before. -/
structure EntryRecord where
  session : ℕ
  views : List Database
  observation : ShadowObservation

/-- What the sessions have been shown since their last flushes, and what they flushed. -/
structure EntryMonitor where
  views : ℕ → List Database := fun _ => []
  entries : List EntryRecord := []

/-- The observation which a write opens. -/
def Write.opened : Write → Option ShadowObservation
  | .addObservation observation => some observation
  | _ => none

namespace EntryMonitor

variable (monitor : EntryMonitor)

/-- A session is shown a view. -/
def shown (session : ℕ) (view : Database) : EntryMonitor :=
  { monitor with
    views := Function.update monitor.views session (monitor.views session ++ [view]) }

/-- A session starts anew. -/
def cleared (session : ℕ) : EntryMonitor :=
  { monitor with views := Function.update monitor.views session [] }

/-- A session flushes writes. -/
def flushed (session : ℕ) (writes : List Write) : EntryMonitor :=
  { monitor.cleared session with
    entries := monitor.entries ++ (writes.filterMap Write.opened).map fun observation =>
      ⟨session, monitor.views session, observation⟩ }

/-- What the monitor makes of an operation. -/
def observe (store : Store) : (op : Operation) → Reply op → EntryMonitor
  | .flush session writes, .ok () => monitor.flushed session writes
  | .flush session _, .error _ => monitor.cleared session
  | .commit session, _ => monitor.cleared session
  | .rollback session, _ => monitor.cleared session
  | op, _ => monitor.shown op.session (store.view op.session)

end EntryMonitor

/-- Rows of one opening. -/
structure SameOpening (row other : ShadowObservation) : Prop where
  id : row.id = other.id
  market : row.market = other.market
  symbol : row.symbol = other.symbol
  openedAt : row.openedAt = other.openedAt

/-- A row was opened in a session which was allowed to open it. -/
def Traced (cycles : List Cycle) (entries : List EntryRecord) (row : ShadowObservation) : Prop :=
  ∃ entry ∈ entries, ∃ cycle ∈ cycles[entry.session]?,
    Allowed cycle entry.views entry.observation ∧ SameOpening row entry.observation

section Rows

theorem SameOpening.refl (row : ShadowObservation) : SameOpening row row := ⟨rfl, rfl, rfl, rfl⟩

theorem SameOpening.trans {first second third : ShadowObservation}
    (same : SameOpening first second) (again : SameOpening second third) :
    SameOpening first third :=
  ⟨same.id.trans again.id, same.market.trans again.market, same.symbol.trans again.symbol,
    same.openedAt.trans again.openedAt⟩

theorem sameOpening_onRow (row : ShadowObservation) (write : Write) :
    SameOpening (write.onRow row) row := by
  cases write with
  | assign id assignment =>
    rw [Write.onRow]
    split
    · cases assignment <;> exact ⟨rfl, rfl, rfl, rfl⟩
    · exact .refl row
  | _ => exact .refl row

/-- The rows after writes are those before, and those which the writes open. -/
theorem opening_of_applyAll {database : Database} {writes : List Write} {row : ShadowObservation}
    (member : row ∈ (database.applyAll writes).observations) :
    (∃ earlier ∈ database.observations, SameOpening row earlier) ∨
      ∃ observation, .addObservation observation ∈ writes ∧ SameOpening row observation := by
  induction writes generalizing database with
  | nil => exact .inl ⟨row, member, .refl row⟩
  | cons write rest ih =>
    rcases ih member with ⟨earlier, found, same⟩ | ⟨observation, listed, same⟩
    · rw [observations_apply] at found
      rcases List.mem_append.mp found with mapped | new
      · obtain ⟨before, held, rfl⟩ := List.mem_map.mp mapped
        exact .inl ⟨before, held, same.trans (sameOpening_onRow before write)⟩
      · cases write with
        | addObservation observation =>
          obtain rfl : earlier = observation := by simpa [Database.apply] using new
          exact .inr ⟨earlier, List.mem_cons_self, same⟩
        | _ => simp [Database.apply] at new
    · exact .inr ⟨observation, List.mem_cons_of_mem write listed, same⟩

theorem Traced.of_same {cycles : List Cycle} {entries : List EntryRecord}
    {row other : ShadowObservation} (traced : Traced cycles entries other)
    (same : SameOpening row other) : Traced cycles entries row := by
  obtain ⟨entry, member, cycle, found, allowed, opening⟩ := traced
  exact ⟨entry, member, cycle, found, allowed, same.trans opening⟩

theorem Traced.mono {cycles : List Cycle} {entries more : List EntryRecord}
    {row : ShadowObservation} (traced : Traced cycles entries row) (within : entries ⊆ more) :
    Traced cycles more row := by
  obtain ⟨entry, member, rest⟩ := traced
  exact ⟨entry, within member, rest⟩

end Rows

/-- The contract of the cycle in a session; where there is none, nothing is asked. -/
def cyclesContract (cycles : List Cycle) (session : ℕ) : Contract Reply (List Database) :=
  match cycles[session]? with
  | some cycle => entryContract cycle session
  | none => ⟨fun _ _ => False, fun _ _ _ _ => True⟩

/-- The sessions know what they were shown, and every row is traced, also of those which
are not committed yet. -/
structure EntriesTraced (cycles : List Cycle) (store : Store) (monitor : EntryMonitor)
    (states : ℕ → List Database) : Prop where
  views : states = monitor.views
  committed : ∀ row ∈ store.committed.observations, Traced cycles monitor.entries row
  flushed : ∀ session observation, .addObservation observation ∈ store.flushed session →
    Traced cycles monitor.entries observation

section Steps

variable {cycles : List Cycle} {store : Store} {monitor : EntryMonitor}
  {states : ℕ → List Database} {session : ℕ} {cycle : Cycle}

/-- A session is shown what it sees. -/
theorem EntriesTraced.shown (traced : EntriesTraced cycles store monitor states) (view : Database) :
    EntriesTraced cycles store (monitor.shown session view)
      (Function.update states session (states session ++ [view])) where
  views := by rw [traced.views]; rfl
  committed := traced.committed
  flushed := traced.flushed

/-- The end of a transaction without a commit. -/
theorem EntriesTraced.discard (traced : EntriesTraced cycles store monitor states) :
    EntriesTraced cycles (store.discard session) (monitor.cleared session)
      (Function.update states session []) where
  views := by rw [traced.views]; rfl
  committed := traced.committed
  flushed := by
    intro other observation member
    by_cases same : other = session
    · rw [same, Store.discard] at member
      simp at member
    · rw [Store.discard] at member
      dsimp only at member
      rw [Function.update_of_ne same] at member
      exact traced.flushed other observation member

/-- A flush of observations which the session was allowed to open. -/
theorem EntriesTraced.flush (traced : EntriesTraced cycles store monitor states)
    (found : cycle ∈ cycles[session]?) {writes : List Write}
    (allowed : ∀ observation, .addObservation observation ∈ writes →
      Allowed cycle (states session) observation) :
    EntriesTraced cycles (store.afterFlush session writes) (monitor.flushed session writes)
      (Function.update states session []) where
  views := by rw [traced.views]; rfl
  committed := fun row member =>
    (traced.committed row member).mono (List.subset_append_left _ _)
  flushed := by
    intro other observation member
    by_cases same : other = session
    · rw [same, Store.afterFlush] at member
      dsimp only at member
      rw [Function.update_self] at member
      rcases List.mem_append.mp member with earlier | new
      · exact (traced.flushed session observation earlier).mono (List.subset_append_left _ _)
      · refine ⟨⟨session, monitor.views session, observation⟩, ?_, cycle, found, ?_, .refl _⟩
        · refine List.mem_append_right _ (List.mem_map_of_mem ?_)
          exact List.mem_filterMap.mpr ⟨_, new, rfl⟩
        · rw [← traced.views]
          exact allowed observation new
    · rw [Store.afterFlush] at member
      dsimp only at member
      rw [Function.update_of_ne same] at member
      exact (traced.flushed other observation member).mono (List.subset_append_left _ _)

/-- A commit publishes what its session flushed. -/
theorem EntriesTraced.commit (traced : EntriesTraced cycles store monitor states) :
    EntriesTraced cycles (store.afterCommit session) (monitor.cleared session)
      (Function.update states session []) where
  views := traced.discard.views
  committed := by
    intro row member
    rcases opening_of_applyAll member with ⟨earlier, held, same⟩ | ⟨observation, listed, same⟩
    · exact (traced.committed earlier held).of_same same
    · exact (traced.flushed session observation listed).of_same same
  flushed := traced.discard.flushed

/-- What is answered is the value which was asked for. -/
theorem eq_of_answer {α : Type} {refused : Bool} {value answered : α}
    (replied : answer refused value = .ok answered) : answered = value := by
  unfold answer at replied
  split at replied
  · cases replied
  · exact (Except.ok.inj replied).symm

/-- Every operation which the contracts allow keeps the rows traced. -/
theorem entriesTraced_preserves (cycles : List Cycle) :
    Watched.Preserves performer EntryMonitor.observe (cyclesContract cycles) (EntriesTraced cycles)
      fun _ _ _ => True := by
  intro index environment op store monitor states traced asks _
  rw [cyclesContract] at asks ⊢
  cases found : cycles[index]? with
  | none =>
    rw [found] at asks
    exact asks.elim
  | some cycle =>
    rw [found] at asks
    obtain ⟨rfl, within⟩ := asks
    cases op with
    | hasStrategy session | hasInstrument session =>
      exact ⟨_, ⟨store.view session, trivial, rfl⟩, traced.shown _⟩
    | observations session filter | samples session filter =>
      exact ⟨_, ⟨store.view session, fun rows replied => eq_of_answer replied, rfl⟩, traced.shown _⟩
    | flush session writes =>
      refine ⟨[], rfl, ?_⟩
      rcases performer_flush environment store session writes with ⟨_, flushed⟩ | ⟨failed, refused⟩
      · rw [flushed]
        exact traced.flush found within
      · rw [refused]
        exact traced.discard
    | commit session =>
      refine ⟨[], rfl, ?_⟩
      rcases performer_commit environment store session with ⟨_, committed⟩ | ⟨failed, refused⟩
      · rw [committed]
        exact traced.commit
      · rw [refused]
        exact traced.discard
    | rollback session => exact ⟨[], rfl, traced.discard⟩

end Steps

/-- Cycles at their start, on empty tables. -/
def startTraced (cycles : List Cycle) :
    Watched Reply (Except RaisedError Unit × List Write) Store EntryMonitor :=
  ⟨Pool.start (cycles.mapIdx cycleProgram) {}, {}⟩

theorem startTraced_holds (cycles : List Cycle) :
    Watched.Holds (cyclesContract cycles) (EntriesTraced cycles) (startTraced cycles)
      fun _ => [] where
  programs := by
    intro session program located
    rw [startTraced, Pool.start, List.getElem?_mapIdx, Option.map_eq_some_iff] at located
    obtain ⟨cycle, found, rfl⟩ := located
    rw [cyclesContract, found]
    exact (runCycle_kept [] [] (kept_nil cycle [])).mono fun _ _ _ => trivial
  invariant :=
    { views := rfl
      committed := List.forall_mem_nil _
      flushed := fun _ _ absent => absurd absent List.not_mem_nil }

/-- In every interleaving of cycles and at any time, each committed observation was
flushed by the session of a cycle which buys, after the database had shown this session
no open observation of the symbol, no cooldown and no loss which pauses new entries. -/
theorem interleaved_entries (cycles : List Cycle) (schedule : List (ℕ × Environment)) :
    Throughout (Watched.turn performer EntryMonitor.observe)
      (fun watched => ∀ row ∈ watched.pool.shared.committed.observations,
        Traced cycles watched.monitor.entries row)
      (startTraced cycles) schedule :=
  (startTraced_holds cycles).throughout (entriesTraced_preserves cycles)
    (fun _ _ traced => traced.committed) (atEachCall_of_forall fun _ _ _ _ => trivial)

end AlphaAgent.Shadow
