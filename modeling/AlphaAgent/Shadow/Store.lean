import AlphaAgent.Foundation.Program
import AlphaAgent.Shadow.Models
import Mathlib.Logic.Function.Basic

/-!
# The database under the shadow training service

Sessions read and write the tables under read-committed isolation: a session
sees what is committed and what it has itself flushed, and a commit puts its
flushed writes on top of what is then committed. An update sets the columns
which were assigned and no others. A row lock makes a session wait; here nobody
waits, and a conflict of keys with a row committed meanwhile shows at the commit.
-/

namespace AlphaAgent.Shadow

open Foundation

/-- The columns which a mark of an observation assigns. -/
structure Mark where
  signalId : String
  hypotheticalQuantity : ℤ
  hypotheticalNotionalInr : ℚ
  currentPrice : ℚ
  lastMarkedAt : ℤ
  hypotheticalPnlInr : ℚ
  hypotheticalPnlPct : ℚ
  metadataJson : ObservationMetadata
deriving DecidableEq

/-- The columns which a close of an observation assigns. -/
structure Closing where
  status : ClosedStatus
  metadataJson : ObservationMetadata
  notes : List String
deriving DecidableEq

inductive Assignment where
  | mark (columns : Mark)
  | close (columns : Closing)
deriving DecidableEq

/-- An observation with the columns of an assignment. -/
def ShadowObservation.assigned (observation : ShadowObservation) : Assignment → ShadowObservation
  | .mark columns =>
    { observation with
      signalId := columns.signalId
      hypotheticalQuantity := columns.hypotheticalQuantity
      hypotheticalNotionalInr := columns.hypotheticalNotionalInr
      currentPrice := columns.currentPrice
      lastMarkedAt := columns.lastMarkedAt
      hypotheticalPnlInr := columns.hypotheticalPnlInr
      hypotheticalPnlPct := columns.hypotheticalPnlPct
      metadataJson := columns.metadataJson }
  | .close columns =>
    { observation with
      status := .closed columns.status
      metadataJson := columns.metadataJson
      notes := columns.notes }

/-- What a session has to send to the database. -/
inductive Write where
  | addStrategy
  | addInstrument (market : Market) (symbol : String)
  | addObservation (observation : ShadowObservation)
  | assign (id : String) (assignment : Assignment)
  | addSample (sample : ShadowTrainingSample)
deriving DecidableEq

/-- The row of an observation after a write. -/
def Write.onRow (row : ShadowObservation) : Write → ShadowObservation
  | .assign id assignment => if row.id = id then row.assigned assignment else row
  | _ => row

/-- The tables which the service reads. -/
structure Database where
  strategies : ℕ := 0
  instruments : List (Market × String) := []
  observations : List ShadowObservation := []
  samples : List ShadowTrainingSample := []
deriving DecidableEq

namespace Database

def apply (database : Database) : Write → Database
  | .addStrategy => { database with strategies := database.strategies + 1 }
  | .addInstrument market symbol =>
    { database with instruments := database.instruments ++ [(market, symbol)] }
  | .addObservation observation =>
    { database with observations := database.observations ++ [observation] }
  | .assign id assignment =>
    { database with
      observations := database.observations.map fun row => (Write.assign id assignment).onRow row }
  | .addSample sample => { database with samples := database.samples ++ [sample] }

def applyAll (database : Database) (writes : List Write) : Database :=
  writes.foldl apply database

/-- A write breaks no key: strategies have one name, instruments and observation
ids are unique, and a sample belongs to an observation. -/
def Accepts (database : Database) : Write → Prop
  | .addStrategy => database.strategies = 0
  | .addInstrument market symbol => (market, symbol) ∉ database.instruments
  | .addObservation observation => observation.id ∉ database.observations.map ShadowObservation.id
  | .assign _ _ => True
  | .addSample sample => sample.observationId ∈ database.observations.map ShadowObservation.id

instance (database : Database) : ∀ write, Decidable (database.Accepts write)
  | .addStrategy => inferInstanceAs (Decidable (database.strategies = 0))
  | .addInstrument market symbol =>
    inferInstanceAs (Decidable ((market, symbol) ∉ database.instruments))
  | .addObservation observation =>
    inferInstanceAs (Decidable (observation.id ∉ database.observations.map ShadowObservation.id))
  | .assign _ _ => isTrue trivial
  | .addSample sample => inferInstanceAs
      (Decidable (sample.observationId ∈ database.observations.map ShadowObservation.id))

/-- No write breaks a key where its turn comes. -/
def AcceptsAll (database : Database) : List Write → Prop
  | [] => True
  | write :: rest => database.Accepts write ∧ (database.apply write).AcceptsAll rest

instance decidableAcceptsAll (database : Database) :
    ∀ writes, Decidable (database.AcceptsAll writes)
  | [] => isTrue trivial
  | write :: rest =>
    have := decidableAcceptsAll (database.apply write) rest
    inferInstanceAs (Decidable (_ ∧ _))

theorem applyAll_append (database : Database) (first second : List Write) :
    database.applyAll (first ++ second) = (database.applyAll first).applyAll second :=
  List.foldl_append

end Database

/-- The `WHERE` clauses over observations. -/
inductive ObservationFilter where
  | openFor (market : Market) (symbol : String)
  | staleIn (market : Market) (dayStart : ℤ)
  | closedFor (market : Market) (symbol : String)
deriving DecidableEq

def ObservationFilter.selects (row : ShadowObservation) : ObservationFilter → Bool
  | .openFor market symbol => row.market = market && row.symbol = symbol && row.isOpen
  | .staleIn market dayStart => row.market = market && row.isOpen && row.openedAt < dayStart
  | .closedFor market symbol => row.market = market && row.symbol = symbol && !row.isOpen

/-- The `WHERE` clauses over samples. -/
inductive SampleFilter where
  | ofObservation (id : String)
  | sizedBetween (market : Market) (symbol : String) (start stop : ℤ)
  | sizedSince (market : Market) (symbol : Option String) (start : ℤ)
deriving DecidableEq

def ShadowTrainingSample.isSized (sample : ShadowTrainingSample) : Bool :=
  0 < sample.hypotheticalQuantity && decide (0 < sample.hypotheticalNotionalInr)

def SampleFilter.selects (sample : ShadowTrainingSample) : SampleFilter → Bool
  | .ofObservation id => sample.observationId = id
  | .sizedBetween market symbol start stop =>
    sample.market = market && sample.symbol = symbol && start ≤ sample.sampleAt &&
      sample.sampleAt < stop && sample.isSized
  | .sizedSince market symbol start =>
    sample.market = market && symbol.all (sample.symbol = ·) && start ≤ sample.sampleAt &&
      sample.isSized

/-- What a session asks of the database. -/
inductive Operation where
  | hasStrategy (session : ℕ)
  | hasInstrument (session : ℕ) (market : Market) (symbol : String)
  | observations (session : ℕ) (filter : ObservationFilter)
  | samples (session : ℕ) (filter : SampleFilter)
  | flush (session : ℕ) (writes : List Write)
  | commit (session : ℕ)
  | rollback (session : ℕ)
deriving DecidableEq

/-- An error of the database, none of which is a platform error. -/
inductive DatabaseError where
  | integrity
  | operational
deriving DecidableEq

def DatabaseError.raised : DatabaseError → RaisedError
  | integrity => ⟨"IntegrityError", "unique constraint failed"⟩
  | operational => ⟨"OperationalError", "database unavailable"⟩

def Reply : Operation → Type
  | .hasStrategy _ => Except DatabaseError Bool
  | .hasInstrument _ _ _ => Except DatabaseError Bool
  | .observations _ _ => Except DatabaseError (List ShadowObservation)
  | .samples _ _ => Except DatabaseError (List ShadowTrainingSample)
  | .flush _ _ => Except DatabaseError Unit
  | .commit _ => Except DatabaseError Unit
  | .rollback _ => Unit

/-- The committed tables and what each session has flushed since. -/
structure Store where
  committed : Database := {}
  flushed : ℕ → List Write := fun _ => []

namespace Store

variable (store : Store) (session : ℕ)

/-- What a session sees. -/
def view : Database := store.committed.applyAll (store.flushed session)

/-- The store after a session flushed writes. -/
def afterFlush (writes : List Write) : Store :=
  { store with flushed := Function.update store.flushed session (store.flushed session ++ writes) }

/-- The store after the transaction of a session ended without a commit. -/
def discard : Store := { store with flushed := Function.update store.flushed session [] }

/-- The store after a session committed. -/
def afterCommit : Store := { store.discard session with committed := store.view session }

variable {session} {other : ℕ}

theorem view_afterFlush (writes : List Write) :
    (store.afterFlush session writes).view session = (store.view session).applyAll writes := by
  have own : (store.afterFlush session writes).flushed session =
      store.flushed session ++ writes := Function.update_self session _ _
  rw [view, own, Database.applyAll_append]
  rfl

theorem view_afterFlush_of_ne (apart : other ≠ session) (writes : List Write) :
    (store.afterFlush session writes).view other = store.view other := by
  have same : (store.afterFlush session writes).flushed other = store.flushed other :=
    Function.update_of_ne apart _ _
  rw [view, same]
  rfl

/-- A session whose transaction ended sees what is committed. -/
theorem view_discard : (store.discard session).view session = store.committed := by
  have none : (store.discard session).flushed session = [] := Function.update_self session _ _
  rw [view, none]
  rfl

theorem view_discard_of_ne (apart : other ≠ session) :
    (store.discard session).view other = store.view other := by
  have same : (store.discard session).flushed other = store.flushed other :=
    Function.update_of_ne apart _ _
  rw [view, same]
  rfl

theorem view_afterCommit : (store.afterCommit session).view session = store.view session := by
  have none : (store.afterCommit session).flushed session = [] := Function.update_self session _ _
  rw [view, none]
  rfl

/-- After a commit the other sessions have their flushed writes on top of it. -/
theorem view_afterCommit_of_ne (apart : other ≠ session) :
    (store.afterCommit session).view other =
      (store.view session).applyAll (store.flushed other) := by
  have same : (store.afterCommit session).flushed other = store.flushed other :=
    Function.update_of_ne apart _ _
  rw [view, same]
  rfl

end Store

/-- The surroundings can refuse an operation. -/
structure Environment where
  refuses : Operation → Store → Bool := fun _ _ => false

/-- Ask the tables unless the surroundings refuse. -/
def answer {α : Type} (refused : Bool) (value : α) : Except DatabaseError α :=
  if refused then .error .operational else .ok value

/-- How the database answers. A failed flush or commit ends the transaction. -/
def performer (environment : Environment) : Performer Reply Store
  | .hasStrategy session, store =>
    (answer (environment.refuses (.hasStrategy session) store)
      (decide (0 < (store.view session).strategies)), store)
  | .hasInstrument session market symbol, store =>
    (answer (environment.refuses (.hasInstrument session market symbol) store)
      (decide ((market, symbol) ∈ (store.view session).instruments)), store)
  | .observations session filter, store =>
    (answer (environment.refuses (.observations session filter) store)
      ((store.view session).observations.filter filter.selects), store)
  | .samples session filter, store =>
    (answer (environment.refuses (.samples session filter) store)
      ((store.view session).samples.filter filter.selects), store)
  | .flush session writes, store =>
    if environment.refuses (.flush session writes) store then
      (.error .operational, store.discard session)
    else if (store.view session).AcceptsAll writes then (.ok (), store.afterFlush session writes)
    else (.error .integrity, store.discard session)
  | .commit session, store =>
    if environment.refuses (.commit session) store then
      (.error .operational, store.discard session)
    else if store.committed.AcceptsAll (store.flushed session) then
      (.ok (), store.afterCommit session)
    else (.error .integrity, store.discard session)
  | .rollback session, store => ((), store.discard session)

section Performer

variable (environment : Environment) (store : Store) (session : ℕ)

/-- What may be refused and then accepted is accepted, or ends the transaction. -/
theorem accepted_or_discarded {refused : Bool} {accepts : Prop} [Decidable accepts]
    {unavailable rejected : DatabaseError} {kept discarded : Store} :
    (accepts ∧ (if refused then (.error unavailable, discarded)
        else if accepts then (.ok (), kept) else (.error rejected, discarded)) =
          ((.ok (), kept) : Except DatabaseError Unit × Store)) ∨
      ∃ failed, (if refused then (.error unavailable, discarded)
        else if accepts then (.ok (), kept) else (.error rejected, discarded)) =
          ((.error failed, discarded) : Except DatabaseError Unit × Store) := by
  cases refused with
  | true => exact .inr ⟨unavailable, rfl⟩
  | false =>
    by_cases accepted : accepts
    · exact .inl ⟨accepted, if_pos accepted⟩
    · exact .inr ⟨rejected, if_neg accepted⟩

/-- A flush is accepted, or ends the transaction. -/
theorem performer_flush (writes : List Write) :
    ((store.view session).AcceptsAll writes ∧
      performer environment (.flush session writes) store =
        (.ok (), store.afterFlush session writes)) ∨
    ∃ failed, performer environment (.flush session writes) store =
      (.error failed, store.discard session) :=
  accepted_or_discarded

/-- A commit is accepted, or ends the transaction. -/
theorem performer_commit :
    (store.committed.AcceptsAll (store.flushed session) ∧
      performer environment (.commit session) store = (.ok (), store.afterCommit session)) ∨
    ∃ failed, performer environment (.commit session) store =
      (.error failed, store.discard session) :=
  accepted_or_discarded

end Performer
end AlphaAgent.Shadow
