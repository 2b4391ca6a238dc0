import AlphaAgent.Shadow.OneOpen
import AlphaAgent.Shadow.Queries
import AlphaAgent.Shadow.Rounds

/-!
# Interleaved cycles

A cycle inserts under the contract: what it flushes holds at most one insertion
for a key, and one only while its last lookup of the key found nothing. Any
number of cycles, each in a session of its own, perform their operations in any
order; where no commit is challenged, there is at most one open observation.
-/

namespace AlphaAgent.Shadow

open Foundation

section Discipline

variable (key : ObservationKey)

/-- What is pending inserts nothing for the key. -/
def Sent (pending : List Write) (_missed : Bool) : Prop := insertions key pending = 0

/-- What is pending may be flushed. -/
def Within (pending : List Write) (missed : Bool) : Prop :=
  insertions key pending = 0 ∨ missed = true ∧ insertions key pending = 1

variable {key} {pending : List Write} {missed : Bool}

theorem Sent.within (sent : Sent key pending missed) : Within key pending missed := .inl sent

theorem insertions_concat (key : ObservationKey) (pending : List Write) (entry : Write) :
    insertions key (pending ++ [entry]) =
      insertions key pending + if entry.inserts key then 1 else 0 := by
  rw [insertions, List.countP_append, List.countP_singleton]
  rfl

/-- Writing what inserts nothing for the key. -/
theorem Within.quiet (within : Within key pending missed) {entry : Write}
    (quiet : entry.inserts key = false) : Within key (pending ++ [entry]) missed := by
  rw [Within, insertions_concat, quiet]
  exact within

/-- A lookup of the key which found nothing, with nothing pending for the key. -/
def LookedUp (key : ObservationKey) (market : Market) (symbol : String)
    (objects : List ShadowObservation) (pending : List Write) (missed : Bool) : Prop :=
  Sent key pending missed ∧ (objects = [] → key = ⟨market, symbol⟩ → missed = true)

/-- An observation is inserted for the key only after the lookup found nothing. -/
theorem LookedUp.opens {observation : ShadowObservation}
    (looked : LookedUp key observation.market observation.symbol [] pending missed) :
    Within key (pending ++ [.addObservation observation]) missed := by
  obtain ⟨sent, remembered⟩ := looked
  have count := insertions_concat key pending (.addObservation observation)
  rw [show insertions key pending = 0 from sent, Nat.zero_add] at count
  by_cases inserts : (Write.addObservation observation).inserts key = true
  · rw [if_pos inserts] at count
    exact .inr ⟨remembered rfl (key_of_selects inserts), count⟩
  · rw [if_neg inserts] at count
    exact .inl count

/-- The contract remembers nothing of a query other than a lookup. -/
theorem answers_isQuery {session : ℕ} {op : Operation} (isQuery : op.isQuery = true)
    {reply : Reply op} {after : Bool}
    (answered : (insertContract key session).answers missed op reply after) : after = missed := by
  have other : foundNothing key op reply = false := by
    cases op with
    | observations own filter =>
      cases filter with
      | openFor => cases isQuery
      | _ => cases reply <;> rfl
    | _ => rfl
  cases op with
  | flush | commit | rollback => cases isQuery
  | _ =>
    have next : after = (missed || foundNothing key _ reply) := answered
    rw [next, other, Bool.or_false]

/-- What is pending inserts at most once, and only after a lookup. -/
def insertDiscipline (key : ObservationKey) (session : ℕ) :
    Discipline (insertContract key session) session where
  kept _ := Within key
  owing _ _ := Within key
  flushed _ := Sent key
  looked market symbol objects _ := LookedUp key market symbol objects
  fewer within := within
  kept_of_flushed sent := sent.within
  kept_of_looked looked := looked.1.within
  asks_query {_ op} isQuery := by
    cases op with
    | observations own filter =>
      rintro rfl
      cases isQuery
    | flush | commit | rollback => cases isQuery
    | _ => trivial
  answers_query isQuery answered := answers_isQuery isQuery answered
  asks_flush within := ⟨rfl, within⟩
  answers_flush _ _ := rfl
  asks_flush_owing within := ⟨rfl, within⟩
  answers_flush_owing _ _ := .inl rfl
  asks_lookup _ _ := rfl
  answers_lookup {market symbol _ pending missed rows after} sent answered := by
    refine ⟨sent, fun none same => ?_⟩
    obtain rfl : rows = [] := List.map_eq_nil_iff.mp none
    subst same
    have next : after = (missed || foundNothing ⟨market, symbol⟩
      (.observations session (.openFor market symbol)) (Except.ok [])) := answered
    rw [next, foundNothing]
    simp [ObservationKey.lookup]
  quiet {_ _ _ entry} _ unassigned within := by
    refine within.quiet ?_
    cases entry with
    | addObservation observation => cases unassigned
    | _ => rfl
  opens looked := looked.opens
  marks within := within.quiet rfl
  samples _ within := within.quiet rfl
  asks_commit _ := rfl
  asks_rollback := rfl

end Discipline

section Cycles

/-- A cycle in a session of its own. -/
def cycleProgram (session : ℕ) (cycle : Cycle) :
    Program Reply (Except RaisedError Unit × List Write) :=
  StateT.run (runCycle session cycle).run []

/-- Cycles at their start, on empty tables. -/
def startCycles (cycles : List Cycle) :
    Watched Reply (Except RaisedError Unit × List Write) Store (ℕ → Bool) :=
  ⟨Pool.start (cycles.mapIdx cycleProgram) {}, fun _ => true⟩

theorem startCycles_holds (key : ObservationKey) (cycles : List Cycle) :
    Watched.Holds (insertContract key) (OneOpen key) (startCycles cycles) fun _ => false where
  programs := by
    intro session program located
    rw [startCycles, Pool.start, List.getElem?_mapIdx, Option.map_eq_some_iff] at located
    obtain ⟨cycle, _, rfl⟩ := located
    exact ((insertDiscipline key session).runCycle_keeps cycle [] false (.inl rfl)).mono
      fun _ _ _ => trivial
  invariant :=
    { committed := Nat.zero_le 1
      seen := fun _ _ => Nat.zero_le 1
      absent := fun _ _ _ => rfl }

/-- In every interleaving of cycles in which no commit of an opened observation is
challenged, at most one open observation is committed for the key at any time. -/
theorem interleaved_oneOpen (key : ObservationKey) (cycles : List Cycle)
    (schedule : List (ℕ × Environment))
    (unchallenged : AtEachCall (Watched.turn performer (abreastAfter key))
      (Watched.Permitted (Unchallenged key)) (startCycles cycles) schedule) :
    Throughout (Watched.turn performer (abreastAfter key))
      (fun watched => watched.pool.shared.committed.openCount key ≤ 1)
      (startCycles cycles) schedule :=
  (startCycles_holds key cycles).throughout (oneOpen_preserves key)
    (fun _ _ holds => holds.committed) unchallenged

/-- A cycle which quotes one symbol. -/
def quotingCycle (action : TradeAction) (observationId : String) : Cycle where
  days := ⟨.summer, fun market day => day * microsecondsPerDay - MarketZones.summer market 0⟩
  startedAt := 1778663700000000
  indiaRounds :=
    [{ symbol := "TCS"
       quote := .ok (some 100, ⟨action, some 95, some 110⟩)
       signalId := "signal"
       observationId
       newsBlocks := .ok false
       recordedAt := 1778663700000000
       sampledAt := 1778663700000001
       exitedAt := 1778663700000002 }]

/-- The first cycle sets up the strategy and the instrument, the others buy. -/
def rivalCycles : List Cycle :=
  [quotingCycle .hold "first", quotingCycle .buy "second", quotingCycle .buy "third"]

def undisturbed : Environment := {}

def oneByOne : List (ℕ × Environment) :=
  List.replicate 10 (0, undisturbed) ++ List.replicate 14 (1, undisturbed) ++
    List.replicate 14 (2, undisturbed)

/-- The buying cycles look the symbol up, and both find nothing, before either commits. -/
def takingTurns : List (ℕ × Environment) :=
  List.replicate 10 (0, undisturbed) ++
    (List.replicate 14 [(1, undisturbed), (2, undisturbed)]).flatten

theorem interleaved_oneOpen_serial :
    Throughout (Watched.turn performer (abreastAfter ⟨.india, "TCS"⟩))
      (fun watched => watched.pool.shared.committed.openCount ⟨.india, "TCS"⟩ ≤ 1)
      (startCycles rivalCycles) oneByOne :=
  interleaved_oneOpen ⟨.india, "TCS"⟩ rivalCycles _ (by decide +kernel)

theorem interleaved_twoOpen :
    ¬Throughout (Watched.turn performer (abreastAfter ⟨.india, "TCS"⟩))
      (fun watched => watched.pool.shared.committed.openCount ⟨.india, "TCS"⟩ ≤ 1)
      (startCycles rivalCycles) takingTurns := by
  decide +kernel

end Cycles

end AlphaAgent.Shadow
