import AlphaAgent.Shadow.OpenRows

/-!
# What a cycle does to the tables

A completed cycle closes what earlier days left open and then takes a turn for
each symbol. A turn leaves the observations as they are, or it opens or marks
one, records its sample and closes it where the exit policy says so. The steps
here say this about the tables alone; that `run_cycle` takes them, and no
others, is proved of its sessions.
-/

namespace AlphaAgent.Shadow

open Foundation

/-- One round of a loop with its market and the rate of its prices. -/
structure Turn where
  market : Market
  fxRate : ℚ
  round : SymbolRound

namespace Cycle

variable (cycle : Cycle)

/-- The turns of `_run_india_cycle`. -/
def indiaTurns : List Turn :=
  if cycle.indiaOpen then cycle.indiaRounds.map (Turn.mk .india 1) else []

/-- The turns of `_run_us_cycle`, which needs a fresh rate. -/
def usTurns : List Turn :=
  if cycle.usOpen then
    match cycle.usdInr with
    | .ok ⟨some rate, true⟩ => cycle.usRounds.map (Turn.mk .us rate)
    | _ => []
  else []

def turns : List Turn := cycle.indiaTurns ++ cycle.usTurns

end Cycle

/-- The arguments of `_close_shadow_observation`. -/
structure Exit where
  observation : ShadowObservation
  signalId : String
  assessment : Assessment
  fxRate : ℚ
  now : ℤ
  decision : ShadowExitDecision

namespace Exit

variable (cycle : Cycle) (exit : Exit)

def record : ShadowExit := shadowExitOf exit.observation exit.now exit.decision

def closing : Closing := closingOf cycle exit.observation exit.assessment exit.now exit.decision

def sample : ShadowTrainingSample :=
  sampleOf exit.observation exit.signalId exit.now exit.fxRate exit.assessment .shadowExit
    (some exit.record)

/-- What a close writes. -/
def writes : List Write :=
  [.assign exit.observation.id (.close (exit.closing cycle)), .addSample exit.sample]

/-- The observation as it is closed. -/
def closed : ShadowObservation := exit.observation.assigned (.close (exit.closing cycle))

end Exit

/-- The close of an observation of an earlier day. -/
def staleExit (dayStart : ℤ) (observation : ShadowObservation) : Exit where
  observation
  signalId := observation.signalId
  assessment := observation.metadataJson.latestAssessment
  fxRate := observation.metadataJson.usdInr
  now := min observation.lastMarkedAt (dayStart - 1)
  decision := { action := .exitSessionClose }

/-- The close which the exit policy decides on in a turn. -/
def turnExit (turn : Turn) (assessment : Assessment) (observation : ShadowObservation)
    (decision : ShadowExitDecision) : Exit where
  observation
  signalId := turn.round.signalId
  assessment
  fxRate := turn.fxRate
  now := turn.round.exitedAt
  decision

/-- The sample of a mark. -/
def markSample (turn : Turn) (assessment : Assessment) (observation : ShadowObservation) :
    ShadowTrainingSample :=
  sampleOf observation turn.round.signalId turn.round.sampledAt turn.fxRate assessment
    .intradayMark none

namespace Database

variable (database : Database)

def withStrategy : Database :=
  if 0 < database.strategies then database else database.apply .addStrategy

def withInstrument (market : Market) (symbol : String) : Database :=
  if database.instruments.contains (market, symbol) then database
  else database.apply (.addInstrument market symbol)

/-- The open observations of earlier days. -/
def stale (market : Market) (dayStart : ℤ) : List ShadowObservation :=
  database.observations.filter (ObservationFilter.staleIn market dayStart).selects

/-- What `_close_stale_intraday_observations` writes. -/
def staleWrites (cycle : Cycle) (market : Market) : List Write :=
  let dayStart := cycle.days.dayStart market cycle.startedAt
  (database.stale market dayStart).flatMap fun row => (staleExit dayStart row).writes cycle

/-- The tables after their observations of earlier days are closed. -/
def afterStale (cycle : Cycle) (market : Market) : Database :=
  database.applyAll (database.staleWrites cycle market)

end Database

/-- The observation which a lookup finds. -/
def openFor (rows : List ShadowObservation) (market : Market) (symbol : String) :
    Option ShadowObservation :=
  (rows.filter (ObservationFilter.openFor market symbol).selects).head?

/-- Until when the latest close blocks a new observation. -/
def reentryBlock (cycle : Cycle) (rows : List ShadowObservation) (market : Market)
    (symbol : String) (now : ℤ) : Option ℤ :=
  if cycle.settings.intradayReentryCooldownMinutes ≤ 0 then none
  else
    (descending ShadowObservation.lastMarkedAt
      (rows.filter (ObservationFilter.closedFor market symbol).selects)).head?.bind fun latest =>
        latest.metadataJson.reentryBlockedUntil.filter (now < ·)

section Exits

variable (cycle : Cycle) (samples : List ShadowTrainingSample) (observation : ShadowObservation)

/-- The exit decision on an observation whose earlier samples are among these. -/
def exitDecision : ShadowExitDecision :=
  let decision := evaluateObservation cycle.exitSettings observation
  if decision.action ∈ closeActions then decision
  else
    (profitPathExitDecision cycle.settings observation
      ((samples.filter (SampleFilter.ofObservation observation.id).selects).insertionSort
        fun first second => first.sampleAt ≤ second.sampleAt)).getD decision

/-- The exit policy closes the observation. -/
def Exits : Prop :=
  cycle.settings.intradayShadowExitEnabled = true ∧ observation.isOpen = true ∧
    (exitDecision cycle samples observation).action ∈ closeActions

instance : Decidable (Exits cycle samples observation) := inferInstanceAs (Decidable (_ ∧ _))

variable (turn : Turn) (assessment : Assessment)

/-- The close of an observation, where the exit policy closes it. -/
def recordExit : Option Exit :=
  if Exits cycle samples observation then
    some (turnExit turn assessment observation (exitDecision cycle samples observation))
  else none

/-- What a turn writes once its observation is entered or marked. -/
def recordWrites : List Write :=
  .addSample (markSample turn assessment observation) ::
    ((recordExit cycle samples observation turn assessment).elim [] (Exit.writes cycle))

end Exits

/-- What `_record_shadow_observation` does first: it opens an observation where
none is open and nothing blocks it, or marks the open one. -/
inductive Entry (cycle : Cycle) (turn : Turn) (lastPrice : ℚ) (assessment : Assessment)
    (rows : List ShadowObservation) : ShadowObservation → Write → Prop
  | opened (absent : openFor rows turn.market turn.round.symbol = none)
      (buys : assessment.action = .buy)
      (unblocked : reentryBlock cycle rows turn.market turn.round.symbol
        turn.round.recordedAt = none) :
      Entry cycle turn lastPrice assessment rows
        (newObservation cycle turn.market turn.fxRate turn.round lastPrice assessment)
        (.addObservation
          (newObservation cycle turn.market turn.fxRate turn.round lastPrice assessment))
  | marked {observation : ShadowObservation}
      (found : openFor rows turn.market turn.round.symbol = some observation) :
      Entry cycle turn lastPrice assessment rows
        (observation.assigned
          (.mark (markOf cycle turn.fxRate turn.round lastPrice assessment observation)))
        (.assign observation.id
          (.mark (markOf cycle turn.fxRate turn.round lastPrice assessment observation)))

/-- What one turn can do to the tables. -/
inductive TurnStep (cycle : Cycle) (turn : Turn) (before : Database) : Database → Prop
  | blocked : TurnStep cycle turn before before
  | watched : TurnStep cycle turn before (before.withInstrument turn.market turn.round.symbol)
  | recorded {lastPrice : ℚ} {assessment : Assessment} {observation : ShadowObservation}
      {entry : Write} (quoted : turn.round.quote = .ok (some lastPrice, assessment))
      (positive : 0 < lastPrice)
      (enters : Entry cycle turn lastPrice assessment before.observations observation entry)
      (accepted : before.Accepts entry) :
      TurnStep cycle turn before
        (((before.withInstrument turn.market turn.round.symbol).apply entry).applyAll
          (recordWrites cycle before.samples observation turn assessment))

/-- The turns of a cycle, one after the other. -/
inductive Turns (cycle : Cycle) : List Turn → Database → Database → Prop
  | nil {tables : Database} : Turns cycle [] tables tables
  | cons {turn : Turn} {rest : List Turn} {before between after : Database}
      (step : TurnStep cycle turn before between) (steps : Turns cycle rest between after) :
      Turns cycle (turn :: rest) before after

/-- The tables when the turns of a cycle begin. -/
def Database.opening (database : Database) (cycle : Cycle) : Database :=
  (database.withStrategy.afterStale cycle .india).afterStale cycle .us

/-- What a completed cycle does to the committed tables. -/
def CycleSteps (cycle : Cycle) (base after : Database) : Prop :=
  Turns cycle cycle.turns (base.opening cycle) after

section Setup

variable (database : Database)

@[simp] theorem withStrategy_observations :
    database.withStrategy.observations = database.observations := by
  rw [Database.withStrategy]
  split
  · rfl
  · rfl

@[simp] theorem withStrategy_samples : database.withStrategy.samples = database.samples := by
  rw [Database.withStrategy]
  split
  · rfl
  · rfl

variable (market : Market) (symbol : String)

@[simp] theorem withInstrument_observations :
    (database.withInstrument market symbol).observations = database.observations := by
  rw [Database.withInstrument]
  split
  · rfl
  · rfl

@[simp] theorem withInstrument_samples :
    (database.withInstrument market symbol).samples = database.samples := by
  rw [Database.withInstrument]
  split
  · rfl
  · rfl

end Setup

theorem Turns.append {cycle : Cycle} {first second : List Turn} {before between after : Database}
    (starts : Turns cycle first before between) (continues : Turns cycle second between after) :
    Turns cycle (first ++ second) before after := by
  induction starts with
  | nil => exact continues
  | cons step _ ih => exact .cons step (ih continues)

end AlphaAgent.Shadow
