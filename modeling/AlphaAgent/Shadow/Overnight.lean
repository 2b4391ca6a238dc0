import AlphaAgent.Shadow.Invariants
import Mathlib.Data.Finset.Dedup
import Mathlib.Data.Finset.Order

/-!
# No overnight carry

A cycle first closes what was opened before the local day of its market. What is
then open was opened on this day, and so is what the cycle opens itself; it takes
its marks on the same day.
-/

namespace AlphaAgent.Shadow

open Foundation

namespace MarketDays

/-- A day of a market begins at its midnight: what comes before is on earlier days. -/
def Lawful (days : MarketDays) : Prop :=
  ∀ market day instant, days.midnight market day ≤ instant ↔
    day ≤ days.zones.localDay market instant

variable {days : MarketDays} (lawful : days.Lawful) (market : Market)
include lawful

theorem Lawful.dayStart_le_iff (now instant : ℤ) : days.dayStart market now ≤ instant ↔
    days.zones.localDay market now ≤ days.zones.localDay market instant :=
  lawful market _ instant

theorem Lawful.localDay_mono {first second : ℤ} (inOrder : first ≤ second) :
    days.zones.localDay market first ≤ days.zones.localDay market second := by
  have begun : days.dayStart market first ≤ first :=
    (lawful.dayStart_le_iff market first first).mpr le_rfl
  exact (lawful.dayStart_le_iff market first second).mp (begun.trans inOrder)

end MarketDays

/-- The clock readings of a turn. -/
def Turn.readings (turn : Turn) : List ℤ :=
  [turn.round.recordedAt, turn.round.sampledAt, turn.round.exitedAt]

/-- The clock readings of a cycle, in the order in which it takes them. -/
def Cycle.readings (cycle : Cycle) : List ℤ :=
  cycle.startedAt :: cycle.turns.flatMap Turn.readings

/-- The clock does not go back, within a cycle or from one to the next. -/
def MonotoneClock (calls : List CycleCall) : Prop :=
  (calls.flatMap fun call => call.cycle.readings).Pairwise (· ≤ ·)

/-- Every turn of the cycle is on the local day of its market on which the cycle began. -/
def Cycle.OnOneDay (cycle : Cycle) : Prop :=
  ∀ turn ∈ cycle.turns, ∀ reading ∈ turn.readings,
    cycle.days.zones.localDay turn.market reading =
      cycle.days.zones.localDay turn.market cycle.startedAt

instance (cycle : Cycle) : Decidable cycle.OnOneDay :=
  inferInstanceAs (Decidable (∀ turn ∈ cycle.turns, ∀ reading ∈ turn.readings, _ = _))

instance (calls : List CycleCall) : Decidable (MonotoneClock calls) :=
  inferInstanceAs (Decidable (List.Pairwise _ _))

theorem recordedAt_mem_readings {cycle : Cycle} {turn : Turn} (isTurn : turn ∈ cycle.turns) :
    turn.round.recordedAt ∈ cycle.readings :=
  List.mem_cons_of_mem _ (List.mem_flatMap.mpr ⟨turn, isTurn, List.mem_cons_self⟩)

/-- Some time is after all readings of a run. -/
theorem exists_last (calls : List CycleCall) :
    ∃ last, ∀ call ∈ calls, ∀ reading ∈ call.cycle.readings, reading ≤ last := by
  obtain ⟨last, ended⟩ := (calls.flatMap fun call => call.cycle.readings).toFinset.exists_le
  refine ⟨last, fun call member reading isReading => ended reading ?_⟩
  exact List.mem_toFinset.mpr (List.mem_flatMap.mpr ⟨call, member, isReading⟩)

section Clock

variable {calls : List CycleCall} {call : CycleCall}

theorem MonotoneClock.before (clock : MonotoneClock (calls ++ [call])) : MonotoneClock calls := by
  rw [MonotoneClock, List.flatMap_append] at clock
  exact (List.pairwise_append.mp clock).1

/-- What was opened in earlier cycles was opened before a later one begins. -/
theorem MonotoneClock.openedAt_le (clock : MonotoneClock (calls ++ [call]))
    {row : ShadowObservation}
    (member : row ∈ (afterCycles calls).observations) : row.openedAt ≤ call.cycle.startedAt := by
  obtain ⟨cycle, isCycle, turn, isTurn, opened⟩ := afterCycles_sourced calls row member
  obtain ⟨earlier, isEarlier, rfl⟩ := List.mem_map.mp isCycle
  rw [MonotoneClock, List.flatMap_append] at clock
  have inOrder := (List.pairwise_append.mp clock).2.2
  rw [← opened.openedAt]
  apply inOrder
  · exact List.mem_flatMap.mpr ⟨earlier, isEarlier, recordedAt_mem_readings isTurn⟩
  · rw [List.flatMap_singleton]
    exact List.mem_cons_self

end Clock

/-- What every turn keeps up to its last reading, a cycle whose clock does not go
back keeps up to any time after its readings. -/
theorem CycleSteps.timed {cycle : Cycle} {before after : Database} (holds : ℤ → Database → Prop)
    (mono : ∀ now later tables, now ≤ later → holds now tables → holds later tables)
    (round : ∀ (turn : Turn) (now : ℤ) (before after : Database), Lifecycle before →
      now ≤ turn.round.recordedAt → turn.round.recordedAt ≤ turn.round.sampledAt →
        turn.round.sampledAt ≤ turn.round.exitedAt → holds now before →
          TurnEffect cycle turn before after → holds turn.round.exitedAt after)
    (steps : CycleSteps cycle before after) (lifecycle : Lifecycle before)
    (clock : cycle.readings.Pairwise (· ≤ ·))
    (starts : holds cycle.startedAt (before.opening cycle))
    {last : ℤ} (ended : ∀ reading ∈ cycle.readings, reading ≤ last) : holds last after := by
  have ends := steps.leads (fun rest tables => ∃ time, holds time tables ∧
    (time :: rest.flatMap Turn.readings).Pairwise (· ≤ ·) ∧
      ∀ reading ∈ time :: rest.flatMap Turn.readings, reading ≤ last) ?_
    (lifecycle.opening cycle).1 ⟨cycle.startedAt, starts, clock, ended⟩
  · obtain ⟨time, held, _, within⟩ := ends
    exact mono time last after (within time List.mem_cons_self) held
  · rintro turn rest before after sound ⟨time, held, inOrder, within⟩ effect
    have readings : (turn :: rest).flatMap Turn.readings = turn.round.recordedAt ::
        turn.round.sampledAt :: turn.round.exitedAt :: rest.flatMap Turn.readings := rfl
    rw [readings] at inOrder within
    obtain ⟨afterTime, inOrder⟩ := List.pairwise_cons.mp inOrder
    obtain ⟨afterRecord, inOrder⟩ := List.pairwise_cons.mp inOrder
    obtain ⟨afterSample, inOrder⟩ := List.pairwise_cons.mp inOrder
    refine ⟨turn.round.exitedAt, round turn time before after sound (afterTime _ List.mem_cons_self)
      (afterRecord _ List.mem_cons_self) (afterSample _ List.mem_cons_self) held effect,
      inOrder, ?_⟩
    intro reading member
    exact within reading (List.mem_cons_of_mem _ (List.mem_cons_of_mem _
      (List.mem_cons_of_mem _ member)))

section Day

variable {days : MarketDays} {cycle : Cycle} {before after : Database}

/-- The marks of an observation are of its market, and on the local day on which
it was opened. -/
def MarkedOnItsDay (days : MarketDays) (tables : Database) : Prop :=
  ∀ sample ∈ tables.samples, sample.sampleKind = .intradayMark →
    ∀ row ∈ tables.observations, row.id = sample.observationId → sample.market = row.market ∧
      days.zones.localDay row.market sample.sampleAt = days.zones.localDay row.market row.openedAt

/-- What is open was opened on the day on which the cycle began. -/
def OpenToday (cycle : Cycle) (tables : Database) : Prop :=
  ∀ row ∈ tables.observations, row.isOpen = true →
    cycle.days.zones.localDay row.market row.openedAt =
      cycle.days.zones.localDay row.market cycle.startedAt

@[simp] theorem staleRow_id (market : Market) (row : ShadowObservation) :
    (staleRow cycle market row).id = row.id := by
  rw [staleRow]
  split
  · exact Exit.closed_id cycle _
  · rfl

@[simp] theorem staleRow_market (market : Market) (row : ShadowObservation) :
    (staleRow cycle market row).market = row.market := by
  rw [staleRow]
  split
  · rfl
  · rfl

@[simp] theorem staleRow_openedAt (market : Market) (row : ShadowObservation) :
    (staleRow cycle market row).openedAt = row.openedAt := by
  rw [staleRow]
  split
  · rfl
  · rfl

/-- A row which is open after the close of earlier days was not of an earlier day. -/
theorem staleRow_isOpen {market : Market} {row : ShadowObservation}
    (isOpen : (staleRow cycle market row).isOpen = true) : staleRow cycle market row = row ∧
      (row.market = market → cycle.days.dayStart market cycle.startedAt ≤ row.openedAt) := by
  rw [staleRow] at isOpen ⊢
  split at isOpen
  · cases isOpen
  · next recent =>
    rw [if_neg recent]
    refine ⟨rfl, fun inMarket => ?_⟩
    simpa [ObservationFilter.selects, inMarket, isOpen] using recent

/-- After the close of earlier days, what is open was opened on the day of the cycle. -/
theorem openToday_opening (lawful : cycle.days.Lawful) (lifecycle : Lifecycle before)
    (earlier : ∀ row ∈ before.observations, row.openedAt ≤ cycle.startedAt) :
    OpenToday cycle (before.opening cycle) := by
  intro row member isOpen
  rw [opening_observations lifecycle] at member
  obtain ⟨old, oldMember, rfl⟩ := List.mem_map.mp member
  rw [Function.comp_apply] at isOpen ⊢
  obtain ⟨sameUs, recentUs⟩ := staleRow_isOpen isOpen
  rw [sameUs] at isOpen ⊢
  obtain ⟨sameIndia, recentIndia⟩ := staleRow_isOpen isOpen
  rw [sameIndia] at recentUs ⊢
  have recent : cycle.days.dayStart old.market cycle.startedAt ≤ old.openedAt := by
    cases market : old.market with
    | india => exact recentIndia market
    | us => exact recentUs market
  exact le_antisymm (lawful.localDay_mono old.market (earlier old oldMember))
    ((lawful.dayStart_le_iff old.market cycle.startedAt old.openedAt).mp recent)

theorem MarkedOnItsDay.opening (onItsDay : MarkedOnItsDay days before)
    (lifecycle : Lifecycle before) : MarkedOnItsDay days (before.opening cycle) := by
  intro sample member kind row rowMember owner
  obtain ⟨closes, grown, exits⟩ := opening_samples before cycle
  rw [grown] at member
  rw [opening_observations lifecycle] at rowMember
  obtain ⟨old, oldMember, rfl⟩ := List.mem_map.mp rowMember
  simp only [Function.comp_apply, staleRow_id, staleRow_market, staleRow_openedAt] at owner ⊢
  rcases List.mem_append.mp member with earlier | closing
  · exact onItsDay sample earlier kind old oldMember owner
  · rw [exits sample closing] at kind
    cases kind

variable {turn : Turn}

/-- What a turn opens, it opens on the day of the cycle. -/
theorem TurnEffect.openToday (effect : TurnEffect cycle turn before after)
    (today : ∀ reading ∈ turn.readings, cycle.days.zones.localDay turn.market reading =
      cycle.days.zones.localDay turn.market cycle.startedAt)
    (holds : OpenToday cycle before) : OpenToday cycle after := by
  intro row member isOpen
  cases effect.row member with
  | kept old => exact holds row old isOpen
  | opened quoted positive new fresh recorded =>
    rw [recorded, recordedRow_market, recordedRow_openedAt, new]
    exact today _ List.mem_cons_self
  | @marked _ _ earlier _ quoted positive held wasOpen market new recorded =>
    rw [recorded, recordedRow_market, recordedRow_openedAt, new]
    exact holds earlier held wasOpen

/-- A mark is on the day of the cycle, which is the day of what is open. -/
theorem TurnEffect.markedOnItsDay (effect : TurnEffect cycle turn before after)
    (lifecycle : Lifecycle before)
    (today : ∀ reading ∈ turn.readings, cycle.days.zones.localDay turn.market reading =
      cycle.days.zones.localDay turn.market cycle.startedAt)
    (isToday : OpenToday cycle before) (holds : MarkedOnItsDay cycle.days before) :
    MarkedOnItsDay cycle.days after := by
  have sampledToday := today turn.round.sampledAt (List.mem_cons_of_mem _ List.mem_cons_self)
  have recordedToday := today turn.round.recordedAt List.mem_cons_self
  intro sample member kind row rowMember owner
  cases effect.row rowMember with
  | kept oldRow samples others =>
    rw [samples] at member
    rcases List.mem_append.mp member with oldSample | newSample
    · exact holds sample oldSample kind row oldRow owner
    · exact absurd owner.symm (others sample newSample)
  | opened quoted positive new fresh recorded samples =>
    rw [recorded, recordedRow_id] at owner
    rw [recorded, recordedRow_market, recordedRow_openedAt]
    rw [samples] at member
    rcases List.mem_append.mp member with oldSample | newSample
    · exact absurd (owner ▸ lifecycle.owned sample oldSample) fresh
    · subst new
      rcases mem_recordedSamples _ _ _ _ _ newSample with rfl | ⟨_, rfl⟩
      · exact ⟨rfl, sampledToday.trans recordedToday.symm⟩
      · cases kind
  | @marked _ _ earlier observation quoted positive held wasOpen market new recorded samples =>
    rw [recorded, recordedRow_id] at owner
    rw [recorded, recordedRow_market, recordedRow_openedAt]
    rw [samples] at member
    rcases List.mem_append.mp member with oldSample | newSample
    · have sameId : observation.id = earlier.id := by rw [new, assigned_id]
      rw [new]
      exact holds sample oldSample kind earlier held (sameId.symm.trans owner)
    · subst new
      rcases mem_recordedSamples _ _ _ _ _ newSample with rfl | ⟨_, rfl⟩
      · refine ⟨rfl, ?_⟩
        have openedToday := isToday earlier held wasOpen
        rw [market] at openedToday
        rw [assigned_market, market]
        exact sampledToday.trans openedToday.symm
      · cases kind

theorem CycleSteps.markedOnItsDay (steps : CycleSteps cycle before after)
    (lifecycle : Lifecycle before) (lawful : cycle.days.Lawful) (oneDay : cycle.OnOneDay)
    (earlier : ∀ row ∈ before.observations, row.openedAt ≤ cycle.startedAt)
    (holds : MarkedOnItsDay cycle.days before) : MarkedOnItsDay cycle.days after := by
  have ends := steps.keeps
    (fun tables => OpenToday cycle tables ∧ MarkedOnItsDay cycle.days tables) ?_
    (lifecycle.opening cycle).1
    ⟨openToday_opening lawful lifecycle earlier, holds.opening lifecycle⟩
  · exact ends.2
  · intro turn isTurn before after sound ⟨isToday, onItsDay⟩ effect
    exact ⟨effect.openToday (oneDay turn isTurn) isToday,
      effect.markedOnItsDay sound (oneDay turn isTurn) isToday onItsDay⟩

end Day

/-- After any serial run with a clock that does not go back, in which each cycle
stays on one local day, marks are on the day of their observation. -/
theorem afterCycles_markedOnItsDay {days : MarketDays} (lawful : days.Lawful)
    (calls : List CycleCall) (sameDays : ∀ call ∈ calls, call.cycle.days = days)
    (oneDay : ∀ call ∈ calls, call.cycle.OnOneDay) (clock : MonotoneClock calls) :
    MarkedOnItsDay days (afterCycles calls) := by
  refine afterCycles_induction (fun calls tables => (∀ call ∈ calls, call.cycle.days = days) →
    (∀ call ∈ calls, call.cycle.OnOneDay) → MonotoneClock calls → MarkedOnItsDay days tables)
    ?_ ?_ calls sameDays oneDay clock
  · intro _ _ _ sample member
    cases member
  · intro calls call after ih ends sameDays oneDay clock
    have before := ih (fun earlier member => sameDays earlier (List.mem_append_left _ member))
      (fun earlier member => oneDay earlier (List.mem_append_left _ member)) clock.before
    have isLast : call ∈ calls ++ [call] := List.mem_append_right _ (List.mem_singleton_self call)
    obtain rfl := sameDays call isLast
    rcases ends with steps | same
    · exact steps.markedOnItsDay (afterCycles_sound calls) lawful (oneDay call isLast)
        (fun row member => clock.openedAt_le member) before
    · rwa [same]

/-- What the close of earlier days leaves: no open observation of them, and exit
samples before the day begins and not after the last mark. -/
structure DayClosed (market : Market) (dayStart : ℤ) (before after : Database) : Prop where
  openRows : ∀ row ∈ after.observations, row.market = market → row.isOpen = true →
    dayStart ≤ row.openedAt
  exits : ∃ closes, after.samples = before.samples ++ closes ∧ ∀ sample ∈ closes,
    sample.sampleAt < dayStart ∧ ∃ row ∈ after.observations, row.id = sample.observationId ∧
      sample.sampleAt ≤ row.lastMarkedAt

theorem dayClosed_afterStale {database : Database} (cycle : Cycle) (market : Market)
    (distinct : (database.observations.map ShadowObservation.id).Nodup) :
    DayClosed market (cycle.days.dayStart market cycle.startedAt) database
      (database.afterStale cycle market) where
  openRows := by
    intro row member inMarket isOpen
    rw [afterStale_observations cycle market distinct] at member
    obtain ⟨earlier, -, rfl⟩ := List.mem_map.mp member
    obtain ⟨same, recent⟩ := staleRow_isOpen isOpen
    rw [same] at inMarket ⊢
    exact recent inMarket
  exits := by
    refine ⟨_, afterStale_samples cycle market, ?_⟩
    intro sample member
    obtain ⟨row, isStale, rfl⟩ := List.mem_map.mp member
    obtain ⟨rowMember, selected⟩ := List.mem_filter.mp isStale
    have closed : staleRow cycle market row =
        (staleExit (cycle.days.dayStart market cycle.startedAt) row).closed cycle := if_pos selected
    refine ⟨?_, staleRow cycle market row, ?_, staleRow_id market row, ?_⟩
    · exact (min_le_right _ _).trans_lt (Int.sub_one_lt_of_le le_rfl)
    · rw [afterStale_observations cycle market distinct]
      exact List.mem_map_of_mem rowMember
    · rw [closed]
      exact min_le_left _ _

/-- No overnight carry. Over every serial run with a clock that does not go back,
in which each cycle stays on one local day of its markets, the marks of one
observation are all on one local day; and from any state of a session in which
nothing pending concerns the market, the close of earlier days leaves no open
observation of them and stamps its exits before the day, not after the last mark. -/
theorem noOvernightCarry (days : MarketDays) (lawful : days.Lawful) :
    (∀ calls : List CycleCall, (∀ call ∈ calls, call.cycle.days = days) →
      (∀ call ∈ calls, call.cycle.OnOneDay) → MonotoneClock calls →
        ∀ first ∈ (afterCycles calls).samples, ∀ second ∈ (afterCycles calls).samples,
          first.observationId = second.observationId → first.sampleKind = .intradayMark →
            second.sampleKind = .intradayMark → first.market = second.market ∧
              days.zones.localDay first.market first.sampleAt =
                days.zones.localDay second.market second.sampleAt) ∧
    ∀ (session : ℕ) (base tables : Database) (cycle : Cycle) (market : Market),
      (tables.observations.map ShadowObservation.id).Nodup →
        Work.Triple serialContract
          (fun pending store => At session base tables pending store ∧
            Untouched (store.view session) market pending)
          (closeStaleIntradayObservations session cycle market)
          (fun _ pending store => DayClosed market (cycle.days.dayStart market cycle.startedAt)
            tables (store.resulting session pending))
          fun _ _ _ => True := by
  constructor
  · intro calls sameDays oneDay clock first isFirst second isSecond same firstKind secondKind
    have onItsDay := afterCycles_markedOnItsDay lawful calls sameDays oneDay clock
    obtain ⟨row, member, owner⟩ :=
      List.mem_map.mp ((afterCycles_sound calls).owned first isFirst)
    obtain ⟨firstMarket, firstDay⟩ := onItsDay first isFirst firstKind row member owner
    obtain ⟨secondMarket, secondDay⟩ :=
      onItsDay second isSecond secondKind row member (owner.trans same)
    refine ⟨firstMarket.trans secondMarket.symm, ?_⟩
    rw [firstMarket, secondMarket]
    exact firstDay.trans secondDay.symm
  · rintro session base tables cycle market distinct pending store ⟨standing, untouched⟩
    have closes : Spec base (fun _ _ => True)
        (Over session base (store.view session) tables pending)
        (closeStaleIntradayObservations session cycle market) fun _ =>
          Over session base (store.view session) (tables.afterStale cycle market)
            (pending ++ tables.staleWrites cycle market) :=
      closeStaleIntradayObservations_spec cycle market untouched
    refine (closes.consequence (fun _ _ holds => holds) ?_ fun _ _ _ _ => trivial) pending store
      ⟨rfl, rfl, standing⟩
    intro _ last after holds
    rw [holds.standing.resulting]
    exact dayClosed_afterStale cycle market distinct

theorem summerDays_lawful : summerDays.Lawful := by
  intro market day instant
  have positive : 0 < microsecondsPerDay := by decide
  have begins : summerDays.midnight market day =
      day * microsecondsPerDay - MarketZones.summer market instant := by
    cases market with
    | india => rfl
    | us => rfl
  have localDay : summerDays.zones.localDay market instant =
      (instant + MarketZones.summer market instant) / microsecondsPerDay := rfl
  rw [begins, localDay, Int.le_ediv_iff_mul_le positive]
  exact sub_le_iff_le_add

/-- An observation which is opened and marked on one day, and a cycle of the next day. -/
def overnightRun : List CycleCall :=
  [tcsCall 1778663700000000 100 ⟨.buy, some 95, some 110⟩ "first",
    tcsCall 1778663760000000 101 ⟨.hold, some 96, some 111⟩ "second",
    tcsCall 1778750100000000 102 ⟨.buy, some 97, some 112⟩ "third"]

def overnightCycle : Cycle := (tcsCall 1778750100000000 102 ⟨.buy, some 97, some 112⟩ "third").cycle

theorem noOvernightCarry_tcs :
    (∀ first ∈ (afterCycles overnightRun).samples, ∀ second ∈ (afterCycles overnightRun).samples,
      first.observationId = second.observationId → first.sampleKind = .intradayMark →
        second.sampleKind = .intradayMark → first.market = second.market ∧
          summerDays.zones.localDay first.market first.sampleAt =
            summerDays.zones.localDay second.market second.sampleAt) ∧
    Work.Triple serialContract
      (fun pending store => At 0 (afterCycles (overnightRun.take 2))
        (afterCycles (overnightRun.take 2)) pending store ∧ Untouched (store.view 0) .india pending)
      (closeStaleIntradayObservations 0 overnightCycle .india)
      (fun _ pending store => DayClosed .india
        (overnightCycle.days.dayStart .india overnightCycle.startedAt)
        (afterCycles (overnightRun.take 2)) (store.resulting 0 pending))
      fun _ _ _ => True := by
  have carries := noOvernightCarry summerDays summerDays_lawful
  refine ⟨carries.1 overnightRun ?_ (by decide +kernel) (by decide +kernel), ?_⟩
  · intro call member
    simp only [overnightRun, List.mem_cons, List.not_mem_nil, or_false] at member
    rcases member with rfl | rfl | rfl
    · rfl
    · rfl
    · rfl
  · exact carries.2 0 _ _ overnightCycle .india (afterCycles_sound _).distinct

/-- The observation of the first day is closed at its last mark. -/
example : ((afterCycles overnightRun).samples.filter (·.sampleKind = .shadowExit)).map
    (·.sampleAt) = [1778663760000001] := by decide +kernel

end AlphaAgent.Shadow
