import AlphaAgent.Shadow.Overnight
import Mathlib.Data.List.Pairwise

/-!
# The re-entry cooldown

The service recovers the cooldown from the metadata of whichever closed
observation of the symbol was marked last. Under a clock which goes on from one
cycle to the next this is the latest one: the observations of a symbol follow each
other, with the cooldown between an intraday exit and the next entry.
-/

namespace AlphaAgent.Shadow

open Foundation

/-- The clock does not go back, and moves on between cycles: a cycle begins strictly
later than all which the earlier ones read, where `MonotoneClock` lets it begin with
the last of these. -/
structure SerialClock (calls : List CycleCall) : Prop where
  monotone : MonotoneClock calls
  serial : calls.Pairwise fun earlier later =>
    ∀ reading ∈ earlier.cycle.readings, reading < later.cycle.startedAt

section Rows

variable {cooldown now : ℤ}

/-- An exit which blocks a new entry until the cooldown is over. -/
structure BlockingExit (cooldown now : ℤ) (row : ShadowObservation) (exit : ShadowExit) : Prop where
  recorded : row.metadataJson.shadowExit = some exit
  status : row.status = .closed (closedStatus exit.action)
  blocks : row.metadataJson.reentryBlockedUntil = some (exit.exitedAt + cooldown)
  exited : exit.exitedAt ≤ now
  marked : exit.action ∈ closeActions ∧ row.lastMarkedAt ≤ exit.exitedAt ∨
    exit.action = .exitSessionClose ∧ row.lastMarkedAt < now

/-- What the times of a row say, up to now. -/
structure RowTimes (cooldown now : ℤ) (row : ShadowObservation) : Prop where
  opened : row.openedAt ≤ row.lastMarkedAt
  marked : row.lastMarkedAt ≤ now
  closed : row.isOpen = false → ∃ exit, BlockingExit cooldown now row exit

/-- One observation of a symbol comes after another, which is closed, and after
its cooldown where an intraday exit closed it. -/
structure Follows (cooldown : ℤ) (first second : ShadowObservation) : Prop where
  closed : first.isOpen = false
  order : first.openedAt ≤ second.openedAt
  marks : 0 < cooldown → first.lastMarkedAt < second.openedAt
  waits : ∀ exit, first.metadataJson.shadowExit = some exit → exit.action ∈ closeActions →
    exit.exitedAt + cooldown ≤ second.openedAt

/-- Of rows of one symbol, the later one follows the earlier one. -/
def FollowsInTurn (cooldown : ℤ) (first second : ShadowObservation) : Prop :=
  first.market = second.market → first.symbol = second.symbol → Follows cooldown first second

/-- The rows have their times, and those of one symbol follow each other. -/
structure Cooled (cooldown now : ℤ) (rows : List ShadowObservation) : Prop where
  times : ∀ row ∈ rows, RowTimes cooldown now row
  inTurn : rows.Pairwise (FollowsInTurn cooldown)

theorem RowTimes.mono {row : ShadowObservation} (times : RowTimes cooldown now row) {later : ℤ}
    (inOrder : now ≤ later) : RowTimes cooldown later row := by
  refine ⟨times.opened, times.marked.trans inOrder, fun isClosed => ?_⟩
  obtain ⟨exit, blocking⟩ := times.closed isClosed
  refine ⟨exit, blocking.recorded, blocking.status, blocking.blocks,
    blocking.exited.trans inOrder, ?_⟩
  rcases blocking.marked with intraday | ⟨session, marked⟩
  · exact .inl intraday
  · exact .inr ⟨session, marked.trans_le inOrder⟩

theorem Cooled.mono {rows : List ShadowObservation} (cooled : Cooled cooldown now rows) {later : ℤ}
    (inOrder : now ≤ later) : Cooled cooldown later rows :=
  ⟨fun row member => (cooled.times row member).mono inOrder, cooled.inTurn⟩

/-- Rows which change only where they are open keep following each other, when
each keeps its symbol and the time of its opening. -/
theorem inTurn_map {rows : List ShadowObservation} (inTurn : rows.Pairwise (FollowsInTurn cooldown))
    {change : ShadowObservation → ShadowObservation}
    (key : ∀ row ∈ rows, (change row).market = row.market ∧ (change row).symbol = row.symbol ∧
      (change row).openedAt = row.openedAt)
    (closed : ∀ row ∈ rows, row.isOpen = false → change row = row) :
    (rows.map change).Pairwise (FollowsInTurn cooldown) := by
  rw [List.pairwise_map]
  refine inTurn.imp_of_mem ?_
  intro first second isFirst isSecond follows market symbol
  obtain ⟨firstMarket, firstSymbol, -⟩ := key first isFirst
  obtain ⟨secondMarket, secondSymbol, secondOpened⟩ := key second isSecond
  rw [firstMarket, secondMarket] at market
  rw [firstSymbol, secondSymbol] at symbol
  have before := follows market symbol
  have same := closed first isFirst before.closed
  refine ⟨?_, ?_, ?_, ?_⟩
  · rw [same]
    exact before.closed
  · rw [same, secondOpened]
    exact before.order
  · rw [same, secondOpened]
    exact before.marks
  · rw [same, secondOpened]
    exact before.waits

/-- Of two rows one comes after the other. -/
theorem Cooled.either {rows : List ShadowObservation} (cooled : Cooled cooldown now rows)
    {first second : ShadowObservation} (isFirst : first ∈ rows) (isSecond : second ∈ rows)
    (apart : first ≠ second) :
    FollowsInTurn cooldown first second ∨ FollowsInTurn cooldown second first := by
  have symmetric : Std.Symm fun first second : ShadowObservation =>
      FollowsInTurn cooldown first second ∨ FollowsInTurn cooldown second first :=
    ⟨fun _ _ either => either.symm⟩
  have related : rows.Pairwise fun first second : ShadowObservation =>
      FollowsInTurn cooldown first second ∨ FollowsInTurn cooldown second first :=
    cooled.inTurn.imp Or.inl
  exact related.forall isFirst isSecond apart

variable {cycle : Cycle}

/-- The closed rows of a symbol which a block is read from. -/
theorem mem_closedFor {rows : List ShadowObservation} {market : Market} {symbol : String}
    {row : ShadowObservation} :
    row ∈ rows.filter (ObservationFilter.closedFor market symbol).selects ↔
      row ∈ rows ∧ row.market = market ∧ row.symbol = symbol ∧ row.isOpen = false := by
  simp [List.mem_filter, ObservationFilter.selects, and_assoc]

/-- Where nothing blocks and there is a cooldown, that of the latest close has passed. -/
theorem Cooled.latest_passed {rows : List ShadowObservation} (cooled : Cooled cooldown now rows)
    {market : Market} {symbol : String} {time : ℤ}
    (on : ¬cycle.settings.intradayReentryCooldownMinutes ≤ 0)
    (unblocked : reentryBlock cycle rows market symbol time = none) {row : ShadowObservation}
    (selected : row ∈ rows.filter (ObservationFilter.closedFor market symbol).selects) :
    ∃ latest ∈ rows.filter (ObservationFilter.closedFor market symbol).selects,
      (∀ other ∈ rows.filter (ObservationFilter.closedFor market symbol).selects,
        other.lastMarkedAt ≤ latest.lastMarkedAt) ∧
      ∃ exit, BlockingExit cooldown now latest exit ∧ exit.exitedAt + cooldown ≤ time := by
  rw [reentryBlock, if_neg on] at unblocked
  cases head : (descending ShadowObservation.lastMarkedAt
      (rows.filter (ObservationFilter.closedFor market symbol).selects)).head? with
  | none =>
    rw [← mem_descending ShadowObservation.lastMarkedAt, List.head?_eq_none_iff.mp head] at selected
    cases selected
  | some latest =>
    obtain ⟨member, isLatest⟩ := head?_descending ShadowObservation.lastMarkedAt head
    obtain ⟨latestMember, -, -, isClosed⟩ := mem_closedFor.mp member
    obtain ⟨exit, blocking⟩ := (cooled.times latest latestMember).closed isClosed
    refine ⟨latest, member, isLatest, exit, blocking, ?_⟩
    rw [head, Option.bind_some, blocking.blocks, Option.filter_some] at unblocked
    by_contra later
    rw [if_pos (by simpa using later)] at unblocked
    cases unblocked

/-- Where the latest close blocks nothing, no intraday exit of the symbol does. -/
theorem Cooled.unblocked {rows : List ShadowObservation} (cooled : Cooled cooldown now rows)
    (minutes : cooldown = cycle.settings.intradayReentryCooldownMinutes * microsecondsPerMinute)
    {market : Market} {symbol : String} {time : ℤ} (inOrder : now ≤ time)
    (unblocked : reentryBlock cycle rows market symbol time = none) {row : ShadowObservation}
    (member : row ∈ rows) (inMarket : row.market = market) (ofSymbol : row.symbol = symbol)
    (isClosed : row.isOpen = false) {exit : ShadowExit}
    (blocking : BlockingExit cooldown now row exit)
    (intraday : exit.action ∈ closeActions) : exit.exitedAt + cooldown ≤ time := by
  have exited := blocking.exited
  by_cases on : cycle.settings.intradayReentryCooldownMinutes ≤ 0
  · have nonpositive : cooldown ≤ 0 := by
      rw [minutes]
      exact mul_nonpos_of_nonpos_of_nonneg on (by decide)
    omega
  · have positive : 0 < cooldown := by
      rw [minutes]
      exact mul_pos (not_le.mp on) (by decide)
    have selected := mem_closedFor.mpr ⟨member, inMarket, ofSymbol, isClosed⟩
    obtain ⟨latest, latestSelected, isLatest, latestExit, latestBlocking, passed⟩ :=
      cooled.latest_passed on unblocked selected
    obtain ⟨latestMember, latestMarket, latestSymbol, -⟩ := mem_closedFor.mp latestSelected
    by_cases isRow : row = latest
    · subst isRow
      have sameExit := blocking.recorded.symm.trans latestBlocking.recorded
      rwa [Option.some.inj sameExit]
    · have sameMarket : row.market = latest.market := inMarket.trans latestMarket.symm
      have sameSymbol : row.symbol = latest.symbol := ofSymbol.trans latestSymbol.symm
      have latestTimes := cooled.times latest latestMember
      rcases cooled.either member latestMember isRow with before | after
      · have waits := (before sameMarket sameSymbol).waits exit blocking.recorded intraday
        have latestTime := latestTimes.opened.trans latestTimes.marked
        omega
      · -- A row which comes after the latest one would have been marked after it.
        have marks := (after sameMarket.symm sameSymbol.symm).marks positive
        have opened := (cooled.times row member).opened
        have last := isLatest row selected
        omega

end Rows

section Steps

variable {cooldown now : ℤ} {cycle : Cycle} {turn : Turn} {before after : Database}

/-- The times of a row after its turn. -/
theorem recordedRow_times (minutes : cooldown =
      cycle.settings.intradayReentryCooldownMinutes * microsecondsPerMinute)
    {samples : List ShadowTrainingSample} {observation : ShadowObservation}
    {assessment : Assessment}
    (isOpen : observation.isOpen = true) (opened : observation.openedAt ≤ observation.lastMarkedAt)
    (marked : observation.lastMarkedAt ≤ turn.round.exitedAt) :
    RowTimes cooldown turn.round.exitedAt
      (recordedRow cycle samples observation turn assessment) := by
  rw [recordedRow, recordExit]
  split
  · next exits =>
    refine ⟨opened, marked, fun _ => ⟨_, rfl, rfl, ?_, le_rfl, .inl ⟨exits.2.2, marked⟩⟩⟩
    rw [minutes]
    rfl
  · refine ⟨opened, marked, fun isClosed => ?_⟩
    rw [Option.elim_none, isOpen] at isClosed
    cases isClosed

@[simp] theorem recordedRow_symbol (samples : List ShadowTrainingSample)
    (observation : ShadowObservation) (assessment : Assessment) :
    (recordedRow cycle samples observation turn assessment).symbol = observation.symbol := by
  rw [recordedRow, recordExit]
  split
  · rfl
  · rfl

/-- Where a lookup finds nothing, the rows of the symbol are closed. -/
theorem closed_of_openFor {rows : List ShadowObservation} {market : Market} {symbol : String}
    (absent : openFor rows market symbol = none) {row : ShadowObservation} (member : row ∈ rows)
    (inMarket : row.market = market) (ofSymbol : row.symbol = symbol) : row.isOpen = false := by
  rw [openFor, List.head?_eq_none_iff, List.filter_eq_nil_iff] at absent
  simpa [ObservationFilter.selects, inMarket, ofSymbol] using absent row member

/-- What is opened comes after the earlier observations of its symbol. -/
theorem Cooled.follows {rows : List ShadowObservation} (cooled : Cooled cooldown now rows)
    (minutes : cooldown = cycle.settings.intradayReentryCooldownMinutes * microsecondsPerMinute)
    {market : Market} {symbol : String} {new : ShadowObservation} (inOrder : now ≤ new.openedAt)
    (absent : openFor rows market symbol = none)
    (unblocked : reentryBlock cycle rows market symbol new.openedAt = none)
    {row : ShadowObservation} (member : row ∈ rows) (inMarket : row.market = market)
    (ofSymbol : row.symbol = symbol) : Follows cooldown row new := by
  have isClosed := closed_of_openFor absent member inMarket ofSymbol
  have times := cooled.times row member
  obtain ⟨exit, blocking⟩ := times.closed isClosed
  have waits : exit.action ∈ closeActions → exit.exitedAt + cooldown ≤ new.openedAt :=
    cooled.unblocked minutes inOrder unblocked member inMarket ofSymbol isClosed blocking
  refine ⟨isClosed, (times.opened.trans times.marked).trans inOrder, fun positive => ?_, ?_⟩
  · rcases blocking.marked with ⟨intraday, marked⟩ | ⟨_, marked⟩
    · have waited := waits intraday
      omega
    · exact marked.trans_le inOrder
  · intro other recorded intraday
    obtain rfl := Option.some.inj (blocking.recorded.symm.trans recorded)
    exact waits intraday

/-- A turn which reads its clock after now gives what it records its times. -/
theorem TurnEffect.times (effect : TurnEffect cycle turn before after)
    (minutes : cooldown = cycle.settings.intradayReentryCooldownMinutes * microsecondsPerMinute)
    (started : now ≤ turn.round.recordedAt) (ended : turn.round.recordedAt ≤ turn.round.exitedAt)
    (cooled : Cooled cooldown now before.observations) :
    ∀ row ∈ after.observations, RowTimes cooldown turn.round.exitedAt row := by
  intro row member
  cases effect.row member with
  | kept old => exact (cooled.times row old).mono (started.trans ended)
  | opened quoted positive new fresh recorded =>
    rw [recorded]
    subst new
    exact recordedRow_times minutes rfl le_rfl ended
  | @marked _ _ earlier _ quoted positive held wasOpen market new recorded =>
    rw [recorded]
    subst new
    have times := cooled.times earlier held
    exact recordedRow_times minutes wasOpen (times.opened.trans (times.marked.trans started)) ended

/-- What a turn opens follows the earlier observations, and what it marks keeps its place. -/
theorem TurnEffect.inTurn (effect : TurnEffect cycle turn before after)
    (lifecycle : Lifecycle before)
    (minutes : cooldown = cycle.settings.intradayReentryCooldownMinutes * microsecondsPerMinute)
    (started : now ≤ turn.round.recordedAt) (cooled : Cooled cooldown now before.observations) :
    after.observations.Pairwise (FollowsInTurn cooldown) := by
  cases effect with
  | kept rows =>
    rw [rows]
    exact cooled.inTurn
  | @opened lastPrice assessment observation quoted positive absent unblocked new fresh rows =>
    rw [rows, List.pairwise_append]
    refine ⟨cooled.inTurn, List.pairwise_singleton _ _, ?_⟩
    intro row member last isLast market symbol
    rw [List.mem_singleton.mp isLast] at market symbol ⊢
    rw [recordedRow_market] at market
    rw [recordedRow_symbol] at symbol
    subst new
    have follows : Follows cooldown row
        (newObservation cycle turn.market turn.fxRate turn.round lastPrice assessment) :=
      cooled.follows minutes started absent unblocked member market symbol
    refine ⟨follows.closed, ?_, ?_, ?_⟩
    · rw [recordedRow_openedAt]
      exact follows.order
    · rw [recordedRow_openedAt]
      exact follows.marks
    · rw [recordedRow_openedAt]
      exact follows.waits
  | @marked _ assessment earlier observation quoted positive held wasOpen market symbol new rows =>
    rw [rows]
    have here : ∀ row ∈ before.observations,
        row.id = (recordedRow cycle before.samples observation turn assessment).id →
          row = earlier := by
      intro row member same
      rw [recordedRow_id, new, assigned_id] at same
      exact lifecycle.eq_of_id member held same
    apply inTurn_map cooled.inTurn
    · intro row member
      split
      · next same =>
        rw [here row member same, recordedRow_market, recordedRow_symbol, recordedRow_openedAt, new]
        exact ⟨rfl, rfl, rfl⟩
      · exact ⟨rfl, rfl, rfl⟩
    · intro row member isClosed
      refine if_neg fun same => ?_
      rw [here row member same, wasOpen] at isClosed
      cases isClosed

@[simp] theorem staleRow_symbol (market : Market) (row : ShadowObservation) :
    (staleRow cycle market row).symbol = row.symbol := by
  rw [staleRow]
  split
  · rfl
  · rfl

@[simp] theorem staleRow_lastMarkedAt (market : Market) (row : ShadowObservation) :
    (staleRow cycle market row).lastMarkedAt = row.lastMarkedAt := by
  rw [staleRow]
  split
  · rfl
  · rfl

/-- The close of earlier days leaves what is closed. -/
theorem staleRow_closed (market : Market) {row : ShadowObservation}
    (isClosed : row.isOpen = false) :
    staleRow cycle market row = row :=
  if_neg (by simp [ObservationFilter.selects, isClosed])

/-- The times of a row which was marked before a cycle began, after its close of earlier days. -/
theorem RowTimes.stale (minutes : cooldown =
      cycle.settings.intradayReentryCooldownMinutes * microsecondsPerMinute)
    {row : ShadowObservation} (times : RowTimes cooldown cycle.startedAt row)
    (marked : row.lastMarkedAt < cycle.startedAt) (market : Market) :
    RowTimes cooldown cycle.startedAt (staleRow cycle market row) := by
  rw [staleRow]
  split
  · refine ⟨times.opened, times.marked, fun _ => ⟨_, rfl, rfl, ?_, ?_, .inr ⟨rfl, marked⟩⟩⟩
    · rw [minutes]
      rfl
    · exact (min_le_left _ _).trans times.marked
  · exact times

/-- The close of earlier days keeps what was cooled before the cycle began. -/
theorem Cooled.opening (cooled : Cooled cooldown now before.observations)
    (lifecycle : Lifecycle before)
    (minutes : cooldown = cycle.settings.intradayReentryCooldownMinutes * microsecondsPerMinute)
    (started : now < cycle.startedAt) :
    Cooled cooldown cycle.startedAt (before.opening cycle).observations := by
  rw [opening_observations lifecycle]
  constructor
  · intro row member
    obtain ⟨old, oldMember, rfl⟩ := List.mem_map.mp member
    have times := (cooled.times old oldMember).mono started.le
    have marked := (cooled.times old oldMember).marked.trans_lt started
    refine (times.stale minutes marked .india).stale minutes ?_ .us
    rwa [staleRow_lastMarkedAt]
  · apply inTurn_map cooled.inTurn
    · intro row _
      simp
    · intro row _ isClosed
      rw [Function.comp_apply, staleRow_closed .india isClosed, staleRow_closed .us isClosed]

/-- A cycle keeps what was cooled before it began, up to any time after its readings. -/
theorem CycleSteps.cooled (steps : CycleSteps cycle before after) (lifecycle : Lifecycle before)
    (minutes : cooldown = cycle.settings.intradayReentryCooldownMinutes * microsecondsPerMinute)
    (clock : cycle.readings.Pairwise (· ≤ ·)) (started : now < cycle.startedAt)
    (cooled : Cooled cooldown now before.observations) {last : ℤ}
    (ended : ∀ reading ∈ cycle.readings, reading ≤ last) :
    Cooled cooldown last after.observations := by
  refine steps.timed (fun time tables => Cooled cooldown time tables.observations) ?_ ?_ lifecycle
    clock (cooled.opening lifecycle minutes started) ended
  · intro now later tables inOrder holds
    exact holds.mono inOrder
  · intro turn now before after sound started recorded sampled holds effect
    exact ⟨effect.times minutes started (recorded.trans sampled) holds,
      effect.inTurn sound minutes started holds⟩

end Steps

theorem SerialClock.before {calls : List CycleCall} {call : CycleCall}
    (clock : SerialClock (calls ++ [call])) : SerialClock calls ∧
      call.cycle.readings.Pairwise (· ≤ ·) ∧
        ∀ earlier ∈ calls, ∀ reading ∈ earlier.cycle.readings, reading < call.cycle.startedAt := by
  obtain ⟨monotone, serial⟩ := clock
  obtain ⟨before, -, apart⟩ := List.pairwise_append.mp serial
  refine ⟨⟨monotone.before, before⟩, ?_, ?_⟩
  · rw [MonotoneClock, List.flatMap_append, List.flatMap_singleton] at monotone
    exact (List.pairwise_append.mp monotone).2.1
  · intro earlier member
    exact apart earlier member call (List.mem_singleton_self call)

/-- After serial cycles of one cooldown, the observations are cooled. -/
theorem afterCycles_cooled (minutes : ℤ) (calls : List CycleCall)
    (fixed : ∀ call ∈ calls, call.cycle.settings.intradayReentryCooldownMinutes = minutes)
    (clock : SerialClock calls) {last : ℤ}
    (ended : ∀ call ∈ calls, ∀ reading ∈ call.cycle.readings, reading ≤ last) :
    Cooled (minutes * microsecondsPerMinute) last (afterCycles calls).observations := by
  refine afterCycles_induction (fun calls tables =>
    (∀ call ∈ calls, call.cycle.settings.intradayReentryCooldownMinutes = minutes) →
      SerialClock calls → ∀ last,
        (∀ call ∈ calls, ∀ reading ∈ call.cycle.readings, reading ≤ last) →
          Cooled (minutes * microsecondsPerMinute) last tables.observations)
    ?_ ?_ calls fixed clock last ended
  · intro _ _ last _
    constructor
    · intro row member
      cases member
    · exact List.Pairwise.nil
  · intro calls call after ih ends fixed clock last ended
    obtain ⟨serial, inOrder, apart⟩ := clock.before
    have isLast : call ∈ calls ++ [call] := List.mem_append_right _ (List.mem_singleton_self call)
    have before := ih (fun earlier member => fixed earlier (List.mem_append_left _ member)) serial
    rcases ends with steps | same
    · refine steps.cooled (afterCycles_sound calls) ?_ inOrder (Int.sub_one_lt_of_le le_rfl)
        (before (call.cycle.startedAt - 1) ?_) (ended call isLast)
      · rw [fixed call isLast]
      · intro earlier member reading isReading
        exact Int.le_sub_one_of_lt (apart earlier member reading isReading)
    · rw [same]
      exact before last fun earlier member => ended earlier (List.mem_append_left _ member)

/-- The re-entry cooldown. After every run of serial cycles with one cooldown, of
two observations of a symbol the one which was inserted later was opened later,
when the earlier one was closed; and where an intraday exit closed the earlier
one, not before its cooldown was over. -/
theorem afterCycles_reentryCooldown (minutes : ℤ) (calls : List CycleCall)
    (fixed : ∀ call ∈ calls, call.cycle.settings.intradayReentryCooldownMinutes = minutes)
    (clock : SerialClock calls) :
    (afterCycles calls).observations.Pairwise fun previous next =>
      previous.market = next.market → previous.symbol = next.symbol →
        previous.openedAt ≤ next.openedAt ∧ ∃ closedAs, previous.status = .closed closedAs ∧
          (closedAs ≠ .sessionClose → ∃ exit, previous.metadataJson.shadowExit = some exit ∧
            exit.exitedAt + minutes * microsecondsPerMinute ≤ next.openedAt) := by
  obtain ⟨last, ended⟩ := exists_last calls
  have cooled := afterCycles_cooled minutes calls fixed clock ended
  refine cooled.inTurn.imp_of_mem ?_
  intro previous next isPrevious _ inTurn market symbol
  have follows := inTurn market symbol
  obtain ⟨exit, blocking⟩ := (cooled.times previous isPrevious).closed follows.closed
  refine ⟨follows.order, closedStatus exit.action, blocking.status, fun intraday => ?_⟩
  rcases blocking.marked with ⟨closes, _⟩ | ⟨session, _⟩
  · exact ⟨exit, blocking.recorded, follows.waits exit blocking.recorded closes⟩
  · rw [session] at intraday
    exact absurd rfl intraday

/-- A stop after one minute, a buy which the cooldown blocks, and one after it. -/
def cooldownRun : List CycleCall :=
  [tcsCall 1778663700000000 100 ⟨.buy, some 95, some 110⟩ "first",
    tcsCall 1778663760000000 94 ⟨.hold, some 90, some 105⟩ "second",
    tcsCall 1778664900000000 96 ⟨.buy, some 91, some 106⟩ "third",
    tcsCall 1778664960000003 97 ⟨.buy, some 92, some 107⟩ "fourth"]

theorem afterCycles_reentryCooldown_tcs :
    ((afterCycles cooldownRun).observations.Pairwise fun previous next =>
      previous.market = next.market → previous.symbol = next.symbol →
        previous.openedAt ≤ next.openedAt ∧ ∃ closedAs, previous.status = .closed closedAs ∧
          (closedAs ≠ .sessionClose → ∃ exit, previous.metadataJson.shadowExit = some exit ∧
            exit.exitedAt + 20 * microsecondsPerMinute ≤ next.openedAt)) ∧
    (afterCycles cooldownRun).observations.map ShadowObservation.id = ["first", "fourth"] := by
  refine ⟨afterCycles_reentryCooldown 20 cooldownRun ?_ ⟨by decide +kernel, by decide +kernel⟩,
    by decide +kernel⟩
  decide +kernel

/-- A cycle of which all turns read one time. -/
def tcsCallAt (startedAt readAt : ℤ) (lastPrice : ℚ) (assessment : Assessment)
    (observationId : String) : CycleCall :=
  let call := tcsCall startedAt lastPrice assessment observationId
  let rounds := call.cycle.indiaRounds.map fun round =>
    { round with recordedAt := readAt, sampledAt := readAt, exitedAt := readAt }
  { call with cycle := { call.cycle with indiaRounds := rounds } }

/-- The second cycle runs past midnight and marks an observation twenty minutes later. The
others read that very time: one closes the observation for its day and opens the next, one
stops this out, and the last finds two closed observations which were marked last. -/
def tiedRun : List CycleCall :=
  let midnight := 1778697000000000
  let tied := midnight + 20 * microsecondsPerMinute
  [tcsCallAt (midnight - 1000000) (midnight - 1000000) 100 ⟨.buy, some 95, some 110⟩ "first",
    tcsCallAt (midnight - 1) tied 100 ⟨.hold, some 95, some 110⟩ "second",
    tcsCallAt tied tied 100 ⟨.buy, some 95, some 110⟩ "third",
    tcsCallAt tied tied 94 ⟨.hold, some 90, some 105⟩ "fourth",
    tcsCallAt tied tied 96 ⟨.buy, some 91, some 106⟩ "fifth"]

/-- Under a clock which only does not go back, the stop and the next entry can be at one time. -/
theorem afterCycles_reentryCooldown_tied : ¬ ∀ (minutes : ℤ) (calls : List CycleCall),
    (∀ call ∈ calls, call.cycle.settings.intradayReentryCooldownMinutes = minutes) →
      MonotoneClock calls → (afterCycles calls).observations.Pairwise fun previous next =>
        previous.market = next.market → previous.symbol = next.symbol →
          previous.openedAt ≤ next.openedAt ∧ ∃ closedAs, previous.status = .closed closedAs ∧
            (closedAs ≠ .sessionClose → ∃ exit, previous.metadataJson.shadowExit = some exit ∧
              exit.exitedAt + minutes * microsecondsPerMinute ≤ next.openedAt) := by
  intro cooled
  have inTurn := (cooled 20 tiedRun (by decide +kernel) (by decide +kernel)).tail
  have seen : (afterCycles tiedRun).observations.tail.map (fun row => (row.market, row.symbol,
      row.status, row.metadataJson.shadowExit.map ShadowExit.exitedAt, row.openedAt)) =
      [(.india, "TCS", .closed .stopLoss, some 1778698200000000, 1778698200000000),
        (.india, "TCS", .openObservation, none, 1778698200000000)] := by decide +kernel
  generalize (afterCycles tiedRun).observations.tail = rows at inTurn seen
  obtain ⟨stopped, _, rfl, stop, entries⟩ := List.map_eq_cons_iff.mp seen
  obtain ⟨entered, rfl, entry⟩ := List.map_eq_singleton_iff.mp entries
  simp only [Prod.mk.injEq] at stop entry
  obtain ⟨market, symbol, status, exited, -⟩ := stop
  obtain ⟨nextMarket, nextSymbol, -, -, opened⟩ := entry
  obtain ⟨-, closedAs, closed, waits⟩ := List.pairwise_pair.mp inTurn
    (market.trans nextMarket.symm) (symbol.trans nextSymbol.symm)
  rw [status, ObservationStatus.closed.injEq] at closed
  obtain ⟨exit, recorded, waited⟩ := waits (by simp [← closed])
  rw [recorded, Option.map_some, Option.some.injEq] at exited
  rw [exited, opened, microsecondsPerMinute] at waited
  omega

end AlphaAgent.Shadow
