import AlphaAgent.Foundation.Search
import AlphaAgent.Risk.MarketCalendar

/-!
# The next Indian session

`ShadowReadinessService._next_india_business_date` asks the calendar about 10:00 of
one day after the other. It stops at a day on which the market is open then; there
may be none up to the end of the calendar, past which no day can be built.
-/

namespace AlphaAgent.Services

open Foundation Risk MarketCalendar

/-- The instant at which the clock of a market reads 10:00 on a day. -/
abbrev ProbeInstants := Market → Day → ℤ

/-- The instants belong to the time zone of India: on every day of the calendar its clock
reads 10:00 then, and so does an instant of the calendar in UTC. -/
structure ReadsTen (zones : MarketZones) (instants : ProbeInstants) : Prop where
  inRange : ∀ day, firstDay ≤ day → day ≤ lastDay → DateTime.inRange (instants .india day) = true
  reads : ∀ day, firstDay ≤ day → day ≤ lastDay →
    zones.wallClock .india (instants .india day) = day * microsecondsPerDay + clock 10 0

section Service

variable (settings : CalendarSettings) (zones : MarketZones) (instants : ProbeInstants)

/-- `_calendar_probe`. -/
def calendarProbe (market : Market) (localDate : Day) : Except RaisedError CalendarStatus :=
  MarketCalendar.status settings zones market (.utc (instants market localDate))

/-- The condition under which the loop returns. -/
def accepts (probe : CalendarStatus) : Bool :=
  probe.isOpen || probe.reason = "outside_regular_session"

/-- One turn of the loop. -/
def probeAccepts (candidate : Day) : Except RaisedError Bool :=
  (calendarProbe settings zones instants .india candidate).map accepts

/-- `_next_india_business_date`. The days which are left are those of the calendar:
`timedelta` raises after the last one. -/
def nextIndiaBusinessDate (today : Day) : Except RaisedError Day :=
  searchFrom (probeAccepts settings zones instants) (.overflowError "date value out of range")
    (lastDay - today).toNat (today + 1)

end Service

section Probe

variable {settings : CalendarSettings} {zones : MarketZones} {instants : ProbeInstants} {day : Day}

/-- At 10:00 the market is open on a day: there is a session, whose close is a local time
after 10:00. -/
structure OpensAtTen (settings : CalendarSettings) (day : Day) : Prop where
  session : HasSession settings .india day
  naive : (closeOn .india (parsed settings .india) day).isAware = false
  later : clock 10 0 < (closeOn .india (parsed settings .india) day).sinceMidnight

/-- The calendar raises on a day: there is a session, whose close has a UTC offset. -/
structure RaisesAtTen (settings : CalendarSettings) (day : Day) : Prop where
  session : HasSession settings .india day
  aware : (closeOn .india (parsed settings .india) day).isAware = true

/-- A reading of 10:00 is on its day, and in the calendar with it. -/
theorem reading_atTen (date : ℤ) :
    (date * microsecondsPerDay + clock 10 0) / microsecondsPerDay = date ∧
      (date * microsecondsPerDay + clock 10 0) % microsecondsPerDay = clock 10 0 ∧
      (firstDay ≤ date → date ≤ lastDay →
        DateTime.inRange (date * microsecondsPerDay + clock 10 0) = true) := by
  simp only [clock, microsecondsPerDay]
  refine ⟨by omega, by omega, fun from_ upTo => ?_⟩
  change (-719162 : ℤ) ≤ date at from_
  change date ≤ (2932896 : ℤ) at upTo
  refine (Bool.and_eq_true _ _).mpr ⟨decide_eq_true ?_, decide_eq_true ?_⟩
  · unfold microsecondsPerDay
    omega
  · unfold microsecondsPerDay
    omega

/-- The probe of a day is the status at 10:00. -/
theorem calendarProbe_eq (ten : ReadsTen zones instants) (from_ : firstDay ≤ day)
    (upTo : day ≤ lastDay) :
    calendarProbe settings zones instants .india day =
      statusOn settings .india day (clock 10 0) := by
  obtain ⟨onDay, atTen, inside⟩ := reading_atTen day
  have moved : asTimezone zones .india (.utc (instants .india day)) =
      .ok (day * microsecondsPerDay + clock 10 0) := by
    have utc : DateTime.toUtc (.utc (instants .india day)) = .ok (.utc (instants .india day)) := by
      rw [DateTime.toUtc]
      simp [DateTime.utc, DateTime.instant, ten.inRange day from_ upTo]
    rw [asTimezone, utc]
    change (if DateTime.inRange (zones.wallClock .india (DateTime.utc _).instant) then _
      else _) = _
    rw [DateTime.utc_instant, ten.reads day from_ upTo, if_pos (inside from_ upTo)]
    rfl
  rw [calendarProbe, status_eq moved, onDay, atTen]

/-- At 10:00 a session has begun, so that one which is not open is over early. -/
theorem reason_atTen {overrides : Overrides} {status : CalendarStatus}
    (found : sessionStatus .india overrides day (clock 10 0) = .ok status) :
    status.reason ≠ "outside_regular_session" := by
  unfold sessionStatus at found
  dsimp only at found
  split_ifs at found with aware early inside special elapsed
  · rw [← Except.ok.inj found]
    decide
  · rw [← Except.ok.inj found]
    decide
  · rw [← Except.ok.inj found]
    decide
  · rw [← Except.ok.inj found]
    decide
  · -- Without an early close the session lasts up to 15:30.
    have started : sessionOpen .india ≤ clock 10 0 := by decide
    have past : (closeOn .india overrides day).sinceMidnight ≤ clock 10 0 :=
      not_lt.mp fun later => inside ⟨started, later⟩
    have regular : overrides.earlyCloses.get? day = none := by
      have unbound : ¬overrides.earlyCloses.contains day = true :=
        fun bound => elapsed ⟨bound, past⟩
      simpa [Dict.contains] using unbound
    rw [closeOn, regular] at past
    exact absurd past (by decide)

theorem closedReason_ne {market : Market} {overrides : Overrides} {reason : String}
    (shut : closedReason market overrides day = some reason) :
    reason ≠ "outside_regular_session" := by
  unfold closedReason at shut
  split_ifs at shut <;> rw [← Option.some.inj shut] <;> decide

/-- The loop accepts a probe at 10:00 exactly when it is open. -/
theorem accepts_iff {status : CalendarStatus}
    (found : statusOn settings .india day (clock 10 0) = .ok status) :
    accepts status = true ↔ status.state = .open := by
  have reason : status.reason ≠ "outside_regular_session" := by
    unfold statusOn at found
    by_cases readable : Readable settings .india
    · rw [overridesOf_readable readable] at found
      dsimp only at found
      split at found
      · rw [← Except.ok.inj found]
        decide
      · split at found
        · next reason shut =>
          rw [← Except.ok.inj found]
          exact closedReason_ne shut
        · exact reason_atTen found
    · obtain ⟨reason, listed, failed⟩ := overridesOf_unreadable readable
      rw [failed] at found
      rw [← Except.ok.inj found]
      rintro rfl
      exact absurd listed (by decide)
  simp [accepts, MarketCalendarStatus.isOpen, reason]

/-- A probe is accepted exactly on a day on which the market is open at 10:00. -/
theorem probeAccepts_true_iff (ten : ReadsTen zones instants) (from_ : firstDay ≤ day)
    (upTo : day ≤ lastDay) :
    probeAccepts settings zones instants day = .ok true ↔ OpensAtTen settings day := by
  have isOpen : OpensAtTen settings day ↔
      ∃ status, statusOn settings .india day (clock 10 0) = .ok status ∧ status.state = .open := by
    rw [statusOn_open_iff]
    constructor
    · exact fun opens => ⟨opens.session, opens.naive, by decide, opens.later⟩
    · exact fun ⟨session, naive, _, later⟩ => ⟨session, naive, later⟩
  rw [isOpen, probeAccepts, calendarProbe_eq ten from_ upTo]
  cases found : statusOn settings .india day (clock 10 0) with
  | error raised => exact iff_of_false nofun fun ⟨_, failed, _⟩ => nomatch failed
  | ok status =>
    have accepted := accepts_iff found
    constructor
    · intro accepts
      exact ⟨status, rfl, accepted.mp (Except.ok.inj accepts)⟩
    · rintro ⟨_, same, isOpen⟩
      cases same
      exact congrArg Except.ok (accepted.mpr isOpen)

/-- A probe answers except on a day on which the calendar raises. -/
theorem probeAccepts_answers_iff (ten : ReadsTen zones instants) (from_ : firstDay ≤ day)
    (upTo : day ≤ lastDay) :
    (∃ answer, probeAccepts settings zones instants day = .ok answer) ↔
      ¬RaisesAtTen settings day := by
  rw [probeAccepts, calendarProbe_eq ten from_ upTo]
  by_cases session : HasSession settings .india day
  · rw [statusOn_session session]
    cases aware : (closeOn .india (parsed settings .india) day).isAware with
    | true =>
      rw [sessionStatus_aware aware]
      exact iff_of_false (fun ⟨_, failed⟩ => nomatch failed) (not_not.mpr ⟨session, aware⟩)
    | false =>
      obtain ⟨status, found, -⟩ := sessionStatus_naive (clock 10 0) aware
      rw [found]
      exact iff_of_true ⟨_, rfl⟩ fun raises => nomatch aware.symm.trans raises.aware
  · obtain ⟨status, found, -⟩ := statusOn_noSession (clock 10 0) session
    rw [found]
    exact iff_of_true ⟨_, rfl⟩ fun raises => session raises.session

end Probe

section Years

/-- Five cycles of 400 years, and at least 26 of the years after them. -/
theorem year_bounds {days : ℤ} (since : 739980 < days) :
    2026 ≤ days / 146097 * 400 + days % 146097 / 36524 * 100 +
        days % 146097 % 36524 / 1461 * 4 + days % 146097 % 36524 % 1461 / 365 ∧
      (days % 146097 % 36524 % 1461 / 365 = 4 ∨ days % 146097 / 36524 = 4 →
        2027 ≤ days / 146097 * 400 + days % 146097 / 36524 * 100 +
          days % 146097 % 36524 / 1461 * 4 + days % 146097 % 36524 % 1461 / 365) := by
  generalize centuries : days % 146097 / 36524 = c
  generalize cycles : days % 146097 % 36524 / 1461 = l
  generalize years : days % 146097 % 36524 % 1461 / 365 = y
  have nonneg : 0 ≤ c ∧ 0 ≤ l ∧ 0 ≤ y ∧ y ≤ 4 := by omega
  obtain more | five : 6 ≤ days / 146097 ∨ days / 146097 = 5 := by omega
  · omega
  · obtain later | first : 1 ≤ c ∨ c = 0 := by omega
    · omega
    · have rest : 9496 ≤ days % 146097 % 36524 := by omega
      rw [five, first]
      omega

end Years

section Main

variable {settings : CalendarSettings} {zones : MarketZones} {instants : ProbeInstants}
  {today : ℤ}

/-- The loop returns exactly when it comes to a day on which it accepts before one on which
the calendar raises. -/
theorem nextIndiaBusinessDate_returns (ten : ReadsTen zones instants) (from_ : firstDay ≤ today) :
    (∃ date, nextIndiaBusinessDate settings zones instants today = .ok date) ↔
      ∃ day : ℤ, today < day ∧ day ≤ lastDay ∧ OpensAtTen settings day ∧
        ∀ earlier : ℤ, today < earlier → earlier < day → ¬RaisesAtTen settings earlier := by
  have inCalendar : ∀ day : ℤ, today + 1 ≤ day → firstDay ≤ day :=
    fun day later => from_.trans (by omega : today ≤ day)
  rw [nextIndiaBusinessDate, searchFrom_returns_iff]
  constructor
  · rintro ⟨day, after, before, accepts, answers⟩
    have upTo : day ≤ lastDay := by omega
    have opens := (probeAccepts_true_iff ten (inCalendar day after) upTo).mp accepts
    refine ⟨day, after, upTo, opens, ?_⟩
    intro earlier later sooner
    exact (probeAccepts_answers_iff ten (inCalendar earlier later) (sooner.le.trans upTo)).mp
      (answers earlier later sooner)
  · rintro ⟨day, after, upTo, opens, quiet⟩
    have accepts := (probeAccepts_true_iff ten (inCalendar day after) upTo).mpr opens
    refine ⟨day, after, by omega, accepts, ?_⟩
    intro earlier later sooner
    exact (probeAccepts_answers_iff ten (inCalendar earlier later) (sooner.le.trans upTo)).mpr
      (quiet earlier later sooner)

/-- The readings of 10:00 in zones whose offsets do not change. -/
def summerInstants : ProbeInstants := fun market day =>
  day * microsecondsPerDay + clock 10 0 - MarketZones.summer market 0

theorem readsTen_summer : ReadsTen .summer summerInstants where
  inRange (day : ℤ) from_ upTo := by
    change (-719162 : ℤ) ≤ day at from_
    change day ≤ (2932896 : ℤ) at upTo
    refine (Bool.and_eq_true _ _).mpr ⟨decide_eq_true ?_, decide_eq_true ?_⟩
    · simp only [summerInstants, MarketZones.summer, clock, microsecondsPerDay]
      omega
    · simp only [summerInstants, MarketZones.summer, clock, microsecondsPerDay]
      omega
  reads day _ _ := sub_add_cancel _ _

theorem nextIndiaBusinessDate_returns_april :
    (∃ date, nextIndiaBusinessDate {} .summer summerInstants 20573 = .ok date) ↔
      ∃ day : ℤ, 20573 < day ∧ day ≤ lastDay ∧ OpensAtTen {} day ∧
        ∀ earlier : ℤ, 20573 < earlier → earlier < day → ¬RaisesAtTen {} earlier :=
  nextIndiaBusinessDate_returns readsTen_summer (by decide)

/-- Days after 2026-12-31 are of later years. -/
theorem year_after {day : ℤ} (after : 20818 < day) : 2026 < Day.year day := by
  have since : 739980 < day - firstDay := by
    change 739980 < day - (-719162)
    omega
  obtain ⟨year, leap⟩ := year_bounds since
  unfold Day.year Day.civil
  dsimp only
  split_ifs with last
  · exact Int.lt_of_add_one_le ((leap last).trans (by omega))
  · exact Int.lt_add_one_iff.mpr year

/-- With the default settings nothing is found from 2026-12-31 on: the holidays of no later
year are known. -/
theorem no_next_session : ¬ ∀ (settings : CalendarSettings) (zones : MarketZones)
    (instants : ProbeInstants) (today : Day), ReadsTen zones instants → firstDay ≤ today →
      ∃ date, nextIndiaBusinessDate settings zones instants today = .ok date := by
  intro returns
  obtain ⟨day, after, before, accepts, -⟩ := (searchFrom_returns_iff _ _).mp
    (returns {} .summer summerInstants 20818 readsTen_summer (by decide))
  have limits : firstDay ≤ day ∧ day ≤ lastDay :=
    ⟨le_trans (by decide : firstDay ≤ 20819) after, Int.lt_add_one_iff.mp before⟩
  have opens := (probeAccepts_true_iff readsTen_summer limits.1 limits.2).mp accepts
  have later : 2026 < Day.year day := year_after after
  have unknown : staticTradingHolidays .india (Day.year day) = none := if_neg later.ne'
  have unavailable : holidaySourceUnavailable {} .india day = true := by
    simp [holidaySourceUnavailable, unknown, VerifiedYear.default, later]
  exact nomatch unavailable.symm.trans opens.session.available

end Main
end AlphaAgent.Services
