import AlphaAgent.Foundation.Fallible
import AlphaAgent.Risk.MarketCalendar
import AlphaAgent.Shadow.Overnight
import Mathlib.Data.Int.ConditionallyCompleteOrder

/-!
# The days of a market

The performance service knows a day of a market by the window between two local
midnights and by the local date of an instant; the training service knows it by
its start. All three speak of the same days when every local date begins at the
one instant which reads its midnight. A day may then have 23 or 25 hours.
-/

namespace AlphaAgent

/-- `date - timedelta(days=days)`. -/
def Day.minusDays (day : Day) (days : ℤ) : Except RaisedError Day :=
  if 999999999 < |days| then
    .error (.overflowError s!"days={days}; must have magnitude <= 999999999")
  else if firstDay ≤ day - days ∧ day - days ≤ lastDay then .ok (day - days)
  else .error (.overflowError "date value out of range")

namespace Performance

open Shadow Risk

/-- The review date of a window and the instants between which it lies. -/
structure MarketDayWindow where
  reviewDate : Day
  startUtc : ℤ
  endUtc : ℤ
deriving DecidableEq

def MarketDayWindow.Contains (window : MarketDayWindow) (instant : ℤ) : Prop :=
  window.startUtc ≤ instant ∧ instant < window.endUtc

/-- The midnight of a local date, moved to UTC. -/
def midnightUtc (days : MarketDays) (market : Market) (day : Day) : Except RaisedError ℤ :=
  if DateTime.inRange (days.midnight market day) then .ok (days.midnight market day)
  else .error (.overflowError "date value out of range")

/-- `_market_day_window` at a clock reading. -/
def marketDayWindow (days : MarketDays) (market : Market) (now daysAgo : ℤ) :
    Except RaisedError MarketDayWindow := do
  let wallClock ← MarketCalendar.asTimezone days.zones market (.utc now)
  let reviewDate ← Day.minusDays (wallClock / microsecondsPerDay) daysAgo
  let nextDate ← Day.minusDays reviewDate (-1)
  let startUtc ← midnightUtc days market reviewDate
  let endUtc ← midnightUtc days market nextDate
  return ⟨reviewDate, startUtc, endUtc⟩

/-- `_market_local_date`, as the performance and the profit protection service have it. -/
def marketLocalDate (zones : MarketZones) (market : Market) (value : DateTime) :
    Except RaisedError Day := do
  let wallClock ← MarketCalendar.asTimezone zones market value
  return wallClock / microsecondsPerDay

end Performance

namespace Shadow

/-- No local date goes back, each begins at the one instant which reads its midnight,
and this reading is moved to that instant. -/
structure MarketDays.Regular (days : MarketDays) : Prop where
  mono : ∀ market, Monotone (days.zones.localDay market)
  midnight : ∀ market (day : Day),
    ∃! instant, days.zones.wallClock market instant = day * microsecondsPerDay
  begins : ∀ market (day : Day) instant,
    days.zones.wallClock market instant = day * microsecondsPerDay →
      days.zones.localDay market (instant - 1) < day
  moved : ∀ market (day : Day) instant,
    (∀ other, days.zones.wallClock market other = day * microsecondsPerDay ↔ other = instant) →
      days.midnight market day = instant

namespace MarketDays.Regular

variable {days : MarketDays} (regular : days.Regular)
include regular

theorem wallClock_midnight (market : Market) (day : Day) :
    days.zones.wallClock market (days.midnight market day) = day * microsecondsPerDay := by
  obtain ⟨instant, reads, only⟩ := regular.midnight market day
  have moved := regular.moved market day instant fun other =>
    ⟨fun same => only other same, fun same => same ▸ reads⟩
  rw [moved]
  exact reads

/-- Of regular days, an instant has reached the midnight exactly when it has the date. -/
theorem lawful : days.Lawful := by
  intro market day instant
  have reads := regular.wallClock_midnight market day
  have onDay : days.zones.localDay market (days.midnight market day) = day := by
    rw [MarketZones.localDay, reads]
    exact Int.mul_ediv_cancel day (by decide)
  constructor
  · intro begun
    rw [← onDay]
    exact regular.mono market begun
  · intro reached
    by_contra before
    have earlier : instant ≤ days.midnight market day - 1 := by omega
    have previous := (regular.mono market earlier).trans_lt (regular.begins market day _ reads)
    exact absurd reached (not_le.mpr previous)

end MarketDays.Regular
end Shadow

namespace Performance

open Foundation.Fallible Shadow Risk

variable {days : MarketDays} {market : Market}

theorem inRange_iff {reading : ℤ} : DateTime.inRange reading = true ↔
    firstDay ≤ reading / microsecondsPerDay ∧ reading / microsecondsPerDay ≤ lastDay := by
  have positive : 0 < microsecondsPerDay := by decide
  have upper : reading / microsecondsPerDay ≤ lastDay ↔
      reading / microsecondsPerDay < 2932897 := Int.lt_add_one_iff.symm
  rw [upper, firstDay, Int.le_ediv_iff_mul_le positive, Int.ediv_lt_iff_lt_mul positive]
  simp [DateTime.inRange]

/-- What lies between two readings of the calendar is on the calendar. -/
theorem inRange_between {first last reading : ℤ} (starts : DateTime.inRange first = true)
    (ends : DateTime.inRange last = true) (since : first ≤ reading) (before : reading ≤ last) :
    DateTime.inRange reading = true := by
  simp only [DateTime.inRange, Bool.and_eq_true, decide_eq_true_eq] at starts ends ⊢
  exact ⟨starts.1.trans since, before.trans_lt ends.2⟩

/-- A value is moved to UTC unless it is aware and its instant is off the calendar. -/
theorem toUtc_eq (value : DateTime) : value.toUtc =
    if value.isAware = true ∧ DateTime.inRange value.instant = false then
      .error (.overflowError "date value out of range")
    else .ok (.utc value.instant) := by
  obtain ⟨reading, offset⟩ := value
  cases offset with
  | none =>
    have instant : DateTime.instant ⟨reading, none⟩ = reading := sub_zero reading
    simp [DateTime.toUtc, DateTime.isAware, instant]
  | some ahead =>
    simp only [DateTime.toUtc, DateTime.isAware, Option.isSome_some, true_and]
    cases DateTime.inRange (DateTime.instant ⟨reading, some ahead⟩) <;> rfl

theorem asTimezone_eq_ok {zones : MarketZones} {value : DateTime} {wallClock : ℤ} :
    MarketCalendar.asTimezone zones market value = .ok wallClock ↔
      (value.isAware = true → DateTime.inRange value.instant = true) ∧
        DateTime.inRange wallClock = true ∧ zones.wallClock market value.instant = wallClock := by
  unfold MarketCalendar.asTimezone
  rw [toUtc_eq]
  by_cases off : value.isAware = true ∧ DateTime.inRange value.instant = false
  · rw [if_pos off]
    exact iff_of_false nofun fun moved => by simp [moved.1 off.1] at off
  · rw [if_neg off]
    have onCalendar : value.isAware = true → DateTime.inRange value.instant = true :=
      fun aware => by simpa [aware] using off
    simp only [bind, Except.bind, DateTime.utc_instant, pure, Except.pure]
    split_ifs with readable
    · rw [Except.ok.injEq]
      constructor
      · rintro rfl
        exact ⟨onCalendar, readable, rfl⟩
      · exact fun moved => moved.2.2
    · refine iff_of_false nofun ?_
      rintro ⟨-, read, rfl⟩
      exact readable read

/-- The local date is read where the instant and its local reading are on the calendar. -/
theorem marketLocalDate_eq_ok {zones : MarketZones} {value : DateTime} {day : Day} :
    marketLocalDate zones market value = .ok day ↔
      (value.isAware = true → DateTime.inRange value.instant = true) ∧
        (firstDay ≤ day ∧ day ≤ lastDay) ∧ zones.localDay market value.instant = day := by
  unfold marketLocalDate
  constructor
  · intro read
    obtain ⟨wallClock, moved, dated⟩ := except_bind_ok read
    cases dated
    obtain ⟨onCalendar, readable, rfl⟩ := asTimezone_eq_ok.mp moved
    exact ⟨onCalendar, inRange_iff.mp readable, rfl⟩
  · rintro ⟨onCalendar, readable, rfl⟩
    have moved := asTimezone_eq_ok.mpr ⟨onCalendar, inRange_iff.mpr readable, rfl⟩
    rw [moved]
    rfl

theorem minusDays_eq_ok {day earlier : Day} {count : ℤ} : Day.minusDays day count = .ok earlier ↔
    |count| ≤ 999999999 ∧ (firstDay ≤ earlier ∧ earlier ≤ lastDay) ∧ day - count = earlier := by
  unfold Day.minusDays
  split_ifs with large within
  · exact iff_of_false nofun fun moved => absurd moved.1 (not_le.mpr large)
  · rw [Except.ok.injEq]
    constructor
    · rintro rfl
      exact ⟨not_lt.mp large, within, rfl⟩
    · exact fun moved => moved.2.2
  · refine iff_of_false nofun ?_
    rintro ⟨-, onCalendar, rfl⟩
    exact within onCalendar

theorem midnightUtc_eq_ok {day : Day} {instant : ℤ} : midnightUtc days market day = .ok instant ↔
    DateTime.inRange instant = true ∧ days.midnight market day = instant := by
  unfold midnightUtc
  split_ifs with onCalendar
  · rw [Except.ok.injEq]
    constructor
    · rintro rfl
      exact ⟨onCalendar, rfl⟩
    · exact fun moved => moved.2
  · refine iff_of_false nofun ?_
    rintro ⟨readable, rfl⟩
    exact onCalendar readable

/-- What a window says, and that all its parts are on the calendar. -/
structure IsWindowOf (days : MarketDays) (market : Market) (now daysAgo : ℤ)
    (window : MarketDayWindow) : Prop where
  reviewDate : window.reviewDate = days.zones.localDay market now - daysAgo
  startUtc : window.startUtc = days.midnight market window.reviewDate
  endUtc : window.endUtc = days.midnight market (window.reviewDate + 1)
  readable : DateTime.inRange now = true ∧
    DateTime.inRange (days.zones.wallClock market now) = true ∧ |daysAgo| ≤ 999999999
  dated : firstDay ≤ window.reviewDate ∧ window.reviewDate + 1 ≤ lastDay
  startInRange : DateTime.inRange window.startUtc = true
  endInRange : DateTime.inRange window.endUtc = true

/-- The service returns a window exactly when its parts are on the calendar. -/
theorem marketDayWindow_eq_ok {now daysAgo : ℤ} {window : MarketDayWindow} :
    marketDayWindow days market now daysAgo = .ok window ↔
      IsWindowOf days market now daysAgo window := by
  unfold marketDayWindow
  constructor
  · intro returned
    obtain ⟨wallClock, moved, returned⟩ := except_bind_ok returned
    obtain ⟨reviewDate, dated, returned⟩ := except_bind_ok returned
    obtain ⟨nextDate, follows, returned⟩ := except_bind_ok returned
    obtain ⟨startUtc, starts, returned⟩ := except_bind_ok returned
    obtain ⟨endUtc, ends, returned⟩ := except_bind_ok returned
    cases returned
    obtain ⟨aware, readable, rfl⟩ := asTimezone_eq_ok.mp moved
    obtain ⟨small, ⟨first, -⟩, date⟩ := minusDays_eq_ok.mp dated
    obtain ⟨-, ⟨-, last⟩, next⟩ := minusDays_eq_ok.mp follows
    rw [sub_neg_eq_add] at next
    obtain ⟨startInRange, start⟩ := midnightUtc_eq_ok.mp starts
    obtain ⟨endInRange, stop⟩ := midnightUtc_eq_ok.mp ends
    subst next
    rw [DateTime.utc_instant] at aware readable date
    exact ⟨date.symm, start.symm, stop.symm, ⟨aware rfl, readable, small⟩, ⟨first, last⟩,
      startInRange, endInRange⟩
  · intro isWindow
    obtain ⟨reviewDate, startUtc, endUtc⟩ := window
    obtain ⟨date, start, stop, ⟨instant, readable, small⟩, ⟨first, last⟩, startInRange,
      endInRange⟩ := isWindow
    have moved : MarketCalendar.asTimezone days.zones market (.utc now) =
        .ok (days.zones.wallClock market now) := by
      rw [asTimezone_eq_ok, DateTime.utc_instant]
      exact ⟨fun _ => instant, readable, rfl⟩
    have dated : Day.minusDays (days.zones.wallClock market now / microsecondsPerDay) daysAgo =
        .ok reviewDate :=
      minusDays_eq_ok.mpr ⟨small, ⟨first, (Int.le_add_one le_rfl).trans last⟩, date.symm⟩
    have follows : Day.minusDays reviewDate (-1) = .ok (reviewDate + 1) :=
      minusDays_eq_ok.mpr ⟨by norm_num, ⟨first.trans (Int.le_add_one le_rfl), last⟩,
        sub_neg_eq_add reviewDate 1⟩
    have starts := midnightUtc_eq_ok.mpr ⟨startInRange, start.symm⟩
    have ends := midnightUtc_eq_ok.mpr ⟨endInRange, stop.symm⟩
    simp only [moved, dated, follows, starts, ends, bind, Except.bind, pure, Except.pure]

/-- A value lies in a window exactly when its local date is the review date; windows
of consecutive dates meet; and the day of a value starts where its window does. -/
theorem marketDays_agree (days : MarketDays) (lawful : days.Lawful) (market : Market)
    (now daysAgo : ℤ) (window : MarketDayWindow)
    (returned : marketDayWindow days market now daysAgo = .ok window) :
    (∀ value : DateTime, window.Contains value.instant ↔
        marketLocalDate days.zones market value = .ok window.reviewDate) ∧
      (∀ reading count next, marketDayWindow days market reading count = .ok next →
        next.reviewDate = window.reviewDate + 1 → next.startUtc = window.endUtc) ∧
      ∀ value : DateTime, marketLocalDate days.zones market value = .ok window.reviewDate →
        days.dayStart market value.instant = window.startUtc := by
  have isWindow := marketDayWindow_eq_ok.mp returned
  refine ⟨fun value => ?_, fun reading count next other follows => ?_, fun value dated => ?_⟩
  · have begun := lawful market window.reviewDate value.instant
    have ended := lawful market (window.reviewDate + 1) value.instant
    rw [← isWindow.startUtc] at begun
    rw [← isWindow.endUtc, Int.add_one_le_iff] at ended
    rw [MarketDayWindow.Contains, ← not_le, ended, begun, marketLocalDate_eq_ok]
    constructor
    · rintro ⟨since, before⟩
      have onDay := le_antisymm (not_lt.mp before) since
      have instant := inRange_between isWindow.startInRange isWindow.endInRange
        (isWindow.startUtc ▸ (lawful market _ _).mpr since)
        (not_lt.mp fun past => before ((lawful market _ _).mp (isWindow.endUtc ▸ past.le)))
      exact ⟨fun _ => instant, ⟨isWindow.dated.1, (Int.le_add_one le_rfl).trans isWindow.dated.2⟩,
        onDay⟩
    · rintro ⟨-, -, onDay⟩
      exact ⟨onDay.ge, onDay.not_gt⟩
  · rw [(marketDayWindow_eq_ok.mp other).startUtc, follows, isWindow.endUtc]
  · obtain ⟨-, -, onDay⟩ := marketLocalDate_eq_ok.mp dated
    rw [MarketDays.dayStart, onDay, isWindow.startUtc]

/-- Indian Standard Time, and Eastern Time of 2026, whose clocks go forward on 8 March
and back on 1 November. -/
def easternZones : MarketZones
  | .india, _ => 19800000000
  | .us, instant =>
    if 20520 * microsecondsPerDay + 25200000000 ≤ instant ∧
        instant < 20758 * microsecondsPerDay + 21600000000 then -14400000000
    else -18000000000

def easternDays : MarketDays where
  zones := easternZones
  midnight
    | .india, day => day * microsecondsPerDay - 19800000000
    | .us, (day : ℤ) =>
      if 20520 < day ∧ day ≤ 20758 then day * microsecondsPerDay + 14400000000
      else day * microsecondsPerDay + 18000000000

/-- The midnight of a day is the one instant which reads it. -/
theorem easternDays_wallClock (market : Market) (day instant : ℤ) :
    easternDays.zones.wallClock market instant = day * microsecondsPerDay ↔
      instant = easternDays.midnight market day := by
  cases market with
  | india =>
    simp only [easternDays, easternZones, MarketZones.wallClock, microsecondsPerDay]
    omega
  | us =>
    simp only [easternDays, easternZones, MarketZones.wallClock, microsecondsPerDay]
    split_ifs <;> omega

theorem easternDays_mono (market : Market) {first second : ℤ} (inOrder : first ≤ second) :
    easternDays.zones.wallClock market first / microsecondsPerDay ≤
      easternDays.zones.wallClock market second / microsecondsPerDay := by
  cases market with
  | india =>
    simp only [easternDays, easternZones, MarketZones.wallClock, microsecondsPerDay]
    omega
  | us =>
    simp only [easternDays, easternZones, MarketZones.wallClock, microsecondsPerDay]
    split_ifs <;> omega

theorem easternDays_begins (market : Market) (day instant : ℤ)
    (reads : easternDays.zones.wallClock market instant = day * microsecondsPerDay) :
    easternDays.zones.wallClock market (instant - 1) / microsecondsPerDay < day := by
  rw [easternDays_wallClock] at reads
  subst reads
  cases market with
  | india =>
    simp only [easternDays, easternZones, MarketZones.wallClock, microsecondsPerDay]
    omega
  | us =>
    simp only [easternDays, easternZones, MarketZones.wallClock, microsecondsPerDay]
    split_ifs <;> omega

theorem easternDays_regular : easternDays.Regular where
  mono market _ _ inOrder := easternDays_mono market inOrder
  midnight market day :=
    ⟨easternDays.midnight market day, (easternDays_wallClock market day _).mpr rfl,
      fun instant reads => (easternDays_wallClock market day instant).mp reads⟩
  begins := easternDays_begins
  moved market day _ only :=
    (only _).mp ((easternDays_wallClock market day _).mpr rfl)

/-- On the day on which the clocks go forward, the window has 23 hours. -/
theorem marketDays_agree_eastern :
    let window : MarketDayWindow := ⟨20520, 1772946000000000, 1773028800000000⟩
    marketDayWindow easternDays .us 1773057600000000 1 = .ok window ∧
      (∀ value : DateTime, window.Contains value.instant ↔
        marketLocalDate easternDays.zones .us value = .ok window.reviewDate) ∧
      (∀ reading count next, marketDayWindow easternDays .us reading count = .ok next →
        next.reviewDate = window.reviewDate + 1 → next.startUtc = window.endUtc) ∧
      ∀ value : DateTime, marketLocalDate easternDays.zones .us value = .ok window.reviewDate →
        easternDays.dayStart .us value.instant = window.startUtc := by
  have returned : marketDayWindow easternDays .us 1773057600000000 1 =
      .ok ⟨20520, 1772946000000000, 1773028800000000⟩ := by
    decide +kernel
  exact ⟨returned, marketDays_agree easternDays easternDays_regular.lawful .us 1773057600000000 1
    _ returned⟩

end Performance
end AlphaAgent
