import AlphaAgent.Core.IsoFormat
import AlphaAgent.Core.MarketTime
import AlphaAgent.Foundation.Dict
import AlphaAgent.Schemas.Status
import Mathlib.Data.List.Basic

/-!
# Market calendar

`app/risk/market_calendar.py`. The overrides are free text: comma-separated dates,
and comma-separated early closes `date=time`, of which a later one for a date
replaces an earlier one. A text which does not parse makes the status unknown.
-/

namespace AlphaAgent.Risk

open Foundation IsoFormat

/-- `str.isspace` of a character. -/
def isSpace (c : Char) : Bool :=
  let code := c.toNat
  (9 ≤ code && code ≤ 13) || (28 ≤ code && code ≤ 32) || code = 0x85 || code = 0xa0 ||
    code = 0x1680 || (0x2000 ≤ code && code ≤ 0x200a) || code = 0x2028 || code = 0x2029 ||
    code = 0x202f || code = 0x205f || code = 0x3000

/-- `str.strip()`. -/
def strip (text : List Char) : List Char :=
  ((text.dropWhile isSpace).reverse.dropWhile isSpace).reverse

/-- A year under `Field(ge=2026)`. -/
abbrev VerifiedYear := {year : ℤ // 2026 ≤ year}

def VerifiedYear.default : VerifiedYear := ⟨2026, le_rfl⟩

/-- The settings which the calendar reads, with their defaults. -/
structure CalendarSettings where
  marketCalendarFailClosedAfterVerifiedYear : Bool := true
  marketCalendarVerifiedThroughYear : VerifiedYear := .default
  indiaMarketHolidayOverrides : String := ""
  usMarketHolidayOverrides : String := ""
  indiaMarketSpecialOpenDates : String := ""
  usMarketSpecialOpenDates : String := ""
  indiaMarketEarlyCloseOverrides : String := ""
  usMarketEarlyCloseOverrides : String := ""
deriving DecidableEq

namespace CalendarSettings

variable (settings : CalendarSettings)

def holidayOverrides : Market → String
  | .india => settings.indiaMarketHolidayOverrides
  | .us => settings.usMarketHolidayOverrides

def specialOpenDates : Market → String
  | .india => settings.indiaMarketSpecialOpenDates
  | .us => settings.usMarketSpecialOpenDates

def earlyCloseOverrides : Market → String
  | .india => settings.indiaMarketEarlyCloseOverrides
  | .us => settings.usMarketEarlyCloseOverrides

end CalendarSettings

def indiaTradingHolidays2026 : List String :=
  ["2026-01-26", "2026-03-03", "2026-03-26", "2026-03-31", "2026-04-03", "2026-04-14",
    "2026-05-01", "2026-05-28", "2026-06-26", "2026-09-14", "2026-10-02", "2026-10-20",
    "2026-11-10", "2026-11-24", "2026-12-25"]

def usTradingHolidays2026 : List String :=
  ["2026-01-01", "2026-01-19", "2026-02-16", "2026-04-03", "2026-05-25", "2026-06-19",
    "2026-07-03", "2026-09-07", "2026-11-26", "2026-12-25"]

/-- `STATIC_TRADING_HOLIDAYS`, of which 2026 is the only year. -/
def staticTradingHolidays (market : Market) (year : ℤ) : Option (List String) :=
  if year = 2026 then
    some (match market with
      | .india => indiaTradingHolidays2026
      | .us => usTradingHolidays2026)
  else none

/-- A status of the calendar with its reason. -/
structure CalendarStatus extends MarketCalendarStatus where
  reason : String
deriving DecidableEq

namespace MarketCalendar

/-- `_csv_items`. -/
def csvItems (raw : String) : List (List Char) :=
  ((raw.toList.splitOn ',').map strip).filter (· ≠ [])

/-- `_configured_dates`, of a text which is for dates of a kind. -/
def configuredDates (raw kind : String) : Except String (List Day) :=
  match (csvItems raw).mapM readDate with
  | some days => .ok days
  | none => .error ("calendar_invalid_" ++ kind ++ "_date")

/-- An early close, read on both sides of the first equals sign. -/
def readEarlyClose (item : List Char) : Option (Day × ClockTime) :=
  match item.dropWhile (· ≠ '=') with
  | [] => none
  | _ :: rawTime => do
    let day ← readDate (strip (item.takeWhile (· ≠ '=')))
    let time ← readTime (strip rawTime)
    return (day, time)

/-- Set the early closes one after the other. -/
def setAll (closes : List (Day × ClockTime)) : Dict Day ClockTime :=
  closes.foldl (fun parsed close => parsed.set close.1 close.2) .empty

/-- `_configured_early_closes`. -/
def configuredEarlyCloses (raw : String) : Except String (Dict Day ClockTime) :=
  match (csvItems raw).mapM readEarlyClose with
  | some closes => .ok (setAll closes)
  | none => .error "calendar_invalid_early_close"

/-- What is configured for a market. -/
structure Overrides where
  holidays : List Day
  specialOpen : List Day
  earlyCloses : Dict Day ClockTime

/-- The overrides of a market, or the first of their errors. -/
def overridesOf (settings : CalendarSettings) (market : Market) : Except String Overrides := do
  let holidays ← configuredDates (settings.holidayOverrides market) "holiday"
  let specialOpen ← configuredDates (settings.specialOpenDates market) "special_open"
  let earlyCloses ← configuredEarlyCloses (settings.earlyCloseOverrides market)
  return { holidays, specialOpen, earlyCloses }

/-- `_holiday_source_unavailable`. -/
def holidaySourceUnavailable (settings : CalendarSettings) (market : Market) (localDay : Day) :
    Bool :=
  settings.marketCalendarFailClosedAfterVerifiedYear &&
    decide (settings.marketCalendarVerifiedThroughYear.1 < localDay.year) &&
    (staticTradingHolidays market localDay.year).isNone

/-- `_static_holidays`. -/
def staticHolidays (market : Market) (year : ℤ) : List String :=
  (staticTradingHolidays market year).getD []

/-- Why there is no session on a day, if so. -/
def closedReason (market : Market) (overrides : Overrides) (localDay : Day) : Option String :=
  if localDay ∈ overrides.specialOpen then none
  else if 5 ≤ localDay.weekday then some "weekend_market_closed"
  else if localDay ∈ overrides.holidays then some "configured_exchange_holiday"
  else if localDay.isoformat ∈ staticHolidays market localDay.year then some "exchange_holiday"
  else none

/-- A time of day in microseconds. -/
def clock (hour minute : ℤ) : ℤ := (hour * 60 + minute) * 60000000

def sessionOpen : Market → ℤ
  | .india => clock 9 15
  | .us => clock 9 30

def sessionClose : Market → ℤ
  | .india => clock 15 30
  | .us => clock 16 0

/-- The close of a day, which may be an early one. -/
def closeOn (market : Market) (overrides : Overrides) (localDay : Day) : ClockTime :=
  (overrides.earlyCloses.get? localDay).getD (.naive (sessionClose market))

/-- The status on a day with a session. A close with an offset cannot be compared. -/
def sessionStatus (market : Market) (overrides : Overrides) (localDay localTime : ℤ) :
    Except RaisedError CalendarStatus :=
  let close := closeOn market overrides localDay
  if close.isAware then .error (.typeError "can't compare offset-naive and offset-aware times")
  else if close.sinceMidnight ≤ sessionOpen market then
    .ok ⟨⟨market, .unknown⟩, "calendar_early_close_before_open"⟩
  else if sessionOpen market ≤ localTime ∧ localTime < close.sinceMidnight then
    .ok ⟨⟨market, .open⟩,
      if localDay ∈ overrides.specialOpen then "special_session_open" else "regular_session_open"⟩
  else
    .ok ⟨⟨market, .closed⟩,
      if overrides.earlyCloses.contains localDay ∧ close.sinceMidnight ≤ localTime then
        "after_configured_early_close"
      else "outside_regular_session"⟩

/-- The status at a reading of the clock of the market. -/
def statusOn (settings : CalendarSettings) (market : Market) (localDay localTime : ℤ) :
    Except RaisedError CalendarStatus :=
  match overridesOf settings market with
  | .error reason => .ok ⟨⟨market, .unknown⟩, reason⟩
  | .ok overrides =>
    if holidaySourceUnavailable settings market localDay then
      .ok ⟨⟨market, .unknown⟩, "calendar_holiday_source_unavailable"⟩
    else
      match closedReason market overrides localDay with
      | some reason => .ok ⟨⟨market, .closed⟩, reason⟩
      | none => sessionStatus market overrides localDay localTime

/-- `as_timezone` for a market: its wall clock, which fails past either end of the
calendar. -/
def asTimezone (zones : MarketZones) (market : Market) (now : DateTime) :
    Except RaisedError ℤ := do
  let utc ← now.toUtc
  let wallClock := zones.wallClock market utc.instant
  if DateTime.inRange wallClock then return wallClock
  else throw (.overflowError "date value out of range")

/-- `MarketCalendar.status`. -/
def status (settings : CalendarSettings) (zones : MarketZones) (market : Market) (now : DateTime) :
    Except RaisedError CalendarStatus := do
  let wallClock ← asTimezone zones market now
  statusOn settings market (wallClock / microsecondsPerDay) (wallClock % microsecondsPerDay)

section Parsing

variable {α β : Type*}

/-- Reading every item succeeds exactly when each can be read, and reads them in order. -/
theorem mapM_eq_some_iff {read : α → Option β} {items : List α} {values : List β} :
    items.mapM read = some values ↔
      (∀ item ∈ items, read item ≠ none) ∧ items.filterMap read = values := by
  induction items generalizing values with
  | nil => simp [eq_comm]
  | cons item rest ih =>
    rw [List.mapM_cons, List.forall_mem_cons]
    cases reads : read item with
    | none => simp
    | some value =>
      rw [List.filterMap_cons_some reads]
      cases rests : rest.mapM read with
      | none =>
        have unreadable : ¬∀ item ∈ rest, read item ≠ none := fun readable =>
          nomatch rests.symm.trans (ih.mpr ⟨readable, rfl⟩)
        simp [unreadable]
      | some others =>
        obtain ⟨readable, parsed⟩ := ih.mp rests
        rw [parsed]
        exact ⟨fun read => ⟨⟨nofun, readable⟩, Option.some.inj read⟩, fun same => same.2 ▸ rfl⟩

theorem mapM_eq_none_iff {read : α → Option β} {items : List α} :
    items.mapM read = none ↔ ¬∀ item ∈ items, read item ≠ none := by
  cases reads : items.mapM read with
  | none =>
    refine iff_of_true rfl fun readable => ?_
    exact nomatch reads.symm.trans (mapM_eq_some_iff.mpr ⟨readable, rfl⟩)
  | some values => exact iff_of_false nofun (not_not.mpr (mapM_eq_some_iff.mp reads).1)

variable (settings : CalendarSettings) (market : Market)

/-- Every override of a market parses. -/
structure Readable : Prop where
  holidays : ∀ item ∈ csvItems (settings.holidayOverrides market), readDate item ≠ none
  specialOpen : ∀ item ∈ csvItems (settings.specialOpenDates market), readDate item ≠ none
  earlyCloses : ∀ item ∈ csvItems (settings.earlyCloseOverrides market),
    readEarlyClose item ≠ none

/-- The early closes of a text, in their order. -/
def closesOf (raw : String) : List (Day × ClockTime) := (csvItems raw).filterMap readEarlyClose

/-- What the overrides of a market say, where they parse. -/
def parsed : Overrides where
  holidays := (csvItems (settings.holidayOverrides market)).filterMap readDate
  specialOpen := (csvItems (settings.specialOpenDates market)).filterMap readDate
  earlyCloses := setAll (closesOf (settings.earlyCloseOverrides market))

variable {settings market}

theorem configuredDates_readable {raw : String} (kind : String)
    (readable : ∀ item ∈ csvItems raw, readDate item ≠ none) :
    configuredDates raw kind = .ok ((csvItems raw).filterMap readDate) := by
  rw [configuredDates, mapM_eq_some_iff.mpr ⟨readable, rfl⟩]

theorem configuredDates_unreadable {raw : String} (kind : String)
    (unreadable : ¬∀ item ∈ csvItems raw, readDate item ≠ none) :
    configuredDates raw kind = .error ("calendar_invalid_" ++ kind ++ "_date") := by
  rw [configuredDates, mapM_eq_none_iff.mpr unreadable]

theorem overridesOf_readable (readable : Readable settings market) :
    overridesOf settings market = .ok (parsed settings market) := by
  rw [overridesOf, configuredDates_readable _ readable.holidays,
    configuredDates_readable _ readable.specialOpen, configuredEarlyCloses,
    mapM_eq_some_iff.mpr ⟨readable.earlyCloses, rfl⟩]
  rfl

/-- What is said of an override which does not parse. -/
def configErrors : List String :=
  ["calendar_invalid_holiday_date", "calendar_invalid_special_open_date",
    "calendar_invalid_early_close"]

/-- An override which does not parse is an error, whatever the others are. -/
theorem overridesOf_unreadable (unreadable : ¬Readable settings market) :
    ∃ reason ∈ configErrors, overridesOf settings market = .error reason := by
  rw [overridesOf]
  by_cases holidays : ∀ item ∈ csvItems (settings.holidayOverrides market), readDate item ≠ none
  · rw [configuredDates_readable _ holidays]
    by_cases special : ∀ item ∈ csvItems (settings.specialOpenDates market), readDate item ≠ none
    · rw [configuredDates_readable _ special, configuredEarlyCloses,
        mapM_eq_none_iff.mpr fun closes => unreadable ⟨holidays, special, closes⟩]
      exact ⟨_, by decide, rfl⟩
    · rw [configuredDates_unreadable _ special]
      exact ⟨_, by decide, rfl⟩
  · rw [configuredDates_unreadable _ holidays]
    exact ⟨_, by decide, rfl⟩

end Parsing

section Status

variable {settings : CalendarSettings} {market : Market} {localDay localTime : ℤ}

/-- The overrides parse, the holidays of the year are known, and there is a session on the day. -/
structure HasSession (settings : CalendarSettings) (market : Market) (localDay : Day) : Prop where
  readable : Readable settings market
  available : holidaySourceUnavailable settings market localDay = false
  trades : closedReason market (parsed settings market) localDay = none

/-- Without an override which parses the status is unknown. -/
theorem statusOn_unreadable (localTime : ℤ) (unreadable : ¬Readable settings market) :
    ∃ status, statusOn settings market localDay localTime = .ok status ∧
      status.state = .unknown := by
  obtain ⟨reason, -, failed⟩ := overridesOf_unreadable unreadable
  rw [statusOn, failed]
  exact ⟨_, rfl, rfl⟩

theorem statusOn_unavailable (localTime : ℤ) (readable : Readable settings market)
    (unavailable : holidaySourceUnavailable settings market localDay = true) :
    ∃ status, statusOn settings market localDay localTime = .ok status ∧
      status.state = .unknown := by
  rw [statusOn, overridesOf_readable readable]
  dsimp only
  rw [if_pos unavailable]
  exact ⟨_, rfl, rfl⟩

/-- On a day without a session the status is closed. -/
theorem statusOn_closed (localTime : ℤ) (readable : Readable settings market)
    (available : holidaySourceUnavailable settings market localDay = false)
    (shut : closedReason market (parsed settings market) localDay ≠ none) :
    ∃ status, statusOn settings market localDay localTime = .ok status ∧
      status.state = .closed := by
  obtain ⟨reason, found⟩ := Option.ne_none_iff_exists'.mp shut
  rw [statusOn, overridesOf_readable readable]
  dsimp only
  rw [available, if_neg Bool.false_ne_true, found]
  exact ⟨_, rfl, rfl⟩

theorem statusOn_session (session : HasSession settings market localDay) :
    statusOn settings market localDay localTime =
      sessionStatus market (parsed settings market) localDay localTime := by
  rw [statusOn, overridesOf_readable session.readable]
  dsimp only
  rw [session.available, if_neg Bool.false_ne_true, session.trades]

/-- Without a session there is a status, which is not open. -/
theorem statusOn_noSession (localTime : ℤ) (idle : ¬HasSession settings market localDay) :
    ∃ status, statusOn settings market localDay localTime = .ok status ∧
      status.state ≠ .open := by
  by_cases readable : Readable settings market
  · cases available : holidaySourceUnavailable settings market localDay with
    | true =>
      obtain ⟨status, found, unknown⟩ := statusOn_unavailable localTime readable available
      exact ⟨status, found, unknown ▸ nofun⟩
    | false =>
      obtain ⟨status, found, closed⟩ :=
        statusOn_closed localTime readable available
          fun trades => idle ⟨readable, available, trades⟩
      exact ⟨status, found, closed ▸ nofun⟩
  · obtain ⟨status, found, unknown⟩ := statusOn_unreadable localTime readable
    exact ⟨status, found, unknown ▸ nofun⟩

/-- A close with an offset cannot be compared with the open. -/
theorem sessionStatus_aware {overrides : Overrides}
    (aware : (closeOn market overrides localDay).isAware = true) :
    sessionStatus market overrides localDay localTime =
      .error (.typeError "can't compare offset-naive and offset-aware times") := by
  rw [sessionStatus]
  exact if_pos aware

/-- With a local close there is a status: unknown before the open, open from then
to the close, and closed otherwise. -/
theorem sessionStatus_naive {overrides : Overrides} (localTime : ℤ)
    (naive : (closeOn market overrides localDay).isAware = false) :
    ∃ status, sessionStatus market overrides localDay localTime = .ok status ∧
      (status.state = .unknown ↔
        (closeOn market overrides localDay).sinceMidnight ≤ sessionOpen market) ∧
      (status.state = .open ↔ sessionOpen market ≤ localTime ∧
        localTime < (closeOn market overrides localDay).sinceMidnight) := by
  simp only [sessionStatus, naive, if_neg Bool.false_ne_true]
  by_cases early : (closeOn market overrides localDay).sinceMidnight ≤ sessionOpen market
  · rw [if_pos early]
    refine ⟨_, rfl, iff_of_true rfl early, iff_of_false nofun ?_⟩
    exact fun ⟨opened, before⟩ => absurd (opened.trans_lt before) early.not_gt
  · rw [if_neg early]
    by_cases inside : sessionOpen market ≤ localTime ∧
        localTime < (closeOn market overrides localDay).sinceMidnight
    · rw [if_pos inside]
      exact ⟨_, rfl, iff_of_false nofun early, iff_of_true rfl inside⟩
    · rw [if_neg inside]
      exact ⟨_, rfl, iff_of_false nofun early, iff_of_false nofun inside⟩

/-- The status is open exactly in a session which has opened and has a local close still
to come. -/
theorem statusOn_open_iff :
    (∃ status, statusOn settings market localDay localTime = .ok status ∧
        status.state = .open) ↔
      HasSession settings market localDay ∧
        (closeOn market (parsed settings market) localDay).isAware = false ∧
        sessionOpen market ≤ localTime ∧
        localTime < (closeOn market (parsed settings market) localDay).sinceMidnight := by
  by_cases session : HasSession settings market localDay
  · rw [statusOn_session session]
    cases aware : (closeOn market (parsed settings market) localDay).isAware with
    | true =>
      rw [sessionStatus_aware aware]
      exact iff_of_false (fun ⟨_, failed, _⟩ => nomatch failed) fun ⟨_, naive, _⟩ => nomatch naive
    | false =>
      obtain ⟨status, found, -, opens⟩ := sessionStatus_naive localTime aware
      rw [found]
      constructor
      · rintro ⟨_, same, isOpen⟩
        cases same
        exact ⟨session, rfl, opens.mp isOpen⟩
      · rintro ⟨-, -, inside⟩
        exact ⟨status, rfl, opens.mpr inside⟩
  · obtain ⟨status, found, shut⟩ := statusOn_noSession localTime session
    rw [found]
    refine iff_of_false ?_ fun both => session both.1
    rintro ⟨_, same, isOpen⟩
    cases same
    exact shut isOpen

/-- A status is that of a reading of the local clock. -/
theorem status_eq {zones : MarketZones} {now : DateTime} {wallClock : ℤ}
    (moved : asTimezone zones market now = .ok wallClock) :
    status settings zones market now = statusOn settings market (wallClock / microsecondsPerDay)
      (wallClock % microsecondsPerDay) := by
  rw [status, moved]
  rfl

theorem status_raised {zones : MarketZones} {now : DateTime} {raised : RaisedError}
    (failed : asTimezone zones market now = .error raised) :
    status settings zones market now = .error raised := by
  rw [status, failed]
  rfl

end Status

end MarketCalendar
end AlphaAgent.Risk
