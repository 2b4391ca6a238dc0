import AlphaAgent.Risk.MarketCalendar
import Mathlib.Data.List.Induction

/-!
# Adding restrictive overrides

A holiday which is added to the overrides only takes sessions away. An early close
which is added replaces the close of its day, so it can also give time back: that
of the regular session, or of an earlier close of the same day.
-/

namespace AlphaAgent.Risk.MarketCalendar

open Foundation IsoFormat

section LastClose

/-- The last of the closes which are for a day. -/
def lastFor (closes : List (Day × ClockTime)) (day : Day) : Option ClockTime :=
  (closes.reverse.find? (·.1 = day)).map Prod.snd

theorem lastFor_append (earlier later : List (Day × ClockTime)) (day : Day) :
    lastFor (earlier ++ later) day = (lastFor later day).or (lastFor earlier day) := by
  rw [lastFor, List.reverse_append, List.find?_append, Option.map_or]
  rfl

theorem lastFor_single (close : Day × ClockTime) (day : Day) :
    lastFor [close] day = if close.1 = day then some close.2 else none := by
  rw [lastFor, List.reverse_singleton, List.find?_singleton]
  by_cases same : close.1 = day <;> simp [same]

/-- Of the early closes of a day the last one counts. -/
theorem get?_setAll (closes : List (Day × ClockTime)) (day : Day) :
    (setAll closes).get? day = lastFor closes day := by
  induction closes using List.reverseRecOn with
  | nil => rfl
  | append_singleton closes close ih =>
    rw [lastFor_append, lastFor_single, ← ih, setAll, List.foldl_append]
    change (Dict.set _ _ _).get? day = _
    rw [Dict.get?_set]
    by_cases same : close.1 = day
    · rw [if_pos same, if_pos same.symm]
      rfl
    · rw [if_neg same, if_neg (Ne.symm same)]
      rfl

end LastClose

/-- What is added to the overrides of a market. Of an early close it matters what
follows it there. -/
inductive RestrictiveEntry where
  | holiday (day : Day)
  | earlyClose (day : Day) (time : ClockTime) (later : List (Day × ClockTime))

section Added

variable (settings : CalendarSettings)

/-- The settings with another text for the holidays of a market. -/
def withHolidays : Market → String → CalendarSettings
  | .india, raw => { settings with indiaMarketHolidayOverrides := raw }
  | .us, raw => { settings with usMarketHolidayOverrides := raw }

/-- The settings with another text for the early closes of a market. -/
def withEarlyCloses : Market → String → CalendarSettings
  | .india, raw => { settings with indiaMarketEarlyCloseOverrides := raw }
  | .us, raw => { settings with usMarketEarlyCloseOverrides := raw }

/-- A well-formed entry is added in some place among the items of an override text. -/
inductive Adds (market : Market) : CalendarSettings → RestrictiveEntry → Prop
  | holiday {raw : String} {earlier later : List (List Char)} {item : List Char} {day : Day}
      (before : csvItems (settings.holidayOverrides market) = earlier ++ later)
      (after : csvItems raw = earlier ++ item :: later) (wellFormed : readDate item = some day) :
      Adds market (withHolidays settings market raw) (.holiday day)
  | earlyClose {raw : String} {earlier later : List (List Char)} {item : List Char} {day : Day}
      {time : ClockTime}
      (before : csvItems (settings.earlyCloseOverrides market) = earlier ++ later)
      (after : csvItems raw = earlier ++ item :: later)
      (wellFormed : readEarlyClose item = some (day, time)) :
      Adds market (withEarlyCloses settings market raw)
        (.earlyClose day time (later.filterMap readEarlyClose))

end Added

section Statuses

variable (zones : MarketZones) (market : Market) (now : DateTime)

/-- A status which is not open stays so with other settings. -/
def StaysShut (before after : CalendarSettings) : Prop :=
  ∀ first second, status before zones market now = .ok first → first.state ≠ .open →
    status after zones market now = .ok second → second.state ≠ .open

/-- The early close gives time back at a reading of the local clock: it is for this day and
the last one for it, there is a session, and the time is after the close so far and before
the new one. Both are local times. -/
structure GivesBack (settings : CalendarSettings) (localDay localTime : ℤ) (day : Day)
    (time : ClockTime) (later : List (Day × ClockTime)) : Prop where
  today : localDay = day
  lasts : lastFor later day = none
  session : HasSession settings market localDay
  naive : time.isAware = false
  closeNaive : (closeOn market (parsed settings market) localDay).isAware = false
  closed : (closeOn market (parsed settings market) localDay).sinceMidnight ≤ localTime
  opened : sessionOpen market ≤ localTime
  inside : localTime < time.sinceMidnight

/-- An entry gives time back at an instant. Only an early close can. -/
def Reopens (settings : CalendarSettings) : RestrictiveEntry → Prop
  | .holiday _ => False
  | .earlyClose day time later => ∃ wallClock, asTimezone zones market now = .ok wallClock ∧
      GivesBack market settings (wallClock / microsecondsPerDay) (wallClock % microsecondsPerDay)
        day time later

end Statuses

section Holiday

variable {settings : CalendarSettings} {market : Market} {raw : String} {localDay : Day}
  {earlier later : List (List Char)} {item : List Char} {day : Day}

/-- Fewer holidays leave more sessions. -/
theorem closedReason_of_subset {before after : Overrides}
    (special : after.specialOpen = before.specialOpen) (fewer : before.holidays ⊆ after.holidays)
    (trades : closedReason market after localDay = none) :
    closedReason market before localDay = none := by
  unfold closedReason at trades ⊢
  rw [special] at trades
  split_ifs at trades ⊢ with isSpecial weekend isHoliday isStatic
  · rfl
  · exact absurd (fewer isHoliday) ‹_›
  · rfl

/-- Where there is a session with one more holiday there is one without it. -/
theorem hasSession_of_holiday
    (before : csvItems (settings.holidayOverrides market) = earlier ++ later)
    (after : csvItems raw = earlier ++ item :: later)
    (session : HasSession (withHolidays settings market raw) market localDay) :
    HasSession settings market localDay := by
  have items : csvItems ((withHolidays settings market raw).holidayOverrides market) =
      earlier ++ item :: later := by cases market <;> exact after
  have fewer : csvItems (settings.holidayOverrides market) ⊆
      csvItems ((withHolidays settings market raw).holidayOverrides market) := by
    rw [before, items]
    intro text member
    rw [List.mem_append] at member ⊢
    exact member.imp_right (List.mem_cons_of_mem item)
  obtain ⟨⟨holidays, specialOpen, earlyCloses⟩, available, trades⟩ := session
  refine ⟨⟨fun text member => holidays text (fewer member), ?_, ?_⟩, ?_, ?_⟩
  · cases market <;> exact specialOpen
  · cases market <;> exact earlyCloses
  · cases market <;> exact available
  · have sameSpecial : (parsed (withHolidays settings market raw) market).specialOpen =
        (parsed settings market).specialOpen := by cases market <;> rfl
    exact closedReason_of_subset sameSpecial (List.filterMap_subset readDate fewer) trades

/-- The close of a day does not depend on the holidays. -/
theorem closeOn_withHolidays : closeOn market (parsed (withHolidays settings market raw) market)
    localDay = closeOn market (parsed settings market) localDay := by
  cases market <;> rfl

end Holiday

section EarlyClose

variable {settings : CalendarSettings} {market : Market} {raw : String} {localDay : Day}
  {earlier later : List (List Char)} {item : List Char} {day : Day} {time : ClockTime}

/-- The sessions do not depend on the early closes, as long as these parse. -/
theorem hasSession_withEarlyCloses
    (same : (∀ item ∈ csvItems raw, readEarlyClose item ≠ none) ↔
      ∀ item ∈ csvItems (settings.earlyCloseOverrides market), readEarlyClose item ≠ none) :
    HasSession (withEarlyCloses settings market raw) market localDay ↔
      HasSession settings market localDay := by
  constructor
  · rintro ⟨⟨holidays, specialOpen, earlyCloses⟩, available, trades⟩
    cases market <;>
      exact ⟨⟨holidays, specialOpen, same.mp earlyCloses⟩, available, trades⟩
  · rintro ⟨⟨holidays, specialOpen, earlyCloses⟩, available, trades⟩
    cases market <;>
      exact ⟨⟨holidays, specialOpen, same.mpr earlyCloses⟩, available, trades⟩

/-- One more item which parses does not decide whether all of them do. -/
theorem readable_added
    (before : csvItems (settings.earlyCloseOverrides market) = earlier ++ later)
    (after : csvItems raw = earlier ++ item :: later)
    (wellFormed : readEarlyClose item = some (day, time)) :
    (∀ item ∈ csvItems raw, readEarlyClose item ≠ none) ↔
      ∀ item ∈ csvItems (settings.earlyCloseOverrides market), readEarlyClose item ≠ none := by
  rw [before, after]
  simp only [List.forall_mem_append, List.forall_mem_cons, wellFormed]
  exact and_congr_right fun _ => and_iff_right nofun

/-- The new close is in force on its day, unless a later one is for that day too. -/
theorem closeOn_added
    (before : csvItems (settings.earlyCloseOverrides market) = earlier ++ later)
    (after : csvItems raw = earlier ++ item :: later)
    (wellFormed : readEarlyClose item = some (day, time)) :
    closeOn market (parsed (withEarlyCloses settings market raw) market) localDay =
      if localDay = day ∧ lastFor (later.filterMap readEarlyClose) day = none then time
      else closeOn market (parsed settings market) localDay := by
  have items : csvItems ((withEarlyCloses settings market raw).earlyCloseOverrides market) =
      earlier ++ item :: later := by cases market <;> exact after
  simp only [closeOn, parsed, closesOf, get?_setAll, before, items, List.filterMap_append,
    List.filterMap_cons_some wellFormed]
  rw [← List.singleton_append, lastFor_append, lastFor_append, lastFor_append, lastFor_single]
  by_cases today : localDay = day
  · subst today
    rw [if_pos rfl]
    cases lastFor (later.filterMap readEarlyClose) localDay with
    | none => simp
    | some close => simp
  · rw [if_neg (Ne.symm today), if_neg fun both => today both.1]
    simp

end EarlyClose

section Main

variable {zones : MarketZones} {market : Market} {now : DateTime} {before after : CalendarSettings}

/-- Whether a status stays shut is seen on the local clock, where there is a reading of it. -/
theorem staysShut_of_moved {wallClock : ℤ} (moved : asTimezone zones market now = .ok wallClock) :
    StaysShut zones market now before after ↔
      ∀ first, statusOn before market (wallClock / microsecondsPerDay)
          (wallClock % microsecondsPerDay) = .ok first → first.state ≠ .open →
        ¬∃ second, statusOn after market (wallClock / microsecondsPerDay)
          (wallClock % microsecondsPerDay) = .ok second ∧ second.state = .open := by
  simp only [StaysShut, status_eq moved, not_exists, not_and]
  exact ⟨fun shut first found closed second => shut first second found closed,
    fun shut first second found closed => shut first found closed second⟩

/-- Where the early close is in force, it opens what was not open exactly when it gives
time back. -/
theorem shut_iff_of_replaced {localDay localTime : ℤ} {day : Day} {time : ClockTime}
    {later : List (Day × ClockTime)} (today : localDay = day) (lasts : lastFor later day = none) :
    (∀ first, statusOn before market localDay localTime = .ok first → first.state ≠ .open →
        ¬(HasSession before market localDay ∧ time.isAware = false ∧
          sessionOpen market ≤ localTime ∧ localTime < time.sinceMidnight)) ↔
      ¬GivesBack market before localDay localTime day time later := by
  constructor
  · intro shut gives
    obtain ⟨status, found, -, opens⟩ := sessionStatus_naive localTime gives.closeNaive
    have notOpen : status.state ≠ .open :=
      fun isOpen => (opens.mp isOpen).2.not_ge gives.closed
    exact shut status ((statusOn_session gives.session).trans found) notOpen
      ⟨gives.session, gives.naive, gives.opened, gives.inside⟩
  · rintro keeps first found shut ⟨session, naive, opened, inside⟩
    cases aware : (closeOn market (parsed before market) localDay).isAware with
    | true =>
      rw [statusOn_session session, sessionStatus_aware aware] at found
      cases found
    | false =>
      refine keeps ⟨today, lasts, session, naive, aware, not_lt.mp fun early => ?_, opened, inside⟩
      obtain ⟨_, again, isOpen⟩ := statusOn_open_iff.mpr ⟨session, aware, opened, early⟩
      cases found.symm.trans again
      exact shut isOpen

/-- Adding a restrictive override never opens what was not open, if and only if it is not
an early close which gives time back. -/
theorem adds_staysShut_iff {entry : RestrictiveEntry} (added : Adds before market after entry) :
    StaysShut zones market now before after ↔ ¬Reopens zones market now before entry := by
  cases moves : asTimezone zones market now with
  | error raised =>
    refine iff_of_true (fun first _ found => ?_) ?_
    · exact nomatch (status_raised moves).symm.trans found
    · cases entry with
      | holiday day => exact id
      | earlyClose day time later =>
        rintro ⟨_, moved, -⟩
        exact nomatch moves.symm.trans moved
  | ok wallClock =>
    rw [staysShut_of_moved moves]
    simp only [statusOn_open_iff]
    cases added with
    | holiday items itemsAfter wellFormed =>
      refine iff_of_true ?_ id
      rintro first found shut ⟨session, inside⟩
      rw [closeOn_withHolidays] at inside
      have wasOpen := statusOn_open_iff.mpr ⟨hasSession_of_holiday items itemsAfter session, inside⟩
      obtain ⟨_, again, isOpen⟩ := wasOpen
      cases found.symm.trans again
      exact shut isOpen
    | @earlyClose raw earlier later item day time items itemsAfter wellFormed =>
      rw [hasSession_withEarlyCloses (readable_added items itemsAfter wellFormed),
        closeOn_added items itemsAfter wellFormed, Reopens, moves]
      simp only [Except.ok.injEq, exists_eq_left']
      by_cases replaced : wallClock / microsecondsPerDay = day ∧
          lastFor (later.filterMap readEarlyClose) day = none
      · rw [if_pos replaced]
        exact shut_iff_of_replaced replaced.1 replaced.2
      · rw [if_neg replaced]
        refine iff_of_true ?_ fun gives => replaced ⟨gives.today, gives.lasts⟩
        intro first found shut unchanged
        obtain ⟨_, again, isOpen⟩ := statusOn_open_iff.mpr unchanged
        cases found.symm.trans again
        exact shut isOpen

/-- The default settings with an early close in India on 2026-04-30. -/
def earlyCloseOn (raw : String) : CalendarSettings := { indiaMarketEarlyCloseOverrides := raw }

/-- 16:00 in India on 2026-04-30, half an hour after the regular close. -/
def afterClose : DateTime := .utc 1777545000000000

theorem adds_staysShut_iff_noon :
    StaysShut .summer .india afterClose {} (earlyCloseOn "2026-04-30=12:00") ↔
      ¬Reopens .summer .india afterClose {}
        (.earlyClose 20573 (.naive (clock 12 0)) (List.filterMap readEarlyClose [])) := by
  have noItems : csvItems (({} : CalendarSettings).earlyCloseOverrides .india) = [] ++ [] := by
    decide +kernel
  have oneItem : csvItems "2026-04-30=12:00" = [] ++ ("2026-04-30=12:00".toList :: []) := by
    decide +kernel
  have wellFormed : readEarlyClose "2026-04-30=12:00".toList =
      some (20573, .naive (clock 12 0)) := by decide +kernel
  exact adds_staysShut_iff (.earlyClose noItems oneItem wellFormed)

/-- An early close at 17:00 opens the market at 16:00. -/
theorem late_early_close : ¬ ∀ (zones : MarketZones) (market : Market) (now : DateTime)
    (before after : CalendarSettings) (entry : RestrictiveEntry),
    Adds before market after entry → StaysShut zones market now before after := by
  intro shut
  have noItems : csvItems (({} : CalendarSettings).earlyCloseOverrides .india) = [] ++ [] := by
    decide +kernel
  have oneItem : csvItems "2026-04-30=17:00" = [] ++ ("2026-04-30=17:00".toList :: []) := by
    decide +kernel
  have wellFormed : readEarlyClose "2026-04-30=17:00".toList =
      some (20573, .naive (clock 17 0)) := by decide +kernel
  have closed : status {} .summer .india afterClose =
      .ok ⟨⟨.india, .closed⟩, "outside_regular_session"⟩ := by decide +kernel
  have opened : status (earlyCloseOn "2026-04-30=17:00") .summer .india afterClose =
      .ok ⟨⟨.india, .open⟩, "regular_session_open"⟩ := by decide +kernel
  exact shut .summer .india afterClose {} _ _ (.earlyClose noItems oneItem wellFormed) _ _ closed
    nofun opened rfl

end Main

end AlphaAgent.Risk.MarketCalendar
