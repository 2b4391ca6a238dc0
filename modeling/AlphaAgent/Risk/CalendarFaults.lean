import AlphaAgent.Risk.CalendarOverrides

/-!
# Faulty overrides

An override which does not parse makes the status unknown. An early close whose time
has a UTC offset parses: it raises when it is compared, on its own day, and is
ignored on the others.
-/

namespace AlphaAgent.Risk.MarketCalendar

open Foundation IsoFormat

section Clock

variable {zones : MarketZones} {market : Market} {now : DateTime}

/-- An instant has a local time in the calendar, and one in UTC before that. -/
structure LocalTimeExists (zones : MarketZones) (market : Market) (now : DateTime) : Prop where
  universal : now.isAware = true → DateTime.inRange now.instant = true
  local_ : DateTime.inRange (zones.wallClock market now.instant) = true

theorem toUtc_of_universal (universal : now.isAware = true → DateTime.inRange now.instant = true) :
    now.toUtc = .ok (.utc now.instant) := by
  rw [DateTime.toUtc]
  cases offset : now.utcOffset with
  | none => simp [DateTime.instant, offset]
  | some _ => simp [universal (by simp [DateTime.isAware, offset])]

theorem asTimezone_of_exists (exist : LocalTimeExists zones market now) :
    asTimezone zones market now = .ok (zones.wallClock market now.instant) := by
  rw [asTimezone, toUtc_of_universal exist.universal]
  change (if DateTime.inRange (zones.wallClock market (DateTime.utc now.instant).instant) then _
    else _) = _
  rw [DateTime.utc_instant, if_pos exist.local_]
  rfl

/-- Without a local time the status raises. -/
theorem asTimezone_raises (missing : ¬LocalTimeExists zones market now) :
    ∃ raised, asTimezone zones market now = .error raised := by
  rw [asTimezone]
  cases moved : now.toUtc with
  | error raised => exact ⟨raised, rfl⟩
  | ok utc =>
    have universal : now.isAware = true → DateTime.inRange now.instant = true := by
      intro aware
      obtain ⟨offset, found⟩ := Option.isSome_iff_exists.mp aware
      by_contra outside
      simp [DateTime.toUtc, found, outside] at moved
    obtain rfl := DateTime.toUtc_eq_utc moved
    change ∃ raised, (if DateTime.inRange
      (zones.wallClock market (DateTime.utc now.instant).instant) then _ else _) = _
    rw [DateTime.utc_instant, if_neg fun inside => missing ⟨universal, inside⟩]
    exact ⟨_, rfl⟩

end Clock

section Faults

variable (settings : CalendarSettings) (zones : MarketZones) (market : Market) (now : DateTime)

/-- Every date is one, and every early close is a date and a local time. -/
structure WellFormed : Prop where
  holidays : ∀ item ∈ csvItems (settings.holidayOverrides market), ∃ day, readDate item = some day
  specialOpen :
    ∀ item ∈ csvItems (settings.specialOpenDates market), ∃ day, readDate item = some day
  earlyCloses : ∀ item ∈ csvItems (settings.earlyCloseOverrides market),
    ∃ day time, readEarlyClose item = some (day, time) ∧ time.isAware = false

/-- There is a status, and it is unknown where an override is not well formed. -/
structure FailsSafe : Prop where
  returns : ∃ status, MarketCalendar.status settings zones market now = .ok status
  unknown : ¬WellFormed settings market → ∀ status,
    MarketCalendar.status settings zones market now = .ok status → status.state = .unknown

/-- All early closes are local times. -/
def AllLocal : Prop :=
  ∀ close ∈ closesOf (settings.earlyCloseOverrides market), close.2.isAware = false

/-- On a day no fault shows: there is none with an offset, or the status is unknown for
another reason. -/
inductive Harmless (localDay : Day) : Prop
  | unreadable (unreadable : ¬Readable settings market)
  | allLocal (allLocal : AllLocal settings market)
  | unavailable (unavailable : holidaySourceUnavailable settings market localDay = true)
  | closesEarly (trades : closedReason market (parsed settings market) localDay = none)
      (naive : (closeOn market (parsed settings market) localDay).isAware = false)
      (early : (closeOn market (parsed settings market) localDay).sinceMidnight ≤
        sessionOpen market)

variable {settings market}

/-- Overrides which parse are well formed exactly when all early closes are local times. -/
theorem wellFormed_iff (readable : Readable settings market) :
    WellFormed settings market ↔ AllLocal settings market := by
  constructor
  · intro wellFormed close member
    obtain ⟨item, found, reads⟩ := List.mem_filterMap.mp member
    obtain ⟨day, time, again, naive⟩ := wellFormed.earlyCloses item found
    cases reads.symm.trans again
    exact naive
  · intro allLocal
    refine ⟨fun item member => Option.ne_none_iff_exists'.mp (readable.holidays item member),
      fun item member => Option.ne_none_iff_exists'.mp (readable.specialOpen item member), ?_⟩
    intro item member
    obtain ⟨⟨day, time⟩, reads⟩ :=
      Option.ne_none_iff_exists'.mp (readable.earlyCloses item member)
    exact ⟨day, time, reads, allLocal _ (List.mem_filterMap.mpr ⟨item, member, reads⟩)⟩

/-- Among local early closes the one in force is local. -/
theorem closeOn_naive (allLocal : AllLocal settings market) (localDay : Day) :
    (closeOn market (parsed settings market) localDay).isAware = false := by
  rw [closeOn, parsed, get?_setAll, lastFor]
  cases found : (closesOf (settings.earlyCloseOverrides market)).reverse.find?
      (·.1 = localDay) with
  | none => rfl
  | some close => exact allLocal close (List.mem_reverse.mp (List.mem_of_find?_eq_some found))

/-- On a day with a session and a fault the status is unknown exactly when a local close
is not after the open, and otherwise it raises or is known. -/
theorem sessionStatus_unknown_iff (localDay localTime : ℤ) :
    ((∃ status, sessionStatus market (parsed settings market) localDay localTime = .ok status) ∧
        ∀ status, sessionStatus market (parsed settings market) localDay localTime = .ok status →
          status.state = .unknown) ↔
      (closeOn market (parsed settings market) localDay).isAware = false ∧
        (closeOn market (parsed settings market) localDay).sinceMidnight ≤ sessionOpen market := by
  cases aware : (closeOn market (parsed settings market) localDay).isAware with
  | true =>
    rw [sessionStatus_aware aware]
    exact iff_of_false (fun ⟨⟨_, failed⟩, _⟩ => nomatch failed) fun ⟨naive, _⟩ => nomatch naive
  | false =>
    obtain ⟨status, found, unknown, -⟩ := sessionStatus_naive localTime aware
    rw [found]
    constructor
    · rintro ⟨-, always⟩
      exact ⟨rfl, unknown.mp (always status rfl)⟩
    · rintro ⟨-, early⟩
      refine ⟨⟨status, rfl⟩, fun other same => ?_⟩
      cases same
      exact unknown.mpr early

/-- On a reading of the local clock faults are safe exactly when they are harmless. -/
theorem statusOn_safe_iff (localDay localTime : ℤ) :
    ((∃ status, statusOn settings market localDay localTime = .ok status) ∧
        (¬WellFormed settings market → ∀ status,
          statusOn settings market localDay localTime = .ok status → status.state = .unknown)) ↔
      Harmless settings market localDay := by
  by_cases readable : Readable settings market
  · rw [wellFormed_iff readable]
    by_cases allLocal : AllLocal settings market
    · refine iff_of_true ⟨?_, fun fault => absurd allLocal fault⟩ (.allLocal allLocal)
      by_cases session : HasSession settings market localDay
      · rw [statusOn_session session]
        obtain ⟨status, found, -⟩ :=
          sessionStatus_naive localTime (closeOn_naive allLocal localDay)
        exact ⟨status, found⟩
      · obtain ⟨status, found, -⟩ := statusOn_noSession localTime session
        exact ⟨status, found⟩
    · rw [imp_iff_right allLocal]
      cases available : holidaySourceUnavailable settings market localDay with
      | true =>
        obtain ⟨status, found, unknown⟩ :=
          statusOn_unavailable localTime readable available
        refine iff_of_true ⟨⟨status, found⟩, fun other again => ?_⟩ (.unavailable available)
        cases found.symm.trans again
        exact unknown
      | false =>
        by_cases trades : closedReason market (parsed settings market) localDay = none
        · rw [statusOn_session ⟨readable, available, trades⟩, sessionStatus_unknown_iff]
          constructor
          · rintro ⟨naive, early⟩
            exact .closesEarly trades naive early
          · rintro (fault | all | missing | ⟨-, naive, early⟩)
            · exact absurd readable fault
            · exact absurd all allLocal
            · exact nomatch available.symm.trans missing
            · exact ⟨naive, early⟩
        · obtain ⟨status, found, closed⟩ :=
            statusOn_closed localTime readable available trades
          refine iff_of_false (fun ⟨_, unknown⟩ => ?_) ?_
          · exact nomatch closed.symm.trans (unknown status found)
          · rintro (fault | all | missing | ⟨session, -, -⟩)
            · exact fault readable
            · exact allLocal all
            · exact nomatch available.symm.trans missing
            · exact trades session
  · obtain ⟨status, found, unknown⟩ := statusOn_unreadable localTime readable
    refine iff_of_true ⟨⟨status, found⟩, fun _ other again => ?_⟩ (.unreadable readable)
    cases found.symm.trans again
    exact unknown

variable {zones now}

/-- A bad override never crashes the calendar and always closes trading, if and only if the
instant has a local time and the override is harmless on its day. -/
theorem failsSafe_iff : FailsSafe settings zones market now ↔
    LocalTimeExists zones market now ∧
      Harmless settings market (zones.localDay market now.instant) := by
  have fields : FailsSafe settings zones market now ↔ _ ∧ _ :=
    ⟨fun safe => ⟨safe.returns, safe.unknown⟩, fun ⟨returns, unknown⟩ => ⟨returns, unknown⟩⟩
  rw [fields]
  by_cases exist : LocalTimeExists zones market now
  · rw [status_eq (asTimezone_of_exists exist), statusOn_safe_iff]
    exact (and_iff_right exist).symm
  · obtain ⟨raised, failed⟩ := asTimezone_raises exist
    rw [status_raised failed]
    exact iff_of_false (fun both => nomatch both.1.choose_spec) fun both => exist both.1

/-- An early close at noon Indian time, written with its offset, raises on its day. -/
theorem offset_raises : ¬ ∀ (settings : CalendarSettings) (zones : MarketZones) (market : Market)
    (now : DateTime), FailsSafe settings zones market now := by
  intro safe
  obtain ⟨status, found⟩ :=
    (safe (earlyCloseOn "2026-04-30=12:00+05:30") .summer .india afterClose).returns
  have raised : MarketCalendar.status (earlyCloseOn "2026-04-30=12:00+05:30") .summer .india
      afterClose = .error (.typeError "can't compare offset-naive and offset-aware times") := by
    decide +kernel
  exact nomatch raised.symm.trans found

end Faults

end AlphaAgent.Risk.MarketCalendar
