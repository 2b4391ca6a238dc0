import AlphaAgent.Shadow.Rounds
import AlphaAgent.Shadow.Tables

/-!
# The loss discipline of a session

A cycle opens an observation only after the database has shown its session neither an
open observation of the symbol, nor a cooldown, nor losses which pause new entries. What
a session is shown between two of its flushes are views of the database, one for each
query; the contract lets it flush an observation only if it was allowed on these.
-/

namespace AlphaAgent.Shadow

open Foundation

section Pauses

variable (cycle : Cycle) (samples : List ShadowTrainingSample) (market : Market) (symbol : String)
  (now : ℤ)

/-- The latest sized samples of the lookback, of a symbol or of the whole market. -/
def recentSamples (symbol : Option String) (limit : ℕ) : List ShadowTrainingSample :=
  let since := now - cycle.settings.intradayLossDisciplineLookbackMinutes * microsecondsPerMinute
  newest ShadowTrainingSample.sampleAt limit
    (samples.filter (SampleFilter.sizedSince market symbol since).selects)

/-- Recent samples of the market mostly lose. -/
def marketPauseOn : Option LossPause :=
  marketPauseOf cycle.settings (recentSamples cycle samples market now none
    (max cycle.settings.intradayMarketLossPauseMinSamples 1))

/-- The last sample of the symbol before today lost. -/
def previousSessionPauseOn : Option LossPause :=
  let settings := cycle.settings
  if settings.intradayPreviousSessionLossPauseEnabled = false then none
  else
    let startToday := cycle.days.dayStart market now
    let cutoff := startToday -
      settings.intradayPreviousSessionLossPauseLookbackDays * microsecondsPerDay
    previousSessionPauseOf settings
      (samples.filter (SampleFilter.sizedBetween market symbol cutoff startToday).selects)

/-- Recent samples of the symbol mostly lose. -/
def symbolPauseOn : Option LossPause :=
  symbolPauseOf cycle.settings (recentSamples cycle samples market now (some symbol)
    (max cycle.settings.intradaySymbolLossPauseMinSamples 1))

end Pauses

section Seen

/-- A fact of some view which a session was shown. -/
def Seen (views : List Database) (fact : Database → Prop) : Prop := ∃ view ∈ views, fact view

theorem Seen.mono {views more : List Database} {fact : Database → Prop} (seen : Seen views fact)
    (within : views ⊆ more) : Seen more fact := by
  obtain ⟨view, member, holds⟩ := seen
  exact ⟨view, within member, holds⟩

/-- None of the pauses was seen. -/
structure Unpaused (cycle : Cycle) (views : List Database) (market : Market) (symbol : String)
    (now : ℤ) : Prop where
  ofMarket : Seen views fun view => marketPauseOn cycle view.samples market now = none
  previousSession : Seen views fun view =>
    previousSessionPauseOn cycle view.samples market symbol now = none
  ofSymbol : Seen views fun view => symbolPauseOn cycle view.samples market symbol now = none

/-- What a session has to have seen before it opens an observation. -/
structure Allowed (cycle : Cycle) (views : List Database) (observation : ShadowObservation) :
    Prop where
  buys : observation.metadataJson.entryAssessment.action = .buy
  absent : Seen views fun view =>
    openFor view.observations observation.market observation.symbol = none
  cooledDown : Seen views fun view => reentryBlock cycle view.observations observation.market
    observation.symbol observation.openedAt = none
  unpaused : cycle.settings.intradayLossDisciplineEnabled = true →
    Unpaused cycle views observation.market observation.symbol observation.openedAt

theorem Unpaused.mono {cycle : Cycle} {views more : List Database} {market : Market}
    {symbol : String} {now : ℤ} (unpaused : Unpaused cycle views market symbol now)
    (within : views ⊆ more) : Unpaused cycle more market symbol now :=
  ⟨unpaused.ofMarket.mono within, unpaused.previousSession.mono within,
    unpaused.ofSymbol.mono within⟩

theorem Allowed.mono {cycle : Cycle} {views more : List Database} {observation : ShadowObservation}
    (allowed : Allowed cycle views observation) (within : views ⊆ more) :
    Allowed cycle more observation where
  buys := allowed.buys
  absent := allowed.absent.mono within
  cooledDown := allowed.cooledDown.mono within
  unpaused on := (allowed.unpaused on).mono within

end Seen

/-- The session which an operation is of. -/
def Operation.session : Operation → ℕ
  | .hasStrategy session => session
  | .hasInstrument session _ _ => session
  | .observations session _ => session
  | .samples session _ => session
  | .flush session _ => session
  | .commit session => session
  | .rollback session => session

/-- The rows of an answer are those of a view. -/
def ShowsView (view : Database) : (op : Operation) → Reply op → Prop
  | .observations _ filter, reply => ∀ rows, reply = .ok rows →
    rows = view.observations.filter filter.selects
  | .samples _ filter, reply => ∀ rows, reply = .ok rows → rows = view.samples.filter filter.selects
  | _, _ => True

/-- A session flushes only observations which it was allowed to open on what it has seen
since its last flush. -/
def entryContract (cycle : Cycle) (session : ℕ) : Contract Reply (List Database) where
  asks views op := op.session = session ∧
    match op with
    | .flush _ writes => ∀ observation, .addObservation observation ∈ writes →
      Allowed cycle views observation
    | _ => True
  answers views op reply after :=
    match op with
    | .flush _ _ | .commit _ | .rollback _ => after = []
    | op => ∃ view, ShowsView view op reply ∧ after = views ++ [view]

/-- What is pending may be flushed. -/
def Kept (cycle : Cycle) (pending : List Write) (views : List Database) : Prop :=
  ∀ observation, .addObservation observation ∈ pending → Allowed cycle views observation

/-- An assertion which further views do not break. -/
def Stays (pre : List Write → List Database → Prop) : Prop :=
  ∀ pending views view, pre pending views → pre pending (views ++ [view])

theorem Stays.and {pre other : List Write → List Database → Prop} (first : Stays pre)
    (second : Stays other) : Stays fun pending views => pre pending views ∧ other pending views :=
  fun pending views view holds =>
    ⟨first pending views view holds.1, second pending views view holds.2⟩

theorem stays_pending (fact : List Write → Prop) : Stays fun pending _ => fact pending :=
  fun _ _ _ holds => holds

theorem stays_seen (fact : Database → Prop) : Stays fun _ views => Seen views fact :=
  fun _ _ _ seen => seen.mono (List.subset_append_left _ _)

theorem stays_kept (cycle : Cycle) : Stays (Kept cycle) :=
  fun _ _ _ kept observation member =>
    (kept observation member).mono (List.subset_append_left _ _)

theorem kept_nil (cycle : Cycle) (views : List Database) : Kept cycle [] views :=
  fun _ absent => absurd absent List.not_mem_nil

theorem assign_quiet (id : String) (assignment : Assignment) (observation : ShadowObservation) :
    Write.assign id assignment ≠ .addObservation observation := fun same => Write.noConfusion same

/-- Writing what opens no observation. -/
theorem Kept.concat {cycle : Cycle} {pending : List Write} {views : List Database}
    (kept : Kept cycle pending views) {entry : Write}
    (other : ∀ observation, entry ≠ .addObservation observation) :
    Kept cycle (pending ++ [entry]) views := by
  intro observation member
  rcases List.mem_append.mp member with earlier | here
  · exact kept observation earlier
  · exact absurd (List.mem_singleton.mp here).symm (other observation)

section Rules

variable {α : Type} {cycle : Cycle} {session : ℕ} {pre other : List Write → List Database → Prop}
  {post : α → List Write → List Database → Prop}

/-- A query of the session shows a view, which other facts outlive. -/
theorem selectSamples_seen (stays : Stays pre) (filter : SampleFilter) :
    Work.Triple (entryContract cycle session) pre (selectSamples session filter)
      (fun samples pending views => pre pending views ∧
        Seen views fun view => samples = view.samples.filter filter.selects)
      (Caught other) := by
  apply fromDatabase_caught
  apply Work.Triple.ask
  · intro pending views _
    exact ⟨rfl, trivial⟩
  · rintro pending views reply after holds ⟨view, shows, rfl⟩ samples rfl
    exact ⟨stays pending views view holds, view, by simp, shows samples rfl⟩

theorem selectObservations_seen (stays : Stays pre) (filter : ObservationFilter)
    (order : List ShadowObservation → List ShadowObservation) :
    Work.Triple (entryContract cycle session) pre (selectObservations session filter order)
      (fun objects pending views => pre pending views ∧
        Seen views fun view => objects =
          (order (view.observations.filter filter.selects)).map (loaded pending))
      (Caught other) := by
  have asked : Work.Triple (entryContract cycle session) pre
      (fromDatabase (Work.ask (Operation.observations session filter)))
      (fun (rows : List ShadowObservation) pending views => pre pending views ∧
        Seen views fun view => rows = view.observations.filter filter.selects)
      (Caught other) := by
    apply fromDatabase_caught
    apply Work.Triple.ask
    · intro pending views _
      exact ⟨rfl, trivial⟩
    · rintro pending views reply after holds ⟨view, shows, rfl⟩ rows rfl
      exact ⟨stays pending views view holds, view, by simp, shows rows rfl⟩
  refine Work.Triple.bind asked fun rows => ?_
  have gets : Work.Triple (entryContract cycle session)
      (fun pending views => pre pending views ∧
        Seen views fun view => rows = view.observations.filter filter.selects) get
      (fun value pending views => value = pending ∧ pre pending views ∧
        Seen views fun view => rows = view.observations.filter filter.selects) (Caught other) :=
    Work.Triple.get fun _ _ holds => ⟨rfl, holds⟩
  refine Work.Triple.bind gets fun _ => Work.Triple.pure ?_
  rintro pending views ⟨rfl, holds, view, member, rfl⟩
  exact ⟨holds, view, member, rfl⟩

/-- What the session flushes, it may flush. -/
theorem flush_kept : Work.Triple (entryContract cycle session) (Kept cycle) (flush session)
    (fun _ pending _ => pending = []) (Caught other) :=
  flush_caught (fun _ _ kept => ⟨rfl, kept⟩) fun _ _ _ _ _ => rfl

theorem write_kept {entry : Write} (quiet : ∀ observation, entry ≠ .addObservation observation) :
    Work.Triple (entryContract cycle session) (Kept cycle) (write entry) (fun _ => Kept cycle)
      (Caught other) :=
  write_caught fun _ _ kept => kept.concat quiet

end Rules

section Checks

variable {cycle : Cycle} {session : ℕ} {pre other : List Write → List Database → Prop}
  (stays : Stays pre) (market : Market) (symbol : String) (now : ℤ)
include stays

theorem recentTrainingSamples_seen (symbol : Option String) (limit : ℕ) :
    Work.Triple (entryContract cycle session) pre
      (recentTrainingSamples session cycle market symbol now limit)
      (fun samples pending views => pre pending views ∧
        Seen views fun view => samples = recentSamples cycle view.samples market now symbol limit)
      (Caught other) := by
  refine Work.Triple.bind (selectSamples_seen stays _) fun samples => Work.Triple.pure ?_
  rintro pending views ⟨holds, view, member, rfl⟩
  exact ⟨holds, view, member, rfl⟩

theorem marketLossPause_seen :
    Work.Triple (entryContract cycle session) pre (marketLossPause session cycle market now)
      (fun pause pending views => pre pending views ∧
        Seen views fun view => pause = marketPauseOn cycle view.samples market now)
      (Caught other) := by
  refine Work.Triple.bind (recentTrainingSamples_seen stays market now none _) fun samples =>
    Work.Triple.pure ?_
  rintro pending views ⟨holds, view, member, rfl⟩
  exact ⟨holds, view, member, rfl⟩

theorem symbolLossPause_seen :
    Work.Triple (entryContract cycle session) pre (symbolLossPause session cycle market symbol now)
      (fun pause pending views => pre pending views ∧
        Seen views fun view => pause = symbolPauseOn cycle view.samples market symbol now)
      (Caught other) := by
  refine Work.Triple.bind (recentTrainingSamples_seen stays market now (some symbol) _)
    fun samples => Work.Triple.pure ?_
  rintro pending views ⟨holds, view, member, rfl⟩
  exact ⟨holds, view, member, rfl⟩

/-- The check of the previous session asks nothing where it is disabled; something
was seen before. -/
theorem previousSessionSymbolLossPause_seen
    (shown : ∀ pending views, pre pending views → Seen views fun _ => True) :
    Work.Triple (entryContract cycle session) pre
      (previousSessionSymbolLossPause session cycle market symbol now)
      (fun pause pending views => pre pending views ∧
        Seen views fun view => pause = previousSessionPauseOn cycle view.samples market symbol now)
      (Caught other) := by
  apply Work.Triple.ite
  · intro disabled
    apply Work.Triple.pure
    intro pending views holds
    obtain ⟨view, member, -⟩ := shown pending views holds
    exact ⟨holds, view, member, (if_pos disabled).symm⟩
  · intro enabled
    refine Work.Triple.bind (selectSamples_seen stays _) fun samples => Work.Triple.pure ?_
    rintro pending views ⟨holds, view, member, rfl⟩
    exact ⟨holds, view, member, (if_neg enabled).symm⟩

theorem activeReentryCooldown_seen
    (shown : ∀ pending views, pre pending views → Seen views fun _ => True)
    (settled : ∀ pending views, pre pending views → pending = []) :
    Work.Triple (entryContract cycle session) pre
      (activeReentryCooldown session cycle market symbol now)
      (fun block pending views => pre pending views ∧
        Seen views fun view => block = reentryBlock cycle view.observations market symbol now)
      (Caught other) := by
  apply Work.Triple.ite
  · intro disabled
    apply Work.Triple.pure
    intro pending views holds
    obtain ⟨view, member, -⟩ := shown pending views holds
    exact ⟨holds, view, member, (if_pos disabled).symm⟩
  · intro enabled
    refine Work.Triple.bind (selectObservations_seen stays _ _) fun closed => Work.Triple.pure ?_
    rintro pending views ⟨holds, view, member, rfl⟩
    refine ⟨holds, view, member, ?_⟩
    dsimp only
    rw [settled pending views holds, loaded_nil, List.map_id, reentryBlock, if_neg enabled]

/-- Where the loss discipline pauses nothing, no pause was seen. -/
theorem activeLossDisciplinePause_seen
    (shown : ∀ pending views, pre pending views → Seen views fun _ => True) :
    Work.Triple (entryContract cycle session) pre
      (activeLossDisciplinePause session cycle market symbol now)
      (fun pause pending views => pre pending views ∧ (pause = none →
        cycle.settings.intradayLossDisciplineEnabled = true →
          Unpaused cycle views market symbol now))
      (Caught other) := by
  apply Work.Triple.ite
  · intro disabled
    apply Work.Triple.pure
    intro pending views holds
    exact ⟨holds, fun _ enabled => absurd (disabled.symm.trans enabled) Bool.false_ne_true⟩
  · intro _
    refine Work.Triple.bind (marketLossPause_seen stays market now) fun ofMarket => ?_
    cases ofMarket with
    | some pause => exact Work.Triple.pure fun _ _ holds => ⟨holds.1, nofun⟩
    | none =>
      have still := stays.and (stays_seen fun view =>
        none = marketPauseOn cycle view.samples market now)
      refine Work.Triple.bind (previousSessionSymbolLossPause_seen still market symbol now
        fun pending views holds => shown pending views holds.1) fun previousSession => ?_
      cases previousSession with
      | some pause => exact Work.Triple.pure fun _ _ holds => ⟨holds.1.1, nofun⟩
      | none =>
        have further := still.and (stays_seen fun view =>
          none = previousSessionPauseOn cycle view.samples market symbol now)
        refine (symbolLossPause_seen further market symbol now).consequence
          (fun _ _ holds => holds) ?_ fun _ _ _ caught => caught
        rintro _ pending views ⟨⟨⟨holds, ofMarket⟩, previousSession⟩, ofSymbol⟩
        refine ⟨holds, ?_⟩
        rintro rfl _
        obtain ⟨first, firstSeen, market⟩ := ofMarket
        obtain ⟨second, secondSeen, previous⟩ := previousSession
        obtain ⟨third, thirdSeen, symbol⟩ := ofSymbol
        exact ⟨⟨first, firstSeen, market.symm⟩, ⟨second, secondSeen, previous.symm⟩,
          ⟨third, thirdSeen, symbol.symm⟩⟩

/-- An entry is allowed only where nothing that was seen speaks against it. -/
theorem entryAllowed_seen (round : SymbolRound) (assessment : Assessment)
    (shown : ∀ pending views, pre pending views → Seen views fun _ => True)
    (settled : ∀ pending views, pre pending views → pending = []) :
    Work.Triple (entryContract cycle session) pre
      (entryAllowed session cycle market round assessment)
      (fun allowed pending views => pre pending views ∧ (allowed = true →
        assessment.action = .buy ∧
          (Seen views fun view => reentryBlock cycle view.observations market round.symbol
            round.recordedAt = none) ∧
          (cycle.settings.intradayLossDisciplineEnabled = true →
            Unpaused cycle views market round.symbol round.recordedAt)))
      (Caught pre) := by
  apply Work.Triple.ite
  · intro _
    exact Work.Triple.pure fun _ _ holds => ⟨holds, nofun⟩
  · intro buys
    have blocks : Work.Triple (entryContract cycle session) pre (Work.ofExcept round.newsBlocks)
        (fun _ => pre) (Caught pre) :=
      Work.Triple.ofExcept (fun _ _ _ _ holds => holds) fun _ _ _ _ holds _ => holds
    refine Work.Triple.bind blocks fun blocks => Work.Triple.ite (fun _ => ?_) fun _ => ?_
    · exact Work.Triple.pure fun _ _ holds => ⟨holds, nofun⟩
    refine Work.Triple.bind (activeReentryCooldown_seen stays market round.symbol round.recordedAt
      shown settled) fun block => Work.Triple.ite (fun _ => ?_) fun unblocked => ?_
    · exact Work.Triple.pure fun _ _ holds => ⟨holds.1, nofun⟩
    have none : block = none := by simpa using unblocked
    have still := stays.and (stays_seen fun view =>
      block = reentryBlock cycle view.observations market round.symbol round.recordedAt)
    refine Work.Triple.bind (activeLossDisciplinePause_seen still market round.symbol
      round.recordedAt fun pending views holds => shown pending views holds.1) fun pause =>
        Work.Triple.pure ?_
    rintro pending views ⟨⟨holds, cooledDown⟩, unpaused⟩
    refine ⟨holds, fun allowed =>
      ⟨not_not.mp buys, ?_, unpaused (Option.isNone_iff_eq_none.mp allowed)⟩⟩
    obtain ⟨view, member, same⟩ := cooledDown
    exact ⟨view, member, same.symm.trans none⟩

end Checks

section Statements

variable {cycle : Cycle} {session : ℕ} {other : List Write → List Database → Prop}

/-- Opening an observation which is allowed. -/
theorem open_kept (observation : ShadowObservation) :
    Work.Triple (entryContract cycle session)
      (fun pending views => pending = [] ∧ Allowed cycle views observation)
      (do
        write (.addObservation observation)
        return some observation) (fun _ => Kept cycle) (Caught other) := by
  have written : Work.Triple (entryContract cycle session)
      (fun pending views => pending = [] ∧ Allowed cycle views observation)
      (write (.addObservation observation)) (fun _ => Kept cycle) (Caught other) := by
    apply write_caught
    rintro pending views ⟨rfl, allowed⟩ opened member
    obtain rfl : opened = observation := by simpa using member
    exact allowed
  exact Work.Triple.bind written fun _ => Work.Triple.pure fun _ _ kept => kept

/-- With nothing pending, an observation is opened only where that is allowed. -/
theorem enterOrMark_kept (market : Market) (fxRate : ℚ) (round : SymbolRound) (lastPrice : ℚ)
    (assessment : Assessment) :
    Work.Triple (entryContract cycle session) (fun pending _ => pending = [])
      (enterOrMark session cycle market fxRate round lastPrice assessment) (fun _ => Kept cycle)
      (Caught (Kept cycle)) := by
  have settles : Stays fun pending _ => pending = [] := stays_pending (· = [])
  refine Work.Triple.bind (selectObservations_seen settles (.openFor market round.symbol) id)
    fun objects => ?_
  cases objects with
  | nil =>
    have stays := settles.and (stays_seen fun view =>
      openFor view.observations market round.symbol = none)
    refine Work.Triple.bind (triple_caught ?_ ((entryAllowed_seen stays market round assessment ?_
      fun _ _ holds => holds.1).strengthen ?_)) fun allowed =>
        Work.Triple.ite (fun isAllowed => ?_) fun _ => ?_
    · rintro pending views ⟨rfl, _⟩
      exact kept_nil cycle views
    · rintro pending views ⟨_, view, member, _⟩
      exact ⟨view, member, trivial⟩
    · rintro pending views ⟨settled, view, member, same⟩
      exact ⟨settled, view, member, List.head?_eq_none_iff.mpr (List.map_eq_nil_iff.mp same.symm)⟩
    · refine (open_kept _).strengthen ?_
      rintro pending views ⟨⟨settled, absent⟩, known⟩
      obtain ⟨buys, cooledDown, unpaused⟩ := known isAllowed
      exact ⟨settled, buys, absent, cooledDown, unpaused⟩
    · refine Work.Triple.pure ?_
      rintro pending views ⟨⟨rfl, _⟩, _⟩
      exact kept_nil cycle views
  | cons observation others =>
    refine Work.Triple.bind ((write_kept (assign_quiet _ _)).strengthen ?_) fun _ =>
      Work.Triple.pure fun _ _ kept => kept
    rintro pending views ⟨rfl, _⟩
    exact kept_nil cycle views

theorem getOrCreate_kept {found : SessionM Bool} {entry : Write}
    (asks : Work.Triple (entryContract cycle session) (Kept cycle) found (fun _ => Kept cycle)
      (Caught (Kept cycle)))
    (quiet : ∀ observation, entry ≠ .addObservation observation) :
    Work.Triple (entryContract cycle session) (Kept cycle)
      (found >>= fun present =>
        if present then pure () else write entry >>= fun _ => flush session)
      (fun _ => Kept cycle) (Caught (Kept cycle)) := by
  refine Work.Triple.bind asks fun present => Work.Triple.ite (fun _ => ?_) fun _ => ?_
  · exact Work.Triple.pure fun _ _ kept => kept
  · refine Work.Triple.bind (write_kept quiet) fun _ => ?_
    refine flush_kept.consequence (fun _ _ kept => kept) ?_ fun _ _ _ caught => caught
    rintro _ pending views rfl
    exact kept_nil cycle views

/-- A query of its own breaks nothing. -/
theorem look_kept {op : Operation} (own : op.session = session) (isQuery : op.isQuery = true) :
    Work.Triple (entryContract cycle session) (Kept cycle) (Work.ask op) (fun _ => Kept cycle)
      (Caught (Kept cycle)) := by
  apply Work.Triple.ask
  · intro pending views _
    refine ⟨own, ?_⟩
    cases op with
    | flush => cases isQuery
    | _ => trivial
  · intro pending views reply after kept answered
    cases op with
    | flush | commit | rollback => cases isQuery
    | _ =>
      obtain ⟨view, -, rfl⟩ := answered
      exact stays_kept cycle pending views view kept

theorem getOrCreateStrategy_kept :
    Work.Triple (entryContract cycle session) (Kept cycle) (getOrCreateStrategy session)
      (fun _ => Kept cycle) (Caught (Kept cycle)) :=
  getOrCreate_kept (fromDatabase_caught ((look_kept rfl rfl).consequence (fun _ _ kept => kept)
    (fun _ _ _ kept _ _ => kept) fun _ _ _ caught => caught)) fun _ same => Write.noConfusion same

theorem getOrCreateInstrument_kept (market : Market) (symbol : String) :
    Work.Triple (entryContract cycle session) (Kept cycle)
      (getOrCreateInstrument session market symbol) (fun _ => Kept cycle) (Caught (Kept cycle)) :=
  getOrCreate_kept (fromDatabase_caught ((look_kept rfl rfl).consequence (fun _ _ kept => kept)
    (fun _ _ _ kept _ _ => kept) fun _ _ _ caught => caught)) fun _ same => Write.noConfusion same

theorem closeShadowObservation_kept (observation : ShadowObservation) (signalId : String)
    (assessment : Assessment) (fxRate : ℚ) (now : ℤ) (decision : ShadowExitDecision) :
    Work.Triple (entryContract cycle session) (Kept cycle)
      (closeShadowObservation cycle observation signalId assessment fxRate now decision)
      (fun _ => Kept cycle) (Caught (Kept cycle)) :=
  Work.Triple.bind (write_kept fun _ same => Write.noConfusion same) fun _ =>
    write_kept fun _ same => Write.noConfusion same

theorem applyShadowExitPolicy_kept (fxRate : ℚ) (round : SymbolRound) (assessment : Assessment)
    (observation : ShadowObservation) :
    Work.Triple (entryContract cycle session) (Kept cycle)
      (applyShadowExitPolicy session cycle fxRate round assessment observation)
      (fun _ => Kept cycle) (Caught (Kept cycle)) := by
  have decides : Work.Triple (entryContract cycle session) (Kept cycle)
      (decideExit session cycle observation) (fun _ => Kept cycle) (Caught (Kept cycle)) := by
    refine Work.Triple.ite (fun _ => Work.Triple.pure fun _ _ kept => kept) fun _ => ?_
    exact Work.Triple.bind (selectSamples_seen (stays_kept cycle) _) fun samples =>
      Work.Triple.pure fun _ _ holds => holds.1
  refine Work.Triple.ite (fun _ => Work.Triple.pure fun _ _ kept => kept) fun _ => ?_
  refine Work.Triple.ite (fun _ => Work.Triple.pure fun _ _ kept => kept) fun _ => ?_
  refine Work.Triple.bind decides fun decision => Work.Triple.ite (fun _ => ?_) fun _ => ?_
  · exact Work.Triple.pure fun _ _ kept => kept
  · exact closeShadowObservation_kept observation _ _ _ _ decision

theorem recordShadowObservation_kept (market : Market) (fxRate : ℚ) (round : SymbolRound)
    (lastPrice : ℚ) (assessment : Assessment) :
    Work.Triple (entryContract cycle session) (fun pending _ => pending = [])
      (recordShadowObservation session cycle market fxRate round lastPrice assessment)
      (fun _ => Kept cycle) (Caught (Kept cycle)) := by
  refine Work.Triple.bind (enterOrMark_kept market fxRate round lastPrice assessment)
    fun entered => ?_
  cases entered with
  | none => exact Work.Triple.pure fun _ _ kept => kept
  | some observation =>
    refine Work.Triple.bind flush_kept fun _ => ?_
    refine Work.Triple.bind ((write_kept fun _ same => Write.noConfusion same).strengthen ?_)
      fun _ => ?_
    · rintro pending views rfl
      exact kept_nil cycle views
    · refine Work.Triple.bind (applyShadowExitPolicy_kept fxRate round assessment observation)
        fun _ => Work.Triple.pure fun _ _ kept => kept

theorem observeSymbol_kept (market : Market) (fxRate : ℚ) (round : SymbolRound)
    (lastPrice : Option ℚ) (assessment : Assessment) :
    Work.Triple (entryContract cycle session) (Kept cycle)
      (observeSymbol session cycle market fxRate round lastPrice assessment) (fun _ => Kept cycle)
      (Caught (Kept cycle)) := by
  refine Work.Triple.bind (getOrCreateInstrument_kept market round.symbol) fun _ =>
    Work.Triple.bind flush_kept fun _ => ?_
  have done : Work.Triple (entryContract cycle session) (fun pending _ => pending = []) (pure ())
      (fun _ => Kept cycle) (Caught (Kept cycle)) := by
    refine Work.Triple.pure ?_
    rintro pending views rfl
    exact kept_nil cycle views
  cases lastPrice with
  | none => exact done
  | some lastPrice =>
    refine Work.Triple.ite (fun _ => ?_) fun _ => done
    exact Work.Triple.bind (recordShadowObservation_kept market fxRate round lastPrice assessment)
      fun _ => Work.Triple.pure fun _ _ kept => kept

/-- A round leaves nothing pending which may not be flushed, also when it is caught. -/
theorem scanSymbol_kept (market : Market) (fxRate : ℚ) (round : SymbolRound) :
    Work.Triple (entryContract cycle session) (Kept cycle)
      (scanSymbol session cycle market fxRate round) (fun _ => Kept cycle) fun _ _ _ => True := by
  have quoted : Work.Triple (entryContract cycle session) (Kept cycle) (Work.ofExcept round.quote)
      (fun _ => Kept cycle) (Caught (Kept cycle)) :=
    Work.Triple.ofExcept (fun _ _ _ _ kept => kept) fun _ _ _ _ kept _ => kept
  refine Work.Triple.tryCatch (Work.Triple.bind quoted fun assessed =>
    observeSymbol_kept market fxRate round assessed.1 assessed.2) fun raised => ?_
  apply Work.Triple.ite
  · exact fun caught => Work.Triple.pure fun _ _ holds => holds caught
  · exact fun _ => Work.Triple.throw fun _ _ _ => trivial

theorem scanRounds_kept (market : Market) (fxRate : ℚ) (rounds : List SymbolRound) :
    Work.Triple (entryContract cycle session) (Kept cycle)
      (rounds.forM (scanSymbol session cycle market fxRate)) (fun _ => Kept cycle)
      fun _ _ _ => True :=
  Work.Triple.forM_keeps (scanSymbol_kept market fxRate) rounds

theorem runIndiaCycle_kept :
    Work.Triple (entryContract cycle session) (Kept cycle) (runIndiaCycle session cycle)
      (fun _ => Kept cycle) fun _ _ _ => True :=
  Work.Triple.ite (fun _ => scanRounds_kept .india 1 cycle.indiaRounds) fun _ =>
    Work.Triple.pure fun _ _ kept => kept

theorem runUsCycle_kept :
    Work.Triple (entryContract cycle session) (Kept cycle) (runUsCycle session cycle)
      (fun _ => Kept cycle) fun _ _ _ => True := by
  have skipped : Work.Triple (entryContract cycle session) (Kept cycle) (pure () : SessionM Unit)
      (fun _ => Kept cycle) fun _ _ _ => True := Work.Triple.pure fun _ _ kept => kept
  refine Work.Triple.ite (fun _ => ?_) fun _ => skipped
  cases cycle.usdInr with
  | error raised =>
    exact Work.Triple.ite (fun _ => skipped) fun _ => Work.Triple.throw fun _ _ _ => trivial
  | ok fxStatus =>
    obtain ⟨rate, isFresh⟩ := fxStatus
    cases rate with
    | none => exact skipped
    | some rate =>
      cases isFresh with
      | false => exact skipped
      | true => exact scanRounds_kept .us rate cycle.usRounds

theorem closeStaleIntradayObservations_kept (market : Market) :
    Work.Triple (entryContract cycle session) (Kept cycle)
      (closeStaleIntradayObservations session cycle market) (fun _ => Kept cycle)
      (Caught (Kept cycle)) := by
  refine Work.Triple.bind (selectObservations_seen (stays_kept cycle) _ id) fun stale => ?_
  refine Work.Triple.bind ((Work.Triple.forM_keeps (fun observation => ?_) stale).strengthen
    fun _ _ holds => holds.1) fun _ => Work.Triple.pure fun _ _ kept => kept
  exact closeShadowObservation_kept observation _ _ _ _ _

/-- A cycle flushes only observations which it was allowed to open. -/
theorem runCycle_kept :
    Work.Triple (entryContract cycle session) (Kept cycle) (runCycle session cycle)
      (fun _ _ _ => True) fun _ _ _ => True := by
  refine Work.Triple.ite (fun _ => ?_) fun _ => Work.Triple.pure fun _ _ _ => trivial
  have ingested : Work.Triple (entryContract cycle session) (Kept cycle)
      (Work.ofExcept cycle.newsIngestion) (fun _ => Kept cycle) fun _ _ _ => True :=
    Work.Triple.ofExcept (fun _ _ _ _ kept => kept) fun _ _ _ _ _ => trivial
  have reported : Work.Triple (entryContract cycle session) (Kept cycle)
      (Work.ofExcept cycle.reports) (fun _ => Kept cycle) fun _ _ _ => True :=
    Work.Triple.ofExcept (fun _ _ _ _ kept => kept) fun _ _ _ _ _ => trivial
  have commits : Work.Triple (entryContract cycle session) (Kept cycle) (commit session)
      (fun _ _ _ => True) (Caught (Kept cycle)) := by
    refine Work.Triple.bind flush_kept fun _ => fromDatabase_caught (Work.Triple.ask ?_ ?_)
    · exact fun _ _ _ => ⟨rfl, trivial⟩
    · intros
      trivial
  have body : Work.Triple (entryContract cycle session) (Kept cycle) (cycleBody session cycle)
      (fun _ _ _ => True) fun _ _ _ => True :=
    Work.Triple.bind (triple_uncaught getOrCreateStrategy_kept) fun _ =>
      Work.Triple.bind ingested fun _ =>
      Work.Triple.bind (triple_uncaught (closeStaleIntradayObservations_kept .india)) fun _ =>
      Work.Triple.bind (triple_uncaught (closeStaleIntradayObservations_kept .us)) fun _ =>
      Work.Triple.bind runIndiaCycle_kept fun _ => Work.Triple.bind runUsCycle_kept fun _ =>
      Work.Triple.bind reported fun _ => triple_uncaught commits
  refine Work.Triple.tryCatch body fun raised => ?_
  have cleared : Work.Triple (entryContract cycle session) (fun _ _ => True)
      (set ([] : List Write) : SessionM Unit) (fun _ _ _ => True) fun _ _ _ => True :=
    Work.Triple.modify fun _ _ _ => trivial
  have rolledBack : Work.Triple (entryContract cycle session) (fun _ _ => True)
      (Work.ask (Operation.rollback session) : SessionM Unit) (fun _ _ _ => True)
      fun _ _ _ => True :=
    Work.Triple.ask (fun _ _ _ => ⟨rfl, trivial⟩) fun _ _ _ _ _ _ => trivial
  exact Work.Triple.bind (Work.Triple.bind cleared fun _ => rolledBack) fun _ =>
    Work.Triple.throw fun _ _ _ => trivial

end Statements

end AlphaAgent.Shadow
