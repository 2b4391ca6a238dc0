import AlphaAgent.Shadow.Sound
import AlphaAgent.Shadow.Steps

/-!
# A cycle takes the steps of its tables

Each part of `run_cycle` is a unit of work which leads from the tables where it
starts to those which the step of the part says. A commit makes them the
committed ones; however else a cycle ends, they are what they were.
-/

namespace AlphaAgent.Shadow

open Foundation

section Service

variable {session : ℕ} {base tables : Database} {kept : List Write → Store → Prop} (cycle : Cycle)

theorem getOrCreateStrategy_spec :
    Spec base kept (Settled session base tables) (getOrCreateStrategy session)
      fun _ => Settled session base tables.withStrategy := by
  have asked : Spec base kept (Settled session base tables)
      (fromDatabase (Work.ask (Operation.hasStrategy session)))
      fun (found : Bool) pending store => Settled session base tables pending store ∧
        found = decide (0 < tables.strategies) := by
    refine fromDatabase_spec (ask_spec fun pending store _ settled => ?_)
    rw [← settled.view]
    exact answer_spec ⟨settled.view ▸ settled, rfl⟩ settled.standing.committed
  refine Work.Triple.bind asked fun found => Work.Triple.ite (fun isFound => ?_) fun missing => ?_
  · apply Work.Triple.pure
    rintro pending store ⟨settled, same⟩
    rw [Database.withStrategy, if_pos (of_decide_eq_true (same.symm.trans isFound))]
    exact settled
  · have written : Spec base kept (fun pending store => Settled session base tables pending store ∧
        found = decide (0 < tables.strategies)) (write .addStrategy)
        fun _ => At session base tables.withStrategy := by
      apply write_spec
      rintro pending store ⟨settled, same⟩
      have none : ¬0 < tables.strategies := by
        intro some
        exact missing (same.trans (decide_eq_true some))
      rw [Database.withStrategy, if_neg none]
      exact settled.standing.written _ rfl
    exact Work.Triple.bind written fun _ => flush_settles

theorem getOrCreateInstrument_spec (market : Market) (symbol : String) :
    Spec base kept (At session base tables) (getOrCreateInstrument session market symbol)
      fun _ => At session base (tables.withInstrument market symbol) := by
  have asked : Spec base kept (At session base tables)
      (fromDatabase (Work.ask (Operation.hasInstrument session market symbol)))
      fun (found : Bool) pending store => At session base tables pending store ∧
        found = decide ((market, symbol) ∈ tables.instruments) := by
    refine fromDatabase_spec (ask_spec fun pending store _ standing => ?_)
    rw [← standing.instruments]
    exact answer_spec ⟨standing, rfl⟩ standing.committed
  refine Work.Triple.bind asked fun found => Work.Triple.ite (fun isFound => ?_) fun missing => ?_
  · apply Work.Triple.pure
    rintro pending store ⟨standing, same⟩
    have member := of_decide_eq_true (same.symm.trans isFound)
    rw [Database.withInstrument, if_pos (List.contains_iff_mem.mpr member)]
    exact standing
  · have absent : found = decide ((market, symbol) ∈ tables.instruments) →
        tables.withInstrument market symbol = tables.apply (.addInstrument market symbol) := by
      intro same
      refine if_neg fun member => missing (same.trans ?_)
      exact decide_eq_true (List.contains_iff_mem.mp member)
    have written : Spec base kept (fun pending store => At session base tables pending store ∧
        found = decide ((market, symbol) ∈ tables.instruments))
        (write (.addInstrument market symbol))
        fun _ pending store => store.committed = base ∧
          store.resulting session pending = tables.withInstrument market symbol := by
      apply write_spec
      rintro pending store ⟨standing, same⟩
      refine ⟨standing.committed, ?_⟩
      rw [absent same, Store.resulting, Database.applyAll_append, ← Store.resulting,
        standing.resulting]
      rfl
    refine Work.Triple.bind written fun _ => flush_spec (fun _ _ holds => holds.1) ?_
    rintro pending store ⟨committed, resulting⟩ -
    have view : (store.afterFlush session pending).view session =
        tables.withInstrument market symbol := (store.view_afterFlush pending).trans resulting
    exact ⟨committed, congrArg Database.instruments view, view⟩

/-- The cooldown is the block which the flushed observations say. -/
theorem activeReentryCooldown_spec (market : Market) (symbol : String) (now : ℤ) :
    Spec base kept (Settled session base tables)
      (activeReentryCooldown session cycle market symbol now) fun block pending store =>
        Settled session base tables pending store ∧
          block = reentryBlock cycle tables.observations market symbol now := by
  apply Work.Triple.ite
  · intro off
    apply Work.Triple.pure
    intro pending store settled
    exact ⟨settled, (if_pos off).symm⟩
  · intro on
    refine Work.Triple.bind (selectObservations_spec _ _
      fun _ _ settled => settled.standing.committed) fun closed => Work.Triple.pure ?_
    rintro pending store ⟨settled, rfl⟩
    refine ⟨settled, ?_⟩
    rw [settled.1, loaded_nil, List.map_id, settled.view, reentryBlock, if_neg on]

/-- An entry is allowed only to a buy which no earlier close blocks. -/
theorem entryAllowed_spec (market : Market) (round : SymbolRound) (assessment : Assessment)
    (keeps : ∀ pending store, Settled session base tables pending store → kept pending store) :
    Spec base kept (Settled session base tables)
      (entryAllowed session cycle market round assessment) fun allowed pending store =>
        Settled session base tables pending store ∧ (allowed = true → assessment.action = .buy ∧
          reentryBlock cycle tables.observations market round.symbol round.recordedAt = none) := by
  have refused : ∀ pending store, Settled session base tables pending store →
      Settled session base tables pending store ∧ (false = true → assessment.action = .buy ∧
        reentryBlock cycle tables.observations market round.symbol round.recordedAt = none) := by
    intro pending store settled
    exact ⟨settled, nofun⟩
  apply Work.Triple.ite
  · intro _
    exact Work.Triple.pure refused
  · intro buys
    refine Work.Triple.bind (queries_spec (queries_ofExcept round.newsBlocks)
      (fun _ _ settled => settled.standing.committed) keeps) fun blocks => ?_
    apply Work.Triple.ite
    · intro _
      exact Work.Triple.pure refused
    · intro _
      refine Work.Triple.bind (activeReentryCooldown_spec cycle market round.symbol
        round.recordedAt) fun block => ?_
      apply Work.Triple.ite
      · intro _
        exact Work.Triple.pure fun pending store holds => refused pending store holds.1
      · intro unblocked
        refine Work.Triple.bind (queries_spec
          (queries_activeLossDisciplinePause session cycle market round.symbol round.recordedAt)
          (fun _ _ holds => holds.1.standing.committed) fun pending store holds =>
            keeps pending store holds.1) fun pause => Work.Triple.pure ?_
        rintro pending store ⟨settled, rfl⟩
        exact ⟨settled, fun _ => ⟨not_not.mp buys, by simpa using unblocked⟩⟩

/-- What is entered is pending as its entry says. -/
def Enters (session : ℕ) (base tables : Database) (cycle : Cycle) (turn : Turn) (lastPrice : ℚ)
    (assessment : Assessment) : Option ShadowObservation → List Write → Store → Prop
  | none, pending, store => Settled session base tables pending store
  | some observation, pending, store => ∃ entry,
      Entry cycle turn lastPrice assessment tables.observations observation entry ∧
        pending = [entry] ∧ Settled session base tables [] store

variable (turn : Turn) (lastPrice : ℚ) (assessment : Assessment)

theorem enterOrMark_spec
    (keeps : ∀ pending store, Settled session base tables pending store → kept pending store) :
    Spec base kept (Settled session base tables)
      (enterOrMark session cycle turn.market turn.fxRate turn.round lastPrice assessment)
      (Enters session base tables cycle turn lastPrice assessment) := by
  have looked : Spec base kept (Settled session base tables)
      (selectObservations session (.openFor turn.market turn.round.symbol))
      fun objects pending store => Settled session base tables pending store ∧
        objects.head? = openFor tables.observations turn.market turn.round.symbol := by
    refine (selectObservations_spec _ _ fun _ _ settled => settled.standing.committed).consequence
      (fun _ _ settled => settled) ?_ fun _ _ _ fails => fails
    rintro objects pending store ⟨settled, rfl⟩
    refine ⟨settled, ?_⟩
    rw [settled.1, loaded_nil, List.map_id, settled.view]
    rfl
  refine Work.Triple.bind looked fun objects => ?_
  cases first : objects.head? with
  | none =>
    refine Work.Triple.given fun absent => Work.Triple.bind
      (entryAllowed_spec cycle turn.market turn.round assessment keeps) fun allowed =>
        Work.Triple.given fun checked => Work.Triple.ite (fun enters => ?_) fun _ => ?_
    · have written : Spec base kept (Settled session base tables)
          (write (.addObservation
            (newObservation cycle turn.market turn.fxRate turn.round lastPrice assessment)))
          fun _ => Enters session base tables cycle turn lastPrice assessment
            (some
              (newObservation cycle turn.market turn.fxRate turn.round lastPrice assessment)) := by
        apply write_spec
        rintro pending store ⟨rfl, standing⟩
        obtain ⟨buys, unblocked⟩ := checked enters
        exact ⟨_, .opened absent.symm buys unblocked, rfl, rfl, standing⟩
      exact Work.Triple.bind written fun _ => Work.Triple.pure fun _ _ holds => holds
    · exact Work.Triple.pure fun _ _ settled => settled
  | some observation =>
    refine Work.Triple.given fun found => ?_
    have written : Spec base kept (Settled session base tables)
        (write (.assign observation.id
          (.mark (markOf cycle turn.fxRate turn.round lastPrice assessment observation))))
        fun _ => Enters session base tables cycle turn lastPrice assessment
          (some (observation.assigned
            (.mark (markOf cycle turn.fxRate turn.round lastPrice assessment observation)))) := by
      apply write_spec
      rintro pending store ⟨rfl, standing⟩
      exact ⟨_, .marked found.symm, rfl, rfl, standing⟩
    exact Work.Triple.bind written fun _ => Work.Triple.pure fun _ _ holds => holds

/-- The exit decision reads the flushed samples, and those of the tables are the same. -/
theorem decideExit_spec {pre : List Write → Store → Prop} (observation : ShadowObservation)
    (committed : ∀ pending store, pre pending store → store.committed = base)
    (flushed : ∀ pending store, pre pending store → (store.view session).samples = tables.samples) :
    Spec base kept pre (decideExit session cycle observation) fun decision pending store =>
      pre pending store ∧ decision = exitDecision cycle tables.samples observation := by
  apply Work.Triple.ite
  · intro closes
    apply Work.Triple.pure
    intro pending store holds
    exact ⟨holds, (if_pos closes).symm⟩
  · intro stays
    refine Work.Triple.bind (selectSamples_spec _ committed) fun samples => Work.Triple.pure ?_
    rintro pending store ⟨holds, rfl⟩
    refine ⟨holds, ?_⟩
    rw [flushed pending store holds, exitDecision, if_neg stays]

theorem At.closed {pending : List Write} {store : Store}
    (standing : At session base tables pending store) (exit : Exit) :
    At session base (tables.applyAll (exit.writes cycle)) (pending ++ exit.writes cycle) store := by
  have both := (standing.written (.assign exit.observation.id (.close (exit.closing cycle)))
    rfl).written (.addSample exit.sample) rfl
  rw [List.append_assoc] at both
  exact both

/-- A close writes its assignment and its sample. -/
theorem closeShadowObservation_spec {pre post : List Write → Store → Prop} (exit : Exit)
    (leads : ∀ pending store, pre pending store → post (pending ++ exit.writes cycle) store) :
    Spec base kept pre (closeShadowObservation cycle exit.observation exit.signalId exit.assessment
      exit.fxRate exit.now exit.decision) fun _ => post := by
  have assigned : Spec base kept pre
      (write (.assign exit.observation.id (.close (exit.closing cycle))))
      fun _ pending store => ∃ earlier, pre earlier store ∧
        pending = earlier ++ [.assign exit.observation.id (.close (exit.closing cycle))] :=
    write_spec _ fun pending store holds => ⟨pending, holds, rfl⟩
  refine Work.Triple.bind assigned fun _ => write_spec _ ?_
  rintro pending store ⟨earlier, holds, rfl⟩
  rw [List.append_assoc]
  exact leads earlier store holds

/-- The exit policy writes the close which the samples before the mark decide on. -/
theorem applyShadowExitPolicy_spec {marked : Database} (observation : ShadowObservation) :
    Spec base kept
      (fun pending store => At session base marked pending store ∧
        (store.view session).samples = tables.samples)
      (applyShadowExitPolicy session cycle turn.fxRate turn.round assessment observation)
      fun _ => At session base (marked.applyAll
        ((recordExit cycle tables.samples observation turn assessment).elim []
          (Exit.writes cycle))) := by
  have stays : ¬Exits cycle tables.samples observation → ∀ pending store,
      At session base marked pending store → At session base (marked.applyAll
        ((recordExit cycle tables.samples observation turn assessment).elim []
          (Exit.writes cycle))) pending store := by
    intro none pending store standing
    rw [recordExit, if_neg none]
    exact standing
  refine Work.Triple.ite (fun off => ?_) fun on =>
    Work.Triple.ite (fun closed => ?_) fun isOpen => ?_
  · exact Work.Triple.pure fun pending store holds =>
      stays (fun exits => Bool.noConfusion (exits.1.symm.trans off)) pending store holds.1
  · exact Work.Triple.pure fun pending store holds =>
      stays (fun exits => Bool.noConfusion (exits.2.1.symm.trans closed)) pending store holds.1
  · refine Work.Triple.bind (decideExit_spec cycle observation
      (fun _ _ holds => holds.1.committed) fun _ _ holds => holds.2) fun decision =>
        Work.Triple.given fun decided => Work.Triple.ite (fun holds => ?_) fun closes => ?_
    · exact Work.Triple.pure fun pending store standing =>
        stays (fun exits => holds (decided ▸ exits.2.2)) pending store standing.1
    · have exits : Exits cycle tables.samples observation :=
        ⟨Bool.not_eq_false _ ▸ on, Bool.not_eq_false _ ▸ isOpen, decided ▸ not_not.mp closes⟩
      rw [recordExit, if_pos exits, ← decided]
      exact closeShadowObservation_spec cycle (turnExit turn assessment observation decision)
        fun pending store standing => standing.1.closed cycle _

theorem recordShadowObservation_spec
    (keeps : ∀ pending store, Settled session base tables pending store → kept pending store)
    (next : Database → Prop)
    (watched : next tables)
    (recorded : ∀ observation entry,
      Entry cycle turn lastPrice assessment tables.observations observation entry →
        tables.Accepts entry →
      next ((tables.apply entry).applyAll
        (recordWrites cycle tables.samples observation turn assessment))) :
    Spec base kept (Settled session base tables)
      (recordShadowObservation session cycle turn.market turn.fxRate turn.round lastPrice
        assessment)
      fun _ => Reaches session base next := by
  refine Work.Triple.bind (enterOrMark_spec cycle turn lastPrice assessment keeps) fun entered => ?_
  cases entered with
  | none => exact Work.Triple.pure fun _ _ settled => ⟨tables, watched, settled.standing⟩
  | some observation =>
    refine Work.Triple.choose fun entry => ?_
    have flushed : Spec base kept (fun pending store =>
          Entry cycle turn lastPrice assessment tables.observations observation entry ∧
            pending = [entry] ∧ Settled session base tables [] store) (flush session)
        fun _ pending store => (Settled session base (tables.apply entry) pending store) ∧
          (Entry cycle turn lastPrice assessment tables.observations observation entry ∧
            tables.Accepts entry) := by
      apply flush_spec
      · rintro pending store ⟨_, _, settled⟩
        exact settled.standing.committed
      · rintro pending store ⟨enters, rfl, settled⟩ accepted
        rw [settled.view] at accepted
        have view : (store.afterFlush session [entry]).view session = tables.apply entry := by
          rw [store.view_afterFlush, settled.view]
          rfl
        exact ⟨⟨rfl, settled.standing.committed, congrArg Database.instruments view, view⟩,
          enters, accepted.1⟩
    refine Work.Triple.bind flushed fun _ => Work.Triple.given fun known => ?_
    have sampled : Spec base kept (Settled session base (tables.apply entry))
        (recordIntradayTrainingSample turn.fxRate turn.round assessment observation)
        fun _ pending store => At session base ((tables.apply entry).apply
          (.addSample (markSample turn assessment observation))) pending store ∧
            (store.view session).samples = tables.samples := by
      apply write_spec
      intro pending store settled
      refine ⟨settled.standing.written _ rfl, ?_⟩
      rw [settled.view]
      cases known.1 with
      | opened => rfl
      | marked => rfl
    refine Work.Triple.bind sampled fun _ => Work.Triple.bind
      (applyShadowExitPolicy_spec cycle turn assessment observation) fun _ => Work.Triple.pure ?_
    intro pending store standing
    exact ⟨_, recorded observation entry known.1 known.2, standing⟩

/-- Observing a symbol takes one step of its turn. -/
theorem observeSymbol_spec (price : Option ℚ)
    (quoted : turn.round.quote = .ok (price, assessment)) :
    Spec base (Reaches session base (TurnStep cycle turn tables)) (At session base tables)
      (observeSymbol session cycle turn.market turn.fxRate turn.round price assessment)
      fun _ => Reaches session base (TurnStep cycle turn tables) := by
  refine Work.Triple.bind (getOrCreateInstrument_spec turn.market turn.round.symbol) fun _ =>
    Work.Triple.bind flush_settles fun _ => ?_
  have watches : ∀ pending store,
      Settled session base (tables.withInstrument turn.market turn.round.symbol) pending store →
        Reaches session base (TurnStep cycle turn tables) pending store :=
    fun _ _ settled => ⟨_, .watched, settled.standing⟩
  cases price with
  | none => exact Work.Triple.pure watches
  | some lastPrice =>
    refine Work.Triple.ite (fun positive => ?_) fun _ => Work.Triple.pure watches
    refine Work.Triple.bind (recordShadowObservation_spec cycle turn lastPrice assessment watches
      (TurnStep cycle turn tables) .watched ?_) fun _ => Work.Triple.pure fun _ _ holds => holds
    intro observation entry enters accepted
    rw [withInstrument_samples]
    rw [withInstrument_observations] at enters
    refine .recorded quoted positive enters ?_
    cases enters with
    | opened => rwa [Database.Accepts, withInstrument_observations] at accepted
    | marked => trivial

/-- A round takes one step of its turn, also where it catches an error. -/
theorem scanSymbol_spec :
    Spec base kept (At session base tables)
      (scanSymbol session cycle turn.market turn.fxRate turn.round)
      fun _ => Reaches session base (TurnStep cycle turn tables) := by
  have tries : Spec base (Reaches session base (TurnStep cycle turn tables))
      (At session base tables)
      (Work.ofExcept turn.round.quote >>= fun assessed =>
        observeSymbol session cycle turn.market turn.fxRate turn.round assessed.1 assessed.2)
      fun _ => Reaches session base (TurnStep cycle turn tables) := by
    have quotes : Spec base (Reaches session base (TurnStep cycle turn tables))
        (At session base tables) (Work.ofExcept turn.round.quote)
        fun assessed pending store => At session base tables pending store ∧
          turn.round.quote = .ok assessed :=
      Work.Triple.ofExcept (fun _ _ _ same standing => ⟨standing, same⟩)
        fun _ _ _ _ standing => ⟨standing.committed, fun _ => ⟨tables, .blocked, standing⟩⟩
    refine Work.Triple.bind quotes fun assessed => Work.Triple.given fun quoted => ?_
    exact observeSymbol_spec cycle turn assessed.2 assessed.1 quoted
  refine Work.Triple.tryCatch tries fun raised =>
    Work.Triple.ite (fun caught => ?_) fun escapes => ?_
  · exact Work.Triple.pure fun _ _ fails => fails.2 caught
  · exact Work.Triple.throw fun _ _ fails => ⟨fails.1, fun caught => absurd caught escapes⟩

theorem rounds_spec (market : Market) (fxRate : ℚ) (rounds : List SymbolRound) :
    Spec base kept (At session base tables) (rounds.forM (scanSymbol session cycle market fxRate))
      fun _ => Reaches session base (Turns cycle (rounds.map (Turn.mk market fxRate)) tables) := by
  induction rounds generalizing tables with
  | nil => exact Work.Triple.pure fun _ _ standing => ⟨tables, .nil, standing⟩
  | cons round rest ih =>
    refine Work.Triple.bind (scanSymbol_spec cycle ⟨market, fxRate, round⟩) fun _ =>
      Work.Triple.choose fun between => ?_
    intro pending store ⟨step, standing⟩
    refine (ih.consequence (fun _ _ holds => holds) ?_ fun _ _ _ fails => fails)
      pending store standing
    rintro _ last state ⟨after, steps, stands⟩
    exact ⟨after, .cons step steps, stands⟩

theorem runIndiaCycle_spec :
    Spec base kept (At session base tables) (runIndiaCycle session cycle)
      fun _ => Reaches session base (Turns cycle cycle.indiaTurns tables) := by
  refine Work.Triple.ite (fun isOpen => ?_) fun closed => ?_
  · rw [Cycle.indiaTurns, if_pos isOpen]
    exact rounds_spec cycle .india 1 cycle.indiaRounds
  · rw [Cycle.indiaTurns, if_neg closed]
    exact Work.Triple.pure fun _ _ standing => ⟨tables, .nil, standing⟩

theorem runUsCycle_spec :
    Spec base (fun _ _ => True) (At session base tables) (runUsCycle session cycle)
      fun _ => Reaches session base (Turns cycle cycle.usTurns tables) := by
  have idle : ∀ pending store, At session base tables pending store →
      Reaches session base (Turns cycle [] tables) pending store :=
    fun _ _ standing => ⟨tables, .nil, standing⟩
  refine Work.Triple.ite (fun isOpen => ?_) fun closed => ?_
  · rw [Cycle.usTurns, if_pos isOpen]
    cases cycle.usdInr with
    | error raised =>
      refine Work.Triple.ite (fun _ => Work.Triple.pure idle) fun _ => Work.Triple.throw ?_
      exact fun _ _ standing => ⟨standing.committed, fun _ => trivial⟩
    | ok fxStatus =>
      obtain ⟨rate, isFresh⟩ := fxStatus
      cases rate with
      | none => exact Work.Triple.pure idle
      | some rate =>
        cases isFresh with
        | false => exact Work.Triple.pure idle
        | true => exact rounds_spec cycle .us rate cycle.usRounds
  · rw [Cycle.usTurns, if_neg closed]
    exact Work.Triple.pure idle

end Service

section Stale

variable {session : ℕ} {base seen tables : Database} {kept : List Write → Store → Prop}

/-- Writes which are pending over the flushed tables do not concern a market. -/
structure Untouched (seen : Database) (market : Market) (pending : List Write) : Prop where
  rows : ∀ row ∈ seen.observations, row.market = market → loaded pending row = row
  inserted : ∀ row ∈ added pending, row.market ≠ market

theorem Untouched.nothing (seen : Database) (market : Market) : Untouched seen market [] where
  rows _ _ _ := rfl
  inserted row member := by
    have none : added [] = [] := rfl
    rw [none] at member
    cases member

theorem loaded_market (writes : List Write) (row : ShadowObservation) :
    (loaded writes row).market = row.market := by
  induction writes generalizing row with
  | nil => rfl
  | cons write rest ih => exact (ih _).trans (onRow_market row write)

/-- The stale rows of an untouched market are those of the resulting tables. -/
theorem Untouched.stale {market : Market} {pending : List Write}
    (untouched : Untouched seen market pending) (dayStart : ℤ) :
    (seen.stale market dayStart).map (loaded pending) =
      (seen.applyAll pending).stale market dayStart := by
  have ownNone : (added pending).filter (ObservationFilter.staleIn market dayStart).selects =
      [] := by
    rw [List.filter_eq_nil_iff]
    intro row member selected
    simp only [ObservationFilter.selects, Bool.and_eq_true, decide_eq_true_eq] at selected
    exact untouched.inserted row member selected.1.1
  have sameRows : ∀ row ∈ seen.observations,
      (ObservationFilter.staleIn market dayStart).selects row =
        ((ObservationFilter.staleIn market dayStart).selects ∘ loaded pending) row := by
    intro row member
    by_cases here : row.market = market
    · rw [Function.comp_apply, untouched.rows row member here]
    · simp [ObservationFilter.selects, loaded_market, here]
  calc (seen.stale market dayStart).map (loaded pending)
      = (seen.observations.filter
          ((ObservationFilter.staleIn market dayStart).selects ∘ loaded pending)).map
            (loaded pending) := by rw [Database.stale, List.filter_congr sameRows]
    _ = (seen.observations.map (loaded pending)).filter
          (ObservationFilter.staleIn market dayStart).selects := List.filter_map.symm
    _ = (seen.applyAll pending).stale market dayStart := by
      rw [Database.stale, observations_applyAll, List.filter_append, ownNone, List.append_nil]

/-- The session stands at the tables, over flushed ones and with writes which are known. -/
structure Over (session : ℕ) (base seen tables : Database) (earlier pending : List Write)
    (store : Store) : Prop where
  view : store.view session = seen
  writes : pending = earlier
  standing : At session base tables pending store

variable (cycle : Cycle)

theorem closeStale_spec (dayStart : ℤ) (rows : List ShadowObservation) (earlier : List Write) :
    Spec base kept (Over session base seen tables earlier) (rows.forM (closeStale cycle dayStart))
      fun _ => Over session base seen
        (tables.applyAll (rows.flatMap fun row => (staleExit dayStart row).writes cycle))
        (earlier ++ rows.flatMap fun row => (staleExit dayStart row).writes cycle) := by
  induction rows generalizing tables earlier with
  | nil =>
    apply Work.Triple.pure
    intro pending store holds
    rw [List.flatMap_nil, List.append_nil]
    exact holds
  | cons row rest ih =>
    have closes : Spec base kept (Over session base seen tables earlier)
        (closeStale cycle dayStart row) fun _ => Over session base seen
          (tables.applyAll ((staleExit dayStart row).writes cycle))
          (earlier ++ (staleExit dayStart row).writes cycle) := by
      apply closeShadowObservation_spec cycle (staleExit dayStart row)
      rintro pending store ⟨view, rfl, standing⟩
      exact ⟨view, rfl, standing.closed cycle _⟩
    refine Work.Triple.bind closes fun _ => ?_
    rw [List.flatMap_cons, ← List.append_assoc, Database.applyAll_append]
    exact ih _

/-- The stale observations of an untouched market are closed as its tables say. -/
theorem closeStaleIntradayObservations_spec (market : Market) {earlier : List Write}
    (untouched : Untouched seen market earlier) :
    Spec base kept (Over session base seen tables earlier)
      (closeStaleIntradayObservations session cycle market) fun _ =>
        Over session base seen (tables.afterStale cycle market)
          (earlier ++ tables.staleWrites cycle market) := by
  refine Work.Triple.bind (selectObservations_spec _ _ fun _ _ holds => holds.standing.committed)
    fun rows => ?_
  have selected : ∀ pending store, (Over session base seen tables earlier pending store ∧ rows =
        (id ((store.view session).observations.filter (ObservationFilter.staleIn market
          (cycle.days.dayStart market cycle.startedAt)).selects)).map (loaded pending)) →
      Over session base seen tables earlier pending store ∧
        rows = tables.stale market (cycle.days.dayStart market cycle.startedAt) := by
    rintro pending store ⟨⟨rfl, rfl, standing⟩, rfl⟩
    refine ⟨⟨rfl, rfl, standing⟩, ?_⟩
    rw [← standing.resulting]
    exact untouched.stale _
  refine Work.Triple.strengthen selected (Work.Triple.given ?_)
  rintro rfl
  exact Work.Triple.bind (closeStale_spec cycle _ _ earlier) fun _ =>
    Work.Triple.pure fun _ _ holds => holds

/-- The closes of one market leave the other untouched. -/
theorem untouched_staleWrites {closed other : Market} (apart : closed ≠ other)
    (distinct : (seen.observations.map ShadowObservation.id).Nodup) :
    Untouched seen other (seen.staleWrites cycle closed) := by
  constructor
  · intro row member inMarket
    have others : ∀ stale ∈ seen.stale closed (cycle.days.dayStart closed cycle.startedAt),
        row.id ≠ stale.id := by
      intro stale staleMember same
      obtain ⟨staleIn, selected⟩ := List.mem_filter.mp staleMember
      simp only [ObservationFilter.selects, Bool.and_eq_true, decide_eq_true_eq] at selected
      rw [List.inj_on_of_nodup_map distinct member staleIn same] at inMarket
      exact apart (selected.1.1.symm.trans inMarket)
    exact loaded_staleWrites cycle others
  · intro row member
    have none : added (seen.staleWrites cycle closed) = [] := added_staleWrites cycle _ _
    rw [none] at member
    cases member

end Stale

section Cycle

variable {session : ℕ} {base : Database} (cycle : Cycle)

/-- A commit which the database accepts commits the tables. -/
theorem commit_spec {kept : List Write → Store → Prop} {leads : Database → Prop} :
    Spec base kept (Reaches session base leads) (commit session)
      fun _ _ store => leads store.committed := by
  refine Work.Triple.choose fun tables => ?_
  have flushed : Spec base kept
      (fun pending store => leads tables ∧ At session base tables pending store) (flush session)
      fun _ pending store => Settled session base tables pending store ∧ leads tables :=
    flush_spec (fun _ _ holds => holds.2.committed) fun _ _ holds _ => ⟨holds.2.flushed, holds.1⟩
  refine Work.Triple.bind flushed fun _ => fromDatabase_spec (ask_spec ?_)
  rintro pending store environment ⟨settled, led⟩
  rcases performer_commit environment store session with ⟨_, committed⟩ | ⟨failed, refused⟩
  · rw [committed]
    have same : (store.afterCommit session).committed = tables := settled.view
    exact same.symm ▸ led
  · rw [refused]
    exact settled.standing.committed

theorem cycleBody_spec (distinct : (base.observations.map ShadowObservation.id).Nodup) :
    Spec base (fun _ _ => True) (Settled session base base) (cycleBody session cycle)
      fun _ _ store => CycleSteps cycle base store.committed := by
  refine Work.Triple.bind getOrCreateStrategy_spec fun _ => ?_
  refine Work.Triple.bind (queries_spec (queries_ofExcept cycle.newsIngestion)
    (fun _ _ settled => settled.standing.committed) fun _ _ _ => trivial) fun _ => ?_
  refine Work.Triple.strengthen (fun pending store settled =>
    (⟨settled.view, settled.1, settled.2⟩ : Over session base base.withStrategy base.withStrategy []
      pending store)) ?_
  -- The closes of India leave the rows of the US alone, so that their query sees the same ones.
  refine Work.Triple.bind (closeStaleIntradayObservations_spec cycle .india
    (Untouched.nothing _ _)) fun _ => ?_
  have apart : Untouched base.withStrategy .us (base.withStrategy.staleWrites cycle .india) :=
    untouched_staleWrites cycle (by decide) (by rwa [withStrategy_observations])
  refine Work.Triple.bind (closeStaleIntradayObservations_spec cycle .us apart) fun _ => ?_
  refine Work.Triple.strengthen (fun _ _ holds => holds.standing) ?_
  refine Work.Triple.bind (runIndiaCycle_spec cycle) fun _ => Work.Triple.choose fun between => ?_
  have us : Spec base (fun _ _ => True) (fun pending store =>
        Turns cycle cycle.indiaTurns (base.opening cycle) between ∧
          At session base between pending store) (runUsCycle session cycle)
      fun _ => Reaches session base (CycleSteps cycle base) := by
    intro pending store ⟨india, standing⟩
    refine (runUsCycle_spec cycle).consequence (fun _ _ holds => holds) ?_
      (fun _ _ _ fails => fails) pending store standing
    rintro _ last state ⟨after, steps, stands⟩
    exact ⟨after, india.append steps, stands⟩
  refine Work.Triple.bind us fun _ => ?_
  exact Work.Triple.bind (queries_spec (queries_ofExcept cycle.reports)
    (fun _ _ reached => reached.choose_spec.2.committed) fun _ _ _ => trivial) fun _ => commit_spec

/-- A cycle which is disabled or raises leaves the committed tables as they were,
and every other one takes its steps. -/
theorem runCycle_spec (distinct : (base.observations.map ShadowObservation.id).Nodup) :
    Work.Triple serialContract (Settled session base base) (runCycle session cycle)
      (fun _ _ store => if cycle.settings.shadowTrainingEnabled then
        CycleSteps cycle base store.committed else store.committed = base)
      fun _ _ store => store.committed = base := by
  refine Work.Triple.ite (fun enabled => ?_) fun disabled => ?_
  · simp only [if_pos enabled]
    refine Work.Triple.tryCatch (cycleBody_spec cycle distinct) fun raised => ?_
    have cleared : Work.Triple serialContract (Fails base (fun _ _ => True) raised)
        (set ([] : List Write) : SessionM Unit) (fun _ _ store => store.committed = base)
        fun _ _ store => store.committed = base :=
      Work.Triple.modify fun _ _ fails => fails.1
    have rolledBack : Work.Triple serialContract (fun _ store => store.committed = base)
        (Work.ask (Operation.rollback session) : SessionM Unit)
        (fun _ _ store => store.committed = base) fun _ _ store => store.committed = base :=
      ask_spec fun _ _ _ same => same
    refine Work.Triple.bind (Work.Triple.bind cleared fun _ => rolledBack) fun _ => ?_
    exact Work.Triple.throw fun _ _ same => same
  · simp only [if_neg disabled]
    exact Work.Triple.pure fun _ _ settled => settled.standing.committed

end Cycle
end AlphaAgent.Shadow
