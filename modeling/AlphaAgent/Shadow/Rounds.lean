import AlphaAgent.Shadow.Queries

/-!
# A cycle under a discipline

A discipline says what a session keeps between the statements of a cycle, of what it
has pending, of the state of its contract, and of the signals which it has left. A
statement either asks a query, or is one of the few which a discipline is about: the
flushes, the lookup of an open observation, and the writes. What these keep, a whole
cycle keeps; each round spends its signal.
-/

namespace AlphaAgent.Shadow

open Foundation

/-- The service catches no error of the database. -/
@[simp] theorem isTradingAlpha_raised (failed : DatabaseError) :
    isTradingAlpha failed.raised = false := by
  cases failed <;> decide

/-- The signal of a mark. -/
def Write.marks : Write → Option String
  | .addSample sample => if sample.sampleKind = .intradayMark then some sample.signalId else none
  | _ => none

/-- The signal which an observation gets. -/
def Write.assigns : Write → Option String
  | .addObservation observation => some observation.signalId
  | .assign _ (.mark columns) => some columns.signalId
  | _ => none

/-- The ids which are made for the signals of a cycle. -/
def Cycle.signalIds (cycle : Cycle) : List String :=
  (cycle.indiaRounds ++ cycle.usRounds).map (·.signalId)

/-- What a session keeps: between statements, while the mark of a signal is still to be
sent, after a flush, and after the lookup of an open observation. -/
structure Discipline {σ : Type} (contract : Contract Reply σ) (session : ℕ) where
  kept : List String → List Write → σ → Prop
  owing : String → List String → List Write → σ → Prop
  flushed : List String → List Write → σ → Prop
  looked : Market → String → List ShadowObservation → List String → List Write → σ → Prop
  fewer : ∀ {signalId rest pending state},
    kept (signalId :: rest) pending state → kept rest pending state
  kept_of_flushed : ∀ {rest pending state}, flushed rest pending state → kept rest pending state
  kept_of_looked : ∀ {market symbol objects rest pending state},
    looked market symbol objects rest pending state → kept rest pending state
  asks_query : ∀ {state op}, op.isQuery = true → contract.asks state op
  answers_query : ∀ {state op reply after}, op.isQuery = true →
    contract.answers state op reply after → after = state
  asks_flush : ∀ {rest pending state}, kept rest pending state →
    contract.asks state (.flush session pending)
  answers_flush : ∀ {rest pending state after}, kept rest pending state →
    contract.answers state (.flush session pending) (.ok ()) after → flushed rest [] after
  asks_flush_owing : ∀ {signalId rest pending state}, owing signalId rest pending state →
    contract.asks state (.flush session pending)
  answers_flush_owing : ∀ {signalId rest pending state after}, owing signalId rest pending state →
    contract.answers state (.flush session pending) (.ok ()) after → owing signalId rest [] after
  asks_lookup : ∀ {market symbol rest pending state}, flushed rest pending state →
    contract.asks state (.observations session (.openFor market symbol))
  answers_lookup : ∀ {market symbol rest pending state rows after}, flushed rest pending state →
    contract.answers state (.observations session (.openFor market symbol)) (.ok rows) after →
      looked market symbol (rows.map (loaded pending)) rest pending after
  quiet : ∀ {rest pending state} {entry : Write}, entry.marks = none → entry.assigns = none →
    kept rest pending state → kept rest (pending ++ [entry]) state
  opens : ∀ {rest pending state} {observation : ShadowObservation},
    looked observation.market observation.symbol [] (observation.signalId :: rest) pending state →
      owing observation.signalId rest (pending ++ [.addObservation observation]) state
  marks : ∀ {rest pending state} {id : String} {columns : Mark},
    kept (columns.signalId :: rest) pending state →
      owing columns.signalId rest (pending ++ [.assign id (.mark columns)]) state
  samples : ∀ {rest pending state} {sample : ShadowTrainingSample},
    sample.sampleKind = .intradayMark → owing sample.signalId rest pending state →
      kept rest (pending ++ [.addSample sample]) state
  asks_commit : ∀ {pending state}, flushed [] pending state → contract.asks state (.commit session)
  asks_rollback : ∀ {state}, contract.asks state (.rollback session)

/-- Where the service catches what was raised, an assertion holds. -/
def Caught {σ : Type} (kept : List Write → σ → Prop) (raised : RaisedError) (pending : List Write)
    (state : σ) : Prop :=
  isTradingAlpha raised = true → kept pending state

section Rules

variable {σ α : Type} {contract : Contract Reply σ} {session : ℕ}
  {pre kept other : List Write → σ → Prop} {post : α → List Write → σ → Prop}

theorem triple_caught {work : SessionM α} (weaker : ∀ pending state, kept pending state →
      other pending state) (triple : Work.Triple contract pre work post (Caught kept)) :
    Work.Triple contract pre work post (Caught other) :=
  triple.consequence (fun _ _ holds => holds) (fun _ _ _ holds => holds)
    fun _ pending state caught isCaught => weaker pending state (caught isCaught)

/-- Nothing is claimed after an error. -/
theorem triple_uncaught {work : SessionM α}
    (triple : Work.Triple contract pre work post (Caught kept)) :
    Work.Triple contract pre work post fun _ _ _ => True :=
  triple.consequence (fun _ _ holds => holds) (fun _ _ _ holds => holds) fun _ _ _ _ => trivial

theorem fromDatabase_caught {asked : SessionM (Except DatabaseError α)}
    (triple : Work.Triple contract pre asked (fun result pending state =>
      ∀ value, result = .ok value → post value pending state) (Caught kept)) :
    Work.Triple contract pre (fromDatabase asked) post (Caught kept) := by
  refine Work.Triple.bind triple fun result => ?_
  cases result with
  | ok value => exact Work.Triple.pure fun _ _ holds => holds value rfl
  | error failed =>
    apply Work.Triple.throw
    intro pending state _ caught
    rw [isTradingAlpha_raised] at caught
    cases caught

/-- A flush which may be asked leaves nothing pending. -/
theorem flush_caught {done : List Write → σ → Prop}
    (asks : ∀ pending state, pre pending state → contract.asks state (.flush session pending))
    (answers : ∀ pending state after, pre pending state →
      contract.answers state (.flush session pending) (.ok ()) after → done [] after) :
    Work.Triple contract pre (flush session) (fun _ => done) (Caught kept) := by
  have gets : Work.Triple contract pre get (fun value pending state =>
      value = pending ∧ pre pending state) (Caught kept) :=
    Work.Triple.get fun _ _ holds => ⟨rfl, holds⟩
  refine Work.Triple.bind gets fun value => ?_
  have asked : Work.Triple contract (fun pending state => value = pending ∧ pre pending state)
      (fromDatabase (Work.ask (Operation.flush session value))) (fun _ _ state => done [] state)
      (Caught kept) := by
    apply fromDatabase_caught
    apply Work.Triple.ask
    · rintro pending state ⟨rfl, holds⟩
      exact asks _ _ holds
    · rintro pending state reply after ⟨rfl, holds⟩ answered done rfl
      exact answers _ _ _ holds answered
  exact Work.Triple.bind asked fun _ => Work.Triple.modify fun _ _ holds => holds

theorem write_caught {entry : Write}
    (grows : ∀ pending state, pre pending state → other (pending ++ [entry]) state) :
    Work.Triple contract pre (write entry) (fun _ => other) (Caught kept) :=
  Work.Triple.modify grows

end Rules

namespace Discipline

variable {σ α : Type} {contract : Contract Reply σ} {session : ℕ}
  (discipline : Discipline contract session) {rest : List String}
  {pre kept : List Write → σ → Prop}

/-- Signals of rounds which are not scanned are not needed. -/
theorem kept_of_append {skipped : List String} {pending : List Write} {state : σ}
    (holds : discipline.kept (skipped ++ rest) pending state) :
    discipline.kept rest pending state := by
  induction skipped with
  | nil => exact holds
  | cons signalId skipped ih => exact ih (discipline.fewer holds)

/-- A query changes nothing. -/
theorem queries_keeps (discipline : Discipline contract session) {work : SessionM α}
    (queries : Queries work) (implies : ∀ pending state, pre pending state → kept pending state) :
    Work.Triple contract pre work (fun _ => pre) (Caught kept) := by
  have keeps : Work.Triple contract pre work (fun _ => pre) fun _ => pre :=
    queries.keeps (fun _ _ isQuery => discipline.asks_query isQuery)
      fun _ _ _ _ _ isQuery holds answered => discipline.answers_query isQuery answered ▸ holds
  exact keeps.consequence (fun _ _ holds => holds) (fun _ _ _ holds => holds)
    fun _ pending state holds _ => implies pending state holds

theorem ofExcept_keeps (result : Except RaisedError α) :
    Work.Triple contract (discipline.kept rest) (Work.ofExcept result)
      (fun _ => discipline.kept rest) (Caught (discipline.kept rest)) :=
  Work.Triple.ofExcept (fun _ _ _ _ holds => holds) fun _ _ _ _ holds _ => holds

theorem flush_keeps : Work.Triple contract (discipline.kept rest) (flush session)
    (fun _ => discipline.flushed rest) (Caught kept) :=
  flush_caught (fun _ _ => discipline.asks_flush) fun _ _ _ => discipline.answers_flush

theorem lookup_keeps (market : Market) (symbol : String) :
    Work.Triple contract (discipline.flushed rest)
      (selectObservations session (.openFor market symbol))
      (fun objects => discipline.looked market symbol objects rest) (Caught kept) := by
  have asked : Work.Triple contract (discipline.flushed rest)
      (fromDatabase (Work.ask (Operation.observations session (.openFor market symbol))))
      (fun (rows : List ShadowObservation) pending =>
        discipline.looked market symbol (rows.map (loaded pending)) rest pending)
      (Caught kept) := by
    apply fromDatabase_caught
    apply Work.Triple.ask
    · intro pending state
      exact discipline.asks_lookup
    · rintro pending state reply after holds answered rows rfl
      exact discipline.answers_lookup holds answered
  refine Work.Triple.bind asked fun rows => ?_
  have gets : Work.Triple contract
      (fun pending => discipline.looked market symbol (rows.map (loaded pending)) rest pending) get
      (fun value => discipline.looked market symbol (rows.map (loaded value)) rest)
      (Caught kept) := Work.Triple.get fun _ _ holds => holds
  exact Work.Triple.bind gets fun _ => Work.Triple.pure fun _ _ holds => holds

/-- A row is looked for, and added and flushed where it is not found. -/
theorem getOrCreate_keeps {found : SessionM Bool} (queries : Queries found) {entry : Write}
    (unmarked : entry.marks = none) (unassigned : entry.assigns = none) :
    Work.Triple contract (discipline.kept rest)
      (found >>= fun present =>
        if present then pure () else write entry >>= fun _ => flush session)
      (fun _ => discipline.kept rest) (Caught (discipline.kept rest)) := by
  refine Work.Triple.bind (discipline.queries_keeps queries fun _ _ holds => holds) fun present =>
    Work.Triple.ite (fun _ => ?_) fun _ => ?_
  · exact Work.Triple.pure fun _ _ holds => holds
  · refine Work.Triple.bind
      (write_caught fun _ _ holds => discipline.quiet unmarked unassigned holds) fun _ => ?_
    exact discipline.flush_keeps.consequence (fun _ _ holds => holds)
      (fun _ _ _ => discipline.kept_of_flushed) fun _ _ _ caught => caught

theorem getOrCreateStrategy_keeps :
    Work.Triple contract (discipline.kept rest) (getOrCreateStrategy session)
      (fun _ => discipline.kept rest) (Caught (discipline.kept rest)) :=
  discipline.getOrCreate_keeps (queries_fromDatabase (queries_ask rfl)) rfl rfl

theorem getOrCreateInstrument_keeps (market : Market) (symbol : String) :
    Work.Triple contract (discipline.kept rest) (getOrCreateInstrument session market symbol)
      (fun _ => discipline.kept rest) (Caught (discipline.kept rest)) :=
  discipline.getOrCreate_keeps (queries_fromDatabase (queries_ask rfl)) rfl rfl

variable (cycle : Cycle)

theorem closeShadowObservation_keeps (observation : ShadowObservation) (signalId : String)
    (assessment : Assessment) (fxRate : ℚ) (now : ℤ) (decision : ShadowExitDecision) :
    Work.Triple contract (discipline.kept rest)
      (closeShadowObservation cycle observation signalId assessment fxRate now decision)
      (fun _ => discipline.kept rest) (Caught kept) :=
  Work.Triple.bind (write_caught fun _ _ holds => discipline.quiet rfl rfl holds) fun _ =>
    write_caught fun _ _ holds => discipline.quiet rfl rfl holds

/-- An observation which is opened or marked gets the signal of its round. -/
theorem enterOrMark_keeps (market : Market) (fxRate : ℚ) (round : SymbolRound) (lastPrice : ℚ)
    (assessment : Assessment) :
    Work.Triple contract (discipline.flushed (round.signalId :: rest))
      (enterOrMark session cycle market fxRate round lastPrice assessment)
      (fun entered => match entered with
        | none => discipline.kept (round.signalId :: rest)
        | some _ => discipline.owing round.signalId rest)
      (Caught (discipline.kept (round.signalId :: rest))) := by
  refine Work.Triple.bind (discipline.lookup_keeps market round.symbol) fun objects => ?_
  cases objects with
  | nil =>
    refine Work.Triple.bind (discipline.queries_keeps
      (queries_entryAllowed session cycle market round assessment)
      fun _ _ => discipline.kept_of_looked) fun enters => Work.Triple.ite (fun _ => ?_) fun _ => ?_
    · refine Work.Triple.bind (write_caught fun _ _ looked => discipline.opens looked) fun _ => ?_
      exact Work.Triple.pure fun _ _ owing => owing
    · exact Work.Triple.pure fun _ _ looked => discipline.kept_of_looked looked
  | cons observation others =>
    refine Work.Triple.bind (write_caught fun _ _ looked =>
      discipline.marks (discipline.kept_of_looked looked)) fun _ => ?_
    exact Work.Triple.pure fun _ _ owing => owing

theorem applyShadowExitPolicy_keeps (fxRate : ℚ) (round : SymbolRound) (assessment : Assessment)
    (observation : ShadowObservation) :
    Work.Triple contract (discipline.kept rest)
      (applyShadowExitPolicy session cycle fxRate round assessment observation)
      (fun _ => discipline.kept rest) (Caught (discipline.kept rest)) := by
  refine Work.Triple.ite (fun _ => Work.Triple.pure fun _ _ holds => holds) fun _ => ?_
  refine Work.Triple.ite (fun _ => Work.Triple.pure fun _ _ holds => holds) fun _ => ?_
  refine Work.Triple.bind (discipline.queries_keeps (queries_decideExit session cycle observation)
    fun _ _ holds => holds) fun decision => Work.Triple.ite (fun _ => ?_) fun _ => ?_
  · exact Work.Triple.pure fun _ _ holds => holds
  · exact discipline.closeShadowObservation_keeps cycle observation _ _ _ _ decision

/-- A round spends its signal. -/
theorem recordShadowObservation_keeps (market : Market) (fxRate : ℚ) (round : SymbolRound)
    (lastPrice : ℚ) (assessment : Assessment) :
    Work.Triple contract (discipline.flushed (round.signalId :: rest))
      (recordShadowObservation session cycle market fxRate round lastPrice assessment)
      (fun _ => discipline.kept rest) (Caught (discipline.kept rest)) := by
  refine Work.Triple.bind (triple_caught (fun _ _ => discipline.fewer)
    (discipline.enterOrMark_keeps cycle market fxRate round lastPrice assessment)) fun entered => ?_
  cases entered with
  | none => exact Work.Triple.pure fun _ _ holds => discipline.fewer holds
  | some observation =>
    refine Work.Triple.bind (flush_caught (fun _ _ => discipline.asks_flush_owing)
      fun _ _ _ => discipline.answers_flush_owing) fun _ => ?_
    refine Work.Triple.bind (write_caught fun _ _ owing => discipline.samples rfl owing) fun _ => ?_
    refine Work.Triple.bind
      (discipline.applyShadowExitPolicy_keeps cycle fxRate round assessment observation) fun _ => ?_
    exact Work.Triple.pure fun _ _ holds => holds

theorem observeSymbol_keeps (market : Market) (fxRate : ℚ) (round : SymbolRound)
    (lastPrice : Option ℚ) (assessment : Assessment) :
    Work.Triple contract (discipline.kept (round.signalId :: rest))
      (observeSymbol session cycle market fxRate round lastPrice assessment)
      (fun _ => discipline.kept rest) (Caught (discipline.kept rest)) := by
  refine Work.Triple.bind (triple_caught (fun _ _ => discipline.fewer)
    (discipline.getOrCreateInstrument_keeps market round.symbol)) fun _ =>
      Work.Triple.bind discipline.flush_keeps fun _ => ?_
  have spared : Work.Triple contract (discipline.flushed (round.signalId :: rest)) (pure ())
      (fun _ => discipline.kept rest) (Caught (discipline.kept rest)) :=
    Work.Triple.pure fun _ _ flushed => discipline.fewer (discipline.kept_of_flushed flushed)
  cases lastPrice with
  | none => exact spared
  | some lastPrice =>
    refine Work.Triple.ite (fun _ => ?_) fun _ => spared
    refine Work.Triple.bind (discipline.recordShadowObservation_keeps cycle market fxRate round
      lastPrice assessment) fun _ => ?_
    exact Work.Triple.pure fun _ _ holds => holds

/-- One round of a loop: an error which it catches spends the signal too. -/
theorem scanSymbol_keeps (market : Market) (fxRate : ℚ) (round : SymbolRound) :
    Work.Triple contract (discipline.kept (round.signalId :: rest))
      (scanSymbol session cycle market fxRate round) (fun _ => discipline.kept rest)
      fun _ _ _ => True := by
  refine Work.Triple.tryCatch (Work.Triple.bind (triple_caught (fun _ _ => discipline.fewer)
    (discipline.ofExcept_keeps round.quote)) fun assessed =>
      discipline.observeSymbol_keeps cycle market fxRate round assessed.1 assessed.2)
    fun raised => ?_
  apply Work.Triple.ite
  · intro caught
    exact Work.Triple.pure fun _ _ holds => holds caught
  · intro _
    exact Work.Triple.throw fun _ _ _ => trivial

/-- A loop spends the signals of its rounds. -/
theorem scanRounds_keeps (market : Market) (fxRate : ℚ) (rounds : List SymbolRound) :
    Work.Triple contract (discipline.kept (rounds.map (·.signalId) ++ rest))
      (rounds.forM (scanSymbol session cycle market fxRate)) (fun _ => discipline.kept rest)
      fun _ _ _ => True :=
  Work.Triple.forM (fun left => discipline.kept (left.map (·.signalId) ++ rest))
    (fun round _ => discipline.scanSymbol_keeps cycle market fxRate round) rounds

theorem runIndiaCycle_keeps :
    Work.Triple contract (discipline.kept (cycle.indiaRounds.map (·.signalId) ++ rest))
      (runIndiaCycle session cycle) (fun _ => discipline.kept rest) fun _ _ _ => True := by
  apply Work.Triple.ite
  · intro _
    exact discipline.scanRounds_keeps cycle .india 1 cycle.indiaRounds
  · intro _
    exact Work.Triple.pure fun _ _ holds => discipline.kept_of_append holds

theorem runUsCycle_keeps :
    Work.Triple contract (discipline.kept (cycle.usRounds.map (·.signalId) ++ rest))
      (runUsCycle session cycle) (fun _ => discipline.kept rest) fun _ _ _ => True := by
  have skipped : Work.Triple contract (discipline.kept (cycle.usRounds.map (·.signalId) ++ rest))
      (pure () : SessionM Unit) (fun _ => discipline.kept rest) fun _ _ _ => True :=
    Work.Triple.pure fun _ _ holds => discipline.kept_of_append holds
  apply Work.Triple.ite
  · intro _
    cases cycle.usdInr with
    | error raised =>
      exact Work.Triple.ite (fun _ => skipped) fun _ => Work.Triple.throw fun _ _ _ => trivial
    | ok fxStatus =>
      obtain ⟨rate, isFresh⟩ := fxStatus
      cases rate with
      | none => exact skipped
      | some rate =>
        cases isFresh with
        | false => exact skipped
        | true => exact discipline.scanRounds_keeps cycle .us rate cycle.usRounds
  · intro _
    exact skipped

theorem closeStaleIntradayObservations_keeps (market : Market) :
    Work.Triple contract (discipline.kept rest)
      (closeStaleIntradayObservations session cycle market)
      (fun _ => discipline.kept rest) (Caught (discipline.kept rest)) := by
  have selects : Queries (selectObservations session
      (.staleIn market (cycle.days.dayStart market cycle.startedAt))) :=
    queries_bind (queries_fromDatabase (queries_ask rfl)) fun _ =>
      queries_bind queries_get fun _ => queries_pure _
  refine Work.Triple.bind (discipline.queries_keeps selects fun _ _ holds => holds) fun stale => ?_
  refine Work.Triple.bind (Work.Triple.forM_keeps (fun observation => ?_) stale) fun _ =>
    Work.Triple.pure fun _ _ holds => holds
  exact discipline.closeShadowObservation_keeps cycle observation _ _ _ _ _

theorem commit_keeps :
    Work.Triple contract (discipline.kept []) (commit session) (fun _ _ _ => True)
      (Caught kept) := by
  refine Work.Triple.bind discipline.flush_keeps fun _ =>
    fromDatabase_caught (Work.Triple.ask ?_ ?_)
  · intro pending state
    exact discipline.asks_commit
  · intros
    trivial

theorem cycleBody_keeps :
    Work.Triple contract (discipline.kept cycle.signalIds) (cycleBody session cycle)
      (fun _ _ _ => True) fun _ _ _ => True := by
  have india : Work.Triple contract (discipline.kept cycle.signalIds) (runIndiaCycle session cycle)
      (fun _ => discipline.kept (cycle.usRounds.map (·.signalId) ++ [])) fun _ _ _ => True := by
    have all : cycle.signalIds = cycle.indiaRounds.map (·.signalId) ++
        (cycle.usRounds.map (·.signalId) ++ []) := by
      rw [Cycle.signalIds, List.map_append, List.append_nil]
    rw [all]
    exact discipline.runIndiaCycle_keeps cycle
  refine Work.Triple.bind (triple_uncaught discipline.getOrCreateStrategy_keeps) fun _ => ?_
  refine Work.Triple.bind
    (triple_uncaught (discipline.ofExcept_keeps cycle.newsIngestion)) fun _ => ?_
  refine Work.Triple.bind
    (triple_uncaught (discipline.closeStaleIntradayObservations_keeps cycle .india)) fun _ => ?_
  refine Work.Triple.bind
    (triple_uncaught (discipline.closeStaleIntradayObservations_keeps cycle .us)) fun _ => ?_
  refine Work.Triple.bind india fun _ => ?_
  refine Work.Triple.bind (discipline.runUsCycle_keeps cycle) fun _ => ?_
  have commits : Work.Triple contract (discipline.kept []) (commit session)
      (fun _ _ _ => True) (Caught (discipline.kept [])) := discipline.commit_keeps
  exact Work.Triple.bind (triple_uncaught (discipline.ofExcept_keeps cycle.reports)) fun _ =>
    triple_uncaught commits

/-- From the signals of its rounds, a cycle follows the discipline, and however it ends
nothing is left to do. -/
theorem runCycle_keeps :
    Work.Triple contract (discipline.kept cycle.signalIds) (runCycle session cycle)
      (fun _ _ _ => True) fun _ _ _ => True := by
  refine Work.Triple.ite (fun _ => ?_) fun _ => Work.Triple.pure fun _ _ _ => trivial
  refine Work.Triple.tryCatch (discipline.cycleBody_keeps cycle) fun raised => ?_
  have cleared : Work.Triple contract (fun _ _ => True) (set ([] : List Write) : SessionM Unit)
      (fun _ _ _ => True) fun _ _ _ => True := Work.Triple.modify fun _ _ _ => trivial
  have rolledBack : Work.Triple contract (fun _ _ => True)
      (Work.ask (Operation.rollback session) : SessionM Unit) (fun _ _ _ => True)
      fun _ _ _ => True :=
    Work.Triple.ask (fun _ _ _ => discipline.asks_rollback) fun _ _ _ _ _ _ => trivial
  refine Work.Triple.bind (Work.Triple.bind cleared fun _ => rolledBack) fun _ => ?_
  exact Work.Triple.throw fun _ _ _ => trivial

end Discipline
end AlphaAgent.Shadow
