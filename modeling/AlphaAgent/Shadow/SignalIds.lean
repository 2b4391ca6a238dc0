import AlphaAgent.Foundation.Watch
import AlphaAgent.Shadow.Interleaving
import Mathlib.Data.List.Induction

/-!
# Signals of marks

A cycle marks each of its signals once, and sends a sample with every signal which it
assigns to an observation. The ids of its signals are new, so in whatever order cycles
perform their operations, no two marks have one signal, and each observation has a
sample of its own.
-/

namespace AlphaAgent.Shadow

open Foundation

section Writes

/-- The signal of a sample. -/
def Write.samples : Write → Option String
  | .addSample sample => some sample.signalId
  | _ => none

/-- The signals of the stored marks. -/
def Database.markIds (database : Database) : List String :=
  (database.samples.filter fun sample => sample.sampleKind = .intradayMark).map (·.signalId)

/-- Each observation has a sample of its signal. -/
def Database.Sampled (database : Database) : Prop :=
  ∀ observation ∈ database.observations, ∃ sample ∈ database.samples,
    sample.signalId = observation.signalId

theorem markIds_apply (database : Database) (write : Write) :
    (database.apply write).markIds = database.markIds ++ write.marks.toList := by
  cases write with
  | addSample sample =>
    rw [Database.markIds, Database.apply, List.filter_append, List.map_append, Write.marks]
    by_cases isMark : sample.sampleKind = .intradayMark
    · simp [Database.markIds, isMark]
    · simp [Database.markIds, isMark]
  | _ => exact (List.append_nil _).symm

theorem markIds_applyAll (database : Database) (writes : List Write) :
    (database.applyAll writes).markIds = database.markIds ++ writes.filterMap Write.marks := by
  induction writes generalizing database with
  | nil => exact (List.append_nil _).symm
  | cons write rest ih =>
    have next := ih (database.apply write)
    rw [markIds_apply] at next
    rw [show database.applyAll (write :: rest) = (database.apply write).applyAll rest from rfl,
      next, List.append_assoc, List.filterMap_cons]
    cases write.marks <;> rfl

theorem mem_samples_applyAll {database : Database} {writes : List Write}
    {sample : ShadowTrainingSample} : sample ∈ (database.applyAll writes).samples ↔
      sample ∈ database.samples ∨ .addSample sample ∈ writes := by
  induction writes generalizing database with
  | nil => simp [Database.applyAll]
  | cons write rest ih =>
    rw [show database.applyAll (write :: rest) = (database.apply write).applyAll rest from rfl, ih]
    cases write with
    | addSample other => simp [Database.apply, or_assoc]
    | _ => simp [Database.apply]

/-- The signal of an observation is the one it had, or one which was assigned. -/
theorem signalId_applyAll {database : Database} {writes : List Write} {row : ShadowObservation}
    (member : row ∈ (database.applyAll writes).observations) :
    (∃ earlier ∈ database.observations, earlier.signalId = row.signalId) ∨
      row.signalId ∈ writes.filterMap Write.assigns := by
  induction writes using List.reverseRecOn generalizing row with
  | nil => exact .inl ⟨row, member, rfl⟩
  | append_singleton writes write ih =>
    rw [Database.applyAll_append] at member
    rw [List.filterMap_append, List.mem_append]
    have last : row ∈ ((database.applyAll writes).apply write).observations := member
    cases write with
    | addObservation observation =>
      rcases List.mem_append.mp last with earlier | new
      · exact (ih earlier).imp_right .inl
      · rw [List.mem_singleton.mp new]
        exact .inr (.inr List.mem_cons_self)
    | assign id assignment =>
      obtain ⟨earlier, isEarlier, rfl⟩ := mem_apply_assign last
      by_cases same : earlier.id = id
      · rw [← same, onRow_self]
        cases assignment with
        | mark columns => exact .inr (.inr List.mem_cons_self)
        | close columns => exact (ih isEarlier).imp_right .inl
      · rw [onRow_other earlier same]
        exact (ih isEarlier).imp_right .inl
    | _ => exact (ih last).imp_right .inl

/-- Writes which send a sample with each signal that they assign keep the observations sampled. -/
theorem Database.Sampled.applyAll {database : Database} (sampled : database.Sampled)
    {writes : List Write}
    (sends : ∀ id ∈ writes.filterMap Write.assigns, id ∈ writes.filterMap Write.samples) :
    (database.applyAll writes).Sampled := by
  intro observation member
  rcases signalId_applyAll member with ⟨earlier, isEarlier, same⟩ | assigned
  · obtain ⟨sample, isSample, signal⟩ := sampled earlier isEarlier
    exact ⟨sample, mem_samples_applyAll.mpr (.inl isSample), signal.trans same⟩
  · obtain ⟨write, sent, samples⟩ := List.mem_filterMap.mp (sends _ assigned)
    cases write with
    | addSample sample =>
      exact ⟨sample, mem_samples_applyAll.mpr (.inr sent), Option.some.inj samples⟩
    | _ => cases samples

end Writes

section Discipline

/-- The marks and the signals which are left are new ones of the cycle, in their order,
and with each assigned signal a sample is sent. -/
structure Paired (ids rest : List String) (writes : List Write) : Prop where
  marks : (writes.filterMap Write.marks ++ rest).Sublist ids
  sampled : ∀ id ∈ writes.filterMap Write.assigns, id ∈ writes.filterMap Write.samples

/-- The same, while the sample of one signal is still to be sent. -/
structure Owing (ids : List String) (signalId : String) (rest : List String) (writes : List Write) :
    Prop where
  marks : (writes.filterMap Write.marks ++ signalId :: rest).Sublist ids
  sampled : ∀ id ∈ writes.filterMap Write.assigns,
    id = signalId ∨ id ∈ writes.filterMap Write.samples

variable {ids rest : List String} {signalId : String} {writes : List Write}

theorem Paired.start (ids : List String) : Paired ids ids [] where
  marks := List.Sublist.refl ids
  sampled _ assigned := absurd assigned List.not_mem_nil

theorem Paired.fewer (paired : Paired ids (signalId :: rest) writes) : Paired ids rest writes :=
  ⟨((List.sublist_cons_self signalId rest).append_left _).trans paired.marks, paired.sampled⟩

/-- A write which marks and assigns no signal. -/
theorem Paired.quiet (paired : Paired ids rest writes) {write : Write}
    (unmarked : write.marks = none)
    (unassigned : write.assigns = none) : Paired ids rest (writes ++ [write]) := by
  have marks : (writes ++ [write]).filterMap Write.marks = writes.filterMap Write.marks := by
    simp [unmarked]
  have assigns : (writes ++ [write]).filterMap Write.assigns = writes.filterMap Write.assigns := by
    simp [unassigned]
  refine ⟨marks ▸ paired.marks, fun id assigned => ?_⟩
  rw [assigns] at assigned
  rw [List.filterMap_append]
  exact List.mem_append_left _ (paired.sampled id assigned)

/-- A write which assigns the next signal. -/
theorem Paired.assigned (paired : Paired ids (signalId :: rest) writes) {write : Write}
    (unmarked : write.marks = none) (assigns : write.assigns = some signalId) :
    Owing ids signalId rest (writes ++ [write]) := by
  have marks : (writes ++ [write]).filterMap Write.marks = writes.filterMap Write.marks := by
    simp [unmarked]
  refine ⟨marks ▸ paired.marks, fun id assigned => ?_⟩
  rw [List.filterMap_append, List.mem_append] at assigned ⊢
  rcases assigned with earlier | last
  · exact .inr (.inl (paired.sampled id earlier))
  · left
    simpa [assigns] using last

/-- The mark with the signal which was assigned. -/
theorem Owing.marked {sample : ShadowTrainingSample}
    (owing : Owing ids sample.signalId rest writes) (isMark : sample.sampleKind = .intradayMark) :
    Paired ids rest (writes ++ [.addSample sample]) := by
  have marks : (writes ++ [Write.addSample sample]).filterMap Write.marks =
      writes.filterMap Write.marks ++ [sample.signalId] := by
    simp [Write.marks, isMark]
  have assigns : (writes ++ [Write.addSample sample]).filterMap Write.assigns =
      writes.filterMap Write.assigns := by
    simp [Write.assigns]
  refine ⟨?_, fun id assigned => ?_⟩
  · rw [marks, List.append_assoc]
    exact owing.marks
  · rw [assigns] at assigned
    rw [List.filterMap_append, List.mem_append]
    rcases owing.sampled id assigned with rfl | sampled
    · exact .inr (by simp [Write.samples])
    · exact .inl sampled

end Discipline

section Contract

/-- A session commits once, and what it then has sent is paired. Its state is what it has
sent in its transaction, and nothing after the commit. -/
def signalContract (ids : List String) (session : ℕ) : Contract Reply (Option (List Write)) where
  asks sent op :=
    match op with
    | .flush own _ => own = session ∧ sent.isSome = true
    | .commit own => own = session ∧ ∃ writes, sent = some writes ∧ Paired ids [] writes
    | .rollback own => own = session
    | _ => True
  answers sent op reply after :=
    match op, reply with
    | .flush _ writes, .ok () => after = sent.map (· ++ writes)
    | .flush _ _, .error _ => after = some []
    | .commit _, _ => after = none
    | .rollback _, _ => after = sent.map fun _ => []
    | _, _ => after = sent

/-- What a session has sent and what it has pending satisfy an assertion together. -/
def Holding (assertion : List Write → Prop) (pending : List Write) (sent : Option (List Write)) :
    Prop :=
  ∃ writes, sent = some writes ∧ assertion (writes ++ pending)

variable {ids rest : List String} {session : ℕ} {assertion other : List Write → Prop}
  {pending : List Write} {sent : Option (List Write)}

theorem Holding.mono (weaker : ∀ writes, assertion writes → other writes)
    (holding : Holding assertion pending sent) : Holding other pending sent := by
  obtain ⟨writes, found, holds⟩ := holding
  exact ⟨writes, found, weaker _ holds⟩

theorem Holding.write {entry : Write}
    (grows : ∀ writes, assertion writes → other (writes ++ [entry]))
    (holding : Holding assertion pending sent) : Holding other (pending ++ [entry]) sent := by
  obtain ⟨writes, found, holds⟩ := holding
  refine ⟨writes, found, ?_⟩
  rw [← List.append_assoc]
  exact grows _ holds

/-- What was pending has been sent. -/
theorem Holding.flush (holding : Holding assertion pending sent) :
    Holding assertion [] (sent.map (· ++ pending)) := by
  obtain ⟨writes, rfl, holds⟩ := holding
  exact ⟨writes ++ pending, rfl, by rwa [List.append_nil]⟩

theorem Holding.isSome (holding : Holding assertion pending sent) : sent.isSome = true := by
  obtain ⟨writes, rfl, -⟩ := holding
  rfl

/-- A cycle spends its signals under the contract. -/
def signalDiscipline (ids : List String) (session : ℕ) :
    Discipline (signalContract ids session) session where
  kept rest := Holding (Paired ids rest)
  owing signalId rest := Holding (Owing ids signalId rest)
  flushed rest pending sent := pending = [] ∧ Holding (Paired ids rest) pending sent
  looked _ _ _ rest := Holding (Paired ids rest)
  fewer holding := holding.mono fun _ => Paired.fewer
  kept_of_flushed flushed := flushed.2
  kept_of_looked looked := looked
  asks_query {_ op} isQuery := by
    cases op with
    | flush | commit | rollback => cases isQuery
    | _ => trivial
  answers_query {_ op _ _} isQuery answered := by
    cases op with
    | flush | commit | rollback => cases isQuery
    | _ => exact answered
  asks_flush holding := ⟨rfl, holding.isSome⟩
  answers_flush holding answered := ⟨rfl, answered ▸ holding.flush⟩
  asks_flush_owing holding := ⟨rfl, holding.isSome⟩
  answers_flush_owing holding answered := answered ▸ holding.flush
  asks_lookup _ := trivial
  answers_lookup flushed answered := answered ▸ flushed.2
  quiet unmarked unassigned holding :=
    holding.write fun _ paired => paired.quiet unmarked unassigned
  opens holding := holding.write fun _ paired => paired.assigned rfl rfl
  marks holding := holding.write fun _ paired => paired.assigned rfl rfl
  samples isMark holding := holding.write fun _ owing => owing.marked isMark
  asks_commit := by
    rintro _ sent ⟨rfl, writes, found, paired⟩
    rw [List.append_nil] at paired
    exact ⟨rfl, writes, found, paired⟩
  asks_rollback := rfl

end Contract

section Cycles

variable {ids : ℕ → List String} {store : Store} {sent : ℕ → Option (List Write)} {session : ℕ}

/-- No two committed marks have one signal, each observation has a sample of its signal,
and a session which is still to commit has spent none of its ids. -/
structure SignalsOnce (ids : ℕ → List String) (store : Store) (sent : ℕ → Option (List Write)) :
    Prop where
  flushed : ∀ session writes, sent session = some writes → store.flushed session = writes
  once : store.committed.markIds.Nodup
  unspent : ∀ session, (sent session).isSome = true →
    ∀ id ∈ ids session, id ∉ store.committed.markIds
  sampled : store.committed.Sampled

theorem SignalsOnce.start (ids : ℕ → List String) : SignalsOnce ids {} fun _ => some [] where
  flushed _ _ none := Option.some.inj none
  once := List.nodup_nil
  unspent _ _ _ _ := List.not_mem_nil
  sampled _ member := absurd member List.not_mem_nil

theorem SignalsOnce.flush (holds : SignalsOnce ids store sent) {before : List Write}
    (known : sent session = some before) (writes : List Write) :
    SignalsOnce ids (store.afterFlush session writes)
      (Function.update sent session (some (before ++ writes))) where
  flushed := by
    intro other found is
    by_cases same : other = session
    · subst same
      rw [Function.update_self, Option.some.injEq] at is
      rw [← is, ← holds.flushed other before known]
      exact Function.update_self other _ _
    · rw [Function.update_of_ne same] at is
      rw [← holds.flushed other found is]
      exact Function.update_of_ne same _ _
  once := holds.once
  unspent := by
    intro other commits
    by_cases same : other = session
    · exact holds.unspent other (by rw [same, known]; rfl)
    · rw [Function.update_of_ne same] at commits
      exact holds.unspent other commits
  sampled := holds.sampled

/-- The end of a transaction without a commit. -/
theorem SignalsOnce.discard (holds : SignalsOnce ids store sent) {after : Option (List Write)}
    (ended : ∀ writes, after = some writes → writes = [] ∧ (sent session).isSome = true) :
    SignalsOnce ids (store.discard session) (Function.update sent session after) where
  flushed := by
    intro other writes found
    by_cases same : other = session
    · subst same
      rw [Function.update_self] at found
      rw [(ended writes found).1]
      exact Function.update_self other _ _
    · rw [Function.update_of_ne same] at found
      rw [← holds.flushed other writes found]
      exact Function.update_of_ne same _ _
  once := holds.once
  unspent := by
    intro other commits
    by_cases same : other = session
    · subst same
      rw [Function.update_self] at commits
      obtain ⟨writes, found⟩ := Option.isSome_iff_exists.mp commits
      exact holds.unspent other (ended writes found).2
    · rw [Function.update_of_ne same] at commits
      exact holds.unspent other commits
  sampled := holds.sampled

/-- A commit of what is paired, where the ids of the sessions are distinct. -/
theorem SignalsOnce.commit (holds : SignalsOnce ids store sent) {writes : List Write}
    (known : sent session = some writes) (paired : Paired (ids session) [] writes)
    (distinct : (ids session).Nodup)
    (apart : ∀ other, other ≠ session → ∀ id ∈ ids other, id ∉ ids session) :
    SignalsOnce ids (store.afterCommit session) (Function.update sent session none) := by
  have committed : (store.afterCommit session).committed = store.committed.applyAll writes := by
    rw [← holds.flushed session writes known]
    rfl
  have marks : (writes.filterMap Write.marks).Sublist (ids session) := by
    have all := paired.marks
    rwa [List.append_nil] at all
  refine ⟨?_, ?_, ?_, committed ▸ holds.sampled.applyAll paired.sampled⟩
  · intro other writes found
    by_cases same : other = session
    · rw [same, Function.update_self] at found
      cases found
    · rw [Function.update_of_ne same] at found
      rw [← holds.flushed other writes found]
      exact Function.update_of_ne same _ _
  · rw [committed, markIds_applyAll]
    refine holds.once.append (distinct.sublist marks) ?_
    intro id before marked
    exact holds.unspent session (by rw [known]; rfl) id (marks.subset marked) before
  · intro other commits id isId
    by_cases same : other = session
    · rw [same, Function.update_self] at commits
      cases commits
    · rw [Function.update_of_ne same] at commits
      rw [committed, markIds_applyAll, List.mem_append, not_or]
      exact ⟨holds.unspent other commits id isId, fun marked =>
        apart other same id isId (marks.subset marked)⟩

/-- Every operation which the contracts of the sessions allow keeps the signals once. -/
theorem signalsOnce_preserves (distinct : ∀ session, (ids session).Nodup)
    (apart : ∀ session other, other ≠ session → ∀ id ∈ ids other, id ∉ ids session) :
    Watched.Preserves performer (fun (_ : Unit) _ _ _ => ())
      (fun session => signalContract (ids session) session)
      (fun store _ sent => SignalsOnce ids store sent) fun _ _ _ => True := by
  intro session environment op store _ sent holds asks _
  cases op with
  | hasStrategy own | hasInstrument own | observations own | samples own =>
    refine ⟨sent session, rfl, ?_⟩
    rw [Function.update_eq_self]
    exact holds
  | flush own writes =>
    obtain ⟨rfl, commits⟩ := asks
    obtain ⟨before, known⟩ := Option.isSome_iff_exists.mp commits
    rcases performer_flush environment store own writes with ⟨_, flushed⟩ | ⟨failed, refused⟩
    · rw [flushed]
      refine ⟨some (before ++ writes), ?_, holds.flush known writes⟩
      rw [known]
      rfl
    · rw [refused]
      refine ⟨some [], rfl, holds.discard fun writes cleared => ⟨?_, commits⟩⟩
      exact (Option.some.inj cleared).symm
  | commit own =>
    obtain ⟨rfl, writes, known, paired⟩ := asks
    refine ⟨none, rfl, ?_⟩
    rcases performer_commit environment store own with ⟨_, committed⟩ | ⟨failed, refused⟩
    · rw [committed]
      exact holds.commit known paired (distinct own) (apart own)
    · rw [refused]
      exact holds.discard fun writes cleared => nomatch cleared
  | rollback own =>
    obtain rfl : own = session := asks
    refine ⟨_, rfl, holds.discard fun writes cleared => ?_⟩
    obtain ⟨before, known, rfl⟩ := Option.map_eq_some_iff.mp cleared
    exact ⟨rfl, by rw [known]; rfl⟩

/-- No two signals of the cycles have one id. -/
def FreshSignals (cycles : List Cycle) : Prop := (cycles.flatMap Cycle.signalIds).Nodup

instance : DecidablePred FreshSignals := fun _ => inferInstanceAs (Decidable (List.Nodup _))

/-- What is committed after cycles, from empty tables, performed operations in some order. -/
def committedAfter (cycles : List Cycle) (schedule : List (ℕ × Environment)) : Database :=
  ((Pool.start (cycles.mapIdx cycleProgram) {}).run performer schedule).shared.committed

/-- The signals of the cycle of a session. -/
def idsOf (cycles : List Cycle) (session : ℕ) : List String :=
  (cycles[session]?.map Cycle.signalIds).getD []

theorem mem_idsOf {cycles : List Cycle} {id : String} : id ∈ idsOf cycles session ↔
    ∃ cycle, cycles[session]? = some cycle ∧ id ∈ cycle.signalIds := by
  rw [idsOf]
  cases cycles[session]? <;> simp

theorem FreshSignals.distinct {cycles : List Cycle} (fresh : FreshSignals cycles) :
    (idsOf cycles session).Nodup := by
  rw [idsOf]
  cases located : cycles[session]? with
  | none => exact List.nodup_nil
  | some cycle => exact (List.nodup_flatMap.mp fresh).1 cycle (List.mem_of_getElem? located)

theorem FreshSignals.apart {cycles : List Cycle} (fresh : FreshSignals cycles) {other : ℕ}
    (differ : other ≠ session) {id : String} (isId : id ∈ idsOf cycles other) :
    id ∉ idsOf cycles session := by
  intro alsoId
  obtain ⟨first, firstAt, isFirst⟩ := mem_idsOf.mp isId
  obtain ⟨second, secondAt, isSecond⟩ := mem_idsOf.mp alsoId
  have disjoint := List.pairwise_iff_getElem.mp (List.nodup_flatMap.mp fresh).2
  obtain ⟨firstIn, rfl⟩ := List.getElem?_eq_some_iff.mp firstAt
  obtain ⟨secondIn, rfl⟩ := List.getElem?_eq_some_iff.mp secondAt
  rcases Nat.lt_or_gt_of_ne differ with before | behind
  · exact disjoint other session firstIn secondIn before isFirst isSecond
  · exact disjoint session other secondIn firstIn behind isSecond isFirst

/-- However cycles are interleaved and whatever fails, no two committed marks have one
signal, and each committed observation has a sample of its signal. -/
theorem signalsOnce_run {cycles : List Cycle} (fresh : FreshSignals cycles)
    (schedule : List (ℕ × Environment)) :
    (committedAfter cycles schedule).markIds.Nodup ∧ (committedAfter cycles schedule).Sampled := by
  have starts : Watched.Holds (fun session => signalContract (idsOf cycles session) session)
      (fun store (_ : Unit) sent => SignalsOnce (idsOf cycles) store sent)
      ⟨Pool.start (cycles.mapIdx cycleProgram) {}, ()⟩ fun _ => some [] := by
    refine ⟨?_, SignalsOnce.start _⟩
    intro session program located
    rw [Pool.start, List.getElem?_mapIdx, Option.map_eq_some_iff] at located
    obtain ⟨cycle, cycleAt, rfl⟩ := located
    have own : idsOf cycles session = cycle.signalIds := by
      rw [idsOf, cycleAt]
      rfl
    rw [own]
    exact ((signalDiscipline cycle.signalIds session).runCycle_keeps cycle [] (some [])
      ⟨[], rfl, Paired.start _⟩).mono fun _ _ _ => trivial
  obtain ⟨_, _, _, holds⟩ := starts.run (signalsOnce_preserves (fun _ => fresh.distinct)
    fun _ _ differ _ => fresh.apart differ) schedule
  exact ⟨holds.once, holds.sampled⟩

end Cycles
end AlphaAgent.Shadow
