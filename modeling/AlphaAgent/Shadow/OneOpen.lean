import AlphaAgent.Foundation.Watch
import AlphaAgent.Shadow.OpenRows

/-!
# One open observation

Sessions insert an observation only after a lookup which found nothing, but
nothing keeps another session from committing one between this lookup and the
commit: there is no key over the open rows, and the endpoint does not take the
lock of the training loop. `Unchallenged` is the condition under which that does
not happen; under it every operation keeps `OneOpen`.
-/

namespace AlphaAgent.Shadow

open Foundation

section Watching

variable (key : ObservationKey)

/-- A lookup of the key found nothing. -/
def foundNothing : (op : Operation) → Reply op → Bool
  | .observations _ filter, .ok rows => filter = key.lookup && rows.isEmpty
  | _, _ => false

/-- Which sessions have seen the commits of others that opened an observation for
the key: a lookup which finds nothing saw all of them, and each one leaves the
others behind. -/
def abreastAfter (abreast : ℕ → Bool) (store : Store) : (op : Operation) → Reply op → ℕ → Bool
  | .observations session filter, reply =>
    if foundNothing key (.observations session filter) reply then
      Function.update abreast session true
    else abreast
  | .commit session, .ok () =>
    if 0 < ownCount key (store.flushed session) then fun other => other = session && abreast other
    else abreast
  | _, _ => abreast

/-- A session which commits an observation that it opened for the key commits it
after no other session did so since its last lookup that found nothing. -/
def Unchallenged (store : Store) (abreast : ℕ → Bool) : Operation → Prop
  | .commit session => 0 < ownCount key (store.flushed session) → abreast session = true
  | _ => True

instance (store : Store) (abreast : ℕ → Bool) : DecidablePred (Unchallenged key store abreast)
  | .commit session =>
    inferInstanceAs (Decidable (0 < ownCount key (store.flushed session) → abreast session = true))
  | .hasStrategy _ | .hasInstrument _ _ _ | .observations _ _ | .samples _ _ | .flush _ _
  | .rollback _ => isTrue trivial

/-- A session inserts for the key at most one observation at a time, and only
while its last lookup found nothing. -/
def insertContract (session : ℕ) : Contract Reply Bool where
  asks missed op :=
    match op with
    | .flush own writes => own = session ∧
        (insertions key writes = 0 ∨ missed = true ∧ insertions key writes = 1)
    | .observations own filter => filter = key.lookup → own = session
    | .commit own | .rollback own => own = session
    | _ => True
  answers missed op reply after :=
    match op with
    | .flush _ _ | .commit _ | .rollback _ => after = false
    | op => after = (missed || foundNothing key op reply)

/-- At most one open row for the key is committed, and a session which has seen
every other one sees at most one, and none right after it found nothing. -/
structure OneOpen (store : Store) (abreast missed : ℕ → Bool) : Prop where
  committed : store.committed.openCount key ≤ 1
  seen : ∀ session, abreast session = true → (store.view session).openCount key ≤ 1
  absent : ∀ session, abreast session = true → missed session = true →
    (store.view session).openCount key = 0

end Watching

section Steps

variable {key : ObservationKey} {store : Store} {abreast missed : ℕ → Bool} {session : ℕ}

theorem missed_elsewhere {other : ℕ} (nothing : Function.update missed session false other = true) :
    other ≠ session ∧ missed other = true := by
  by_cases same : other = session
  · rw [same, Function.update_self] at nothing
    cases nothing
  · rw [Function.update_of_ne same] at nothing
    exact ⟨same, nothing⟩

/-- A step of a session after which its lookup no longer counts: it and the committed
tables have at most one open row, and the others see no more than before. -/
theorem OneOpen.of_views (holds : OneOpen key store abreast missed) (next : Store)
    (committed : next.committed.openCount key ≤ 1)
    (own : abreast session = true → (next.view session).openCount key ≤ 1)
    (others : ∀ other, other ≠ session →
      (next.view other).openCount key ≤ (store.view other).openCount key) :
    OneOpen key next abreast (Function.update missed session false) where
  committed := committed
  seen := by
    intro other current
    by_cases same : other = session
    · subst same
      exact own current
    · exact (others other same).trans (holds.seen other current)
  absent := by
    intro other current nothing
    obtain ⟨apart, before⟩ := missed_elsewhere nothing
    exact Nat.eq_zero_of_le_zero ((others other apart).trans_eq (holds.absent other current before))

/-- The end of a transaction without a commit. -/
theorem OneOpen.discard (holds : OneOpen key store abreast missed) :
    OneOpen key (store.discard session) abreast (Function.update missed session false) := by
  apply holds.of_views (store.discard session) holds.committed
  · intro _
    rw [store.view_discard]
    exact holds.committed
  · intro other apart
    rw [store.view_discard_of_ne apart]

/-- A flush of what the contract allows. -/
theorem OneOpen.flush (holds : OneOpen key store abreast missed) {writes : List Write}
    (fits : insertions key writes = 0 ∨ missed session = true ∧ insertions key writes = 1) :
    OneOpen key (store.afterFlush session writes) abreast
      (Function.update missed session false) := by
  apply holds.of_views (store.afterFlush session writes) holds.committed
  · intro current
    rw [store.view_afterFlush]
    have grows := openCount_applyAll_le key (store.view session) writes
    have own := ownCount_le_insertions key writes
    rcases fits with none | ⟨nothing, one⟩
    · have before := holds.seen session current
      omega
    · have before := holds.absent session current nothing
      omega
  · intro other apart
    rw [store.view_afterFlush_of_ne apart]

/-- A commit of no open observation for the key. -/
theorem OneOpen.commit_none (holds : OneOpen key store abreast missed)
    (none : ownCount key (store.flushed session) = 0) :
    OneOpen key (store.afterCommit session) abreast (Function.update missed session false) := by
  have committed : (store.view session).openCount key ≤ 1 := by
    have grows := openCount_applyAll_le key store.committed (store.flushed session)
    have before := holds.committed
    exact grows.trans (by omega)
  apply holds.of_views (store.afterCommit session) committed
  · intro _
    rw [store.view_afterCommit]
    exact committed
  · intro other apart
    rw [store.view_afterCommit_of_ne apart]
    exact openCount_below_le key store.committed none (store.flushed other)

/-- A commit of an open observation for the key leaves the other sessions behind. -/
theorem OneOpen.commit_some (holds : OneOpen key store abreast missed)
    (current : abreast session = true) :
    OneOpen key (store.afterCommit session) (fun other => other = session && abreast other)
      (Function.update missed session false) where
  committed := holds.seen session current
  seen := by
    intro other only
    rw [Bool.and_eq_true, decide_eq_true_eq] at only
    rw [only.1, store.view_afterCommit]
    exact holds.seen session current
  absent := by
    intro other only nothing
    rw [Bool.and_eq_true, decide_eq_true_eq] at only
    exact absurd only.1 (missed_elsewhere nothing).1

/-- A lookup which finds nothing. -/
theorem OneOpen.lookup (holds : OneOpen key store abreast missed)
    (nothing : (store.view session).openCount key = 0) :
    OneOpen key store (Function.update abreast session true)
      (Function.update missed session true) where
  committed := holds.committed
  seen := by
    intro other current
    by_cases same : other = session
    · rw [same, nothing]
      exact Nat.zero_le 1
    · rw [Function.update_of_ne same] at current
      exact holds.seen other current
  absent := by
    intro other current absent
    by_cases same : other = session
    · rw [same]
      exact nothing
    · rw [Function.update_of_ne same] at current absent
      exact holds.absent other current absent

/-- What a lookup which finds nothing says about the tables. -/
theorem openCount_of_foundNothing {environment : Environment} {filter : ObservationFilter}
    (found : foundNothing key (.observations session filter)
      (performer environment (.observations session filter) store).1 = true) :
    filter = key.lookup ∧ (store.view session).openCount key = 0 := by
  have replied : (performer environment (.observations session filter) store).1 =
      answer (environment.refuses (.observations session filter) store)
        ((store.view session).observations.filter filter.selects) := rfl
  rw [replied] at found
  by_cases refused : environment.refuses (.observations session filter) store = true
  · rw [answer, if_pos refused] at found
    cases found
  · rw [answer, if_neg refused] at found
    have both : (filter = key.lookup && ((store.view session).observations.filter
        filter.selects).isEmpty) = true := found
    rw [Bool.and_eq_true, decide_eq_true_eq, List.isEmpty_iff] at both
    refine ⟨both.1, ?_⟩
    rw [Database.openCount, List.countP_eq_length_filter, ← both.1, both.2, List.length_nil]

/-- Every operation which the contract allows and nothing challenges keeps one open row. -/
theorem oneOpen_preserves (key : ObservationKey) :
    Watched.Preserves performer (abreastAfter key) (insertContract key) (OneOpen key)
      (Unchallenged key) := by
  intro session environment op store abreast missed holds asks unchallenged
  cases op with
  | hasStrategy own | hasInstrument own | samples own =>
    refine ⟨missed session, (Bool.or_false _).symm, ?_⟩
    rw [Function.update_eq_self]
    exact holds
  | observations own filter =>
    refine ⟨_, rfl, ?_⟩
    rw [abreastAfter]
    by_cases found : foundNothing key (.observations own filter)
        (performer environment (.observations own filter) store).1 = true
    · obtain ⟨looked, nothing⟩ := openCount_of_foundNothing found
      obtain rfl : own = session := asks looked
      rw [if_pos found, found, Bool.or_true]
      exact holds.lookup nothing
    · rw [if_neg found, Bool.eq_false_iff.mpr found, Bool.or_false, Function.update_eq_self]
      exact holds
  | flush own writes =>
    obtain ⟨rfl, fits⟩ := asks
    refine ⟨false, rfl, ?_⟩
    rcases performer_flush environment store own writes with ⟨_, flushed⟩ | ⟨failed, refused⟩
    · rw [flushed]
      exact holds.flush fits
    · rw [refused]
      exact holds.discard
  | commit own =>
    obtain rfl : own = session := asks
    refine ⟨false, rfl, ?_⟩
    rcases performer_commit environment store own with ⟨_, committed⟩ | ⟨failed, refused⟩
    · rw [committed]
      dsimp only [abreastAfter]
      by_cases opens : 0 < ownCount key (store.flushed own)
      · rw [if_pos opens]
        exact holds.commit_some (unchallenged opens)
      · rw [if_neg opens]
        exact holds.commit_none (Nat.eq_zero_of_not_pos opens)
    · rw [refused]
      exact holds.discard
  | rollback own =>
    obtain rfl : own = session := asks
    exact ⟨false, rfl, holds.discard⟩

end Steps

end AlphaAgent.Shadow
