import AlphaAgent.Foundation.Transcript
import AlphaAgent.Foundation.Watch
import Mathlib.Data.Int.Notation

/-!
# Values which are served for a while

Calls share one kept value and its stamp. A call reads the clock and serves what is kept
when its stamp is young enough. Otherwise it computes a value, keeps it, stamps it with
its own reading, and serves what is kept by then. Calls interleave, so the value and the
stamp which one call reads may come from two others. Even so no call serves a value which
was kept longer before its reading than the limit allows: whoever set a stamp had kept a
value after the reading on it, and what is kept is only ever replaced by something newer.
-/

namespace AlphaAgent.Foundation

section Operations

/-- An operation of a computation which can also read the clock. -/
inductive TimedOp (Op : Type) where
  | clock
  | other (op : Op)

def TimedReply {Op : Type} (Reply : Op → Type) : TimedOp Op → Type
  | .clock => ℤ
  | .other op => Reply op

/-- The operations of calls which share a kept value; an answer ends a call. -/
inductive KeptOp (Op V : Type) where
  | start (call : ℕ)
  | refresh (call : ℕ) (op : TimedOp Op)
  | readValue (call : ℕ)
  | readStamp (call : ℕ)
  | keep (call : ℕ) (value : V)
  | stamp (call : ℕ) (reading : ℤ)
  | answer (call : ℕ) (value : Option V)

def KeptReply {Op : Type} (Reply : Op → Type) (V : Type) : KeptOp Op V → Type
  | .start _ => ℤ
  | .refresh _ op => TimedReply Reply op
  | .readValue _ => Option V
  | .readStamp _ => Option ℤ
  | .keep _ _ | .stamp _ _ | .answer _ _ => Unit

variable {Op : Type} {Reply : Op → Type} {V α : Type}

/-- The operations of a computation, as those of a call. -/
def Program.during (call : ℕ) : Program (TimedReply Reply) α → Program (KeptReply Reply V) α
  | .done result => .done result
  | .request op next =>
    .request (KeptOp.refresh call op : KeptOp Op V) fun reply => (next reply).during call

/-- Whether a value is kept whose stamp is young enough. -/
def keptIsYoung (limit : ℕ) (call : ℕ) (reading : ℤ) : Program (KeptReply Reply V) Bool := do
  let value : Option V ← Program.perform (KeptOp.readValue call)
  match value with
  | none => return false
  | some _ =>
    let first : Option ℤ ← Program.perform (KeptOp.readStamp call)
    match first with
    | none => return false
    | some _ =>
      -- the stamp is read again for its age; nothing takes a stamp back
      let second : Option ℤ ← Program.perform (KeptOp.readStamp call)
      match second with
      | none => return false
      | some stamp => return decide (reading - stamp ≤ limit)

/-- Compute a value, keep it, and stamp it with the reading of the call. -/
def renewKept (refresh : Program (TimedReply Reply) V) (call : ℕ) (reading : ℤ) :
    Program (KeptReply Reply V) Unit := do
  let value ← refresh.during call
  let _ : Unit ← Program.perform (KeptOp.keep call value)
  Program.perform (KeptOp.stamp call reading)

/-- Serve what is kept, renewed first when it is not young or this is forced. -/
def serveKept (limit : ℕ) (refresh : Program (TimedReply Reply) V) (forced : Bool) (call : ℕ) :
    Program (KeptReply Reply V) (Option V) := do
  let reading : ℤ ← Program.perform (KeptOp.start call)
  let young ← (if forced then pure false else keptIsYoung limit call reading)
  (if young then pure () else renewKept refresh call reading)
  let kept : Option V ← Program.perform (KeptOp.readValue call)
  let _ : Unit ← Program.perform (KeptOp.answer call kept)
  return kept

end Operations

section Surroundings

variable {Op : Type} {Reply : Op → Type} {V : Type}

/-- What the calls share, and the clock. -/
structure Shelf (V : Type) where
  value : Option V := none
  stamp : Option ℤ := none
  clock : ℤ

/-- How the world answers one operation, and how long it takes after it. -/
structure Surroundings (Reply : Op → Type) where
  reply : (op : Op) → Reply op
  elapsed : ℕ

/-- Time passes. -/
def Shelf.later (shelf : Shelf V) (elapsed : ℕ) : Shelf V :=
  { shelf with clock := shelf.clock + elapsed }

def shelfPerformer (surroundings : Surroundings Reply) : Performer (KeptReply Reply V) (Shelf V)
  | .start _, shelf => (shelf.clock, shelf.later surroundings.elapsed)
  | .refresh _ .clock, shelf => (shelf.clock, shelf.later surroundings.elapsed)
  | .refresh _ (.other op), shelf => (surroundings.reply op, shelf.later surroundings.elapsed)
  | .readValue _, shelf => (shelf.value, shelf.later surroundings.elapsed)
  | .readStamp _, shelf => (shelf.stamp, shelf.later surroundings.elapsed)
  | .keep _ value, shelf => ((), { shelf with value := some value }.later surroundings.elapsed)
  | .stamp _ reading, shelf => ((), { shelf with stamp := some reading }.later surroundings.elapsed)
  | .answer _ _, shelf => ((), shelf.later surroundings.elapsed)

/-- A value which was kept: when its call had started and what its computation had been
answered, and when it was kept. -/
structure Stored (Reply : Op → Type) (V : Type) where
  started : ℤ
  seen : List (Event (TimedReply Reply))
  value : V
  storedAt : ℤ

/-- What a call served, and when it had started. -/
structure Answered (V : Type) where
  call : ℕ
  started : ℤ
  value : Option V

/-- A monitor of the calls: the starts and the transcripts of their computations, what they
kept, and what they served. -/
structure KeptLog (Reply : Op → Type) (V : Type) where
  started : ℕ → ℤ := fun _ => 0
  seen : ℕ → List (Event (TimedReply Reply)) := fun _ => []
  stores : List (Stored Reply V) := []
  answers : List (Answered V) := []

def KeptLog.observe (log : KeptLog Reply V) (shelf : Shelf V) :
    (op : KeptOp Op V) → KeptReply Reply V op → KeptLog Reply V
  | .start call, reading =>
    { log with
      started := Function.update log.started call reading
      seen := Function.update log.seen call [] }
  | .refresh call op, reply =>
    { log with seen := Function.update log.seen call (log.seen call ++ [⟨op, reply⟩]) }
  | .keep call value, _ =>
    { log with stores := log.stores ++ [⟨log.started call, log.seen call, value, shelf.clock⟩] }
  | .answer call value, _ =>
    { log with answers := log.answers ++ [⟨call, log.started call, value⟩] }
  | .readValue _, _ | .readStamp _, _ | .stamp _ _, _ => log

end Surroundings

section Contract

variable {Op : Type} {Reply : Op → Type} {V : Type}

/-- What a call knows: its reading of the clock, the transcript of its computation, since
when at least something is kept, and what it read with what it knew of its age by then. -/
structure Progress (Reply : Op → Type) (V : Type) where
  reading : Option ℤ := none
  seen : List (Event (TimedReply Reply)) := []
  since : Option ℤ := none
  fetched : Option (V × ℤ) := none

/-- What was kept since an instant is young enough for a call. -/
def YoungFor (limit : ℕ) (forced : Bool) (reading since : ℤ) : Prop :=
  reading - limit ≤ since ∧ (forced = true → reading ≤ since)

/-- A call asks its own operations: it keeps what was computed, stamps it when it was
kept, and answers what it read of a young enough age. -/
def keptContract (limit : ℕ) (checked : V → List (Event (TimedReply Reply)) → Prop)
    (forced : ℕ → Bool) (call : ℕ) : Contract (KeptReply Reply V) (Progress Reply V) where
  asks progress
    | .start own | .readValue own | .readStamp own => own = call
    | .refresh own _ => own = call ∧ progress.reading ≠ none
    | .keep own value => own = call ∧ progress.reading ≠ none ∧ checked value progress.seen
    | .stamp own reading => own = call ∧ progress.reading = some reading ∧
        ∃ since ∈ progress.since, reading ≤ since
    | .answer own value => own = call ∧ ∃ reading ∈ progress.reading,
        ∃ fetched ∈ progress.fetched, value = some fetched.1 ∧
          YoungFor limit (forced call) reading fetched.2
  answers progress
    | .start _, reading, after => after = { reading := some reading }
    | .refresh _ op, reply, after =>
        after = { progress with seen := progress.seen ++ [⟨op, reply⟩] }
    | .readValue _, value, after =>
        (progress.since = none ∧ after = progress) ∨
          ∃ since ∈ progress.since, ∃ kept, value = some kept ∧
            after = { progress with fetched := some (kept, since) }
    | .readStamp _, stamp, after => after = { progress with since := stamp.or progress.since }
    | .keep _ _, _, after => ∃ since, after = { progress with since := some since } ∧
        ∀ reading ∈ progress.reading, reading ≤ since
    | .stamp _ _, _, after | .answer _ _, _, after => after = progress

end Contract

section Meets

variable {Op : Type} {Reply : Op → Type} {V α : Type} {limit call : ℕ} {forced : ℕ → Bool}
  {checked : V → List (Event (TimedReply Reply)) → Prop} {reading : ℤ}
  {refresh : Program (TimedReply Reply) V}

/-- The computation of a call, whose transcript the call keeps. -/
theorem during_meets {post : α → List (Event (TimedReply Reply)) → Prop}
    {computation : Program (TimedReply Reply) α} {progress : Progress Reply V}
    (started : progress.reading = some reading)
    (meets : computation.Meets (transcript (TimedReply Reply)) post progress.seen) :
    (computation.during call : Program (KeptReply Reply V) α).Meets
      (keptContract limit checked forced call)
      (fun result after => after.reading = some reading ∧ post result after.seen) progress := by
  induction computation generalizing progress with
  | done result => exact ⟨started, meets⟩
  | request op next ih =>
    refine ⟨⟨rfl, started ▸ Option.some_ne_none reading⟩, ?_⟩
    rintro reply after rfl
    exact ih reply started (meets.2 reply _ rfl)

/-- A call which finds the kept value young knows since when something is kept. -/
theorem keptIsYoung_meets {progress : Progress Reply V}
    (started : progress.reading = some reading) (fresh : progress.seen = []) :
    (keptIsYoung limit call reading : Program (KeptReply Reply V) Bool).Meets
      (keptContract limit checked forced call)
      (fun young after => after.reading = some reading ∧ after.seen = [] ∧
        (young = true → ∃ since ∈ after.since, reading - limit ≤ since)) progress := by
  have unread : ∀ after : Progress Reply V, after.reading = some reading → after.seen = [] →
      after.reading = some reading ∧ after.seen = [] ∧
        (false = true → ∃ since ∈ after.since, reading - limit ≤ since) :=
    fun after started fresh => ⟨started, fresh, nofun⟩
  refine ⟨rfl, ?_⟩
  intro value between replied
  have kept : between.reading = some reading ∧ between.seen = [] := by
    rcases replied with ⟨-, rfl⟩ | ⟨since, -, kept, -, rfl⟩
    · exact ⟨started, fresh⟩
    · exact ⟨started, fresh⟩
  cases value with
  | none => exact unread between kept.1 kept.2
  | some value =>
    refine ⟨rfl, ?_⟩
    rintro first after rfl
    cases first with
    | none => exact unread _ kept.1 kept.2
    | some first =>
      refine ⟨rfl, ?_⟩
      rintro second last rfl
      cases second with
      | none => exact unread _ kept.1 kept.2
      | some stamp =>
        refine ⟨kept.1, kept.2, ?_⟩
        intro young
        refine ⟨stamp, rfl, ?_⟩
        have age : reading - stamp ≤ limit := of_decide_eq_true young
        omega

/-- A call which renews knows that something is kept since its reading. -/
theorem renewKept_meets {progress : Progress Reply V} (started : progress.reading = some reading)
    (meets : refresh.Meets (transcript (TimedReply Reply)) checked progress.seen) :
    (renewKept refresh call reading).Meets (keptContract limit checked forced call)
      (fun _ after => after.reading = some reading ∧ ∃ since ∈ after.since, reading ≤ since)
      progress := by
  apply Program.Meets.bind
  refine (during_meets started meets).mono ?_
  rintro value after ⟨still, holds⟩
  refine ⟨⟨rfl, still ▸ Option.some_ne_none reading, holds⟩, ?_⟩
  rintro reply stored ⟨since, rfl, later⟩
  have sinceReading : reading ≤ since := later reading still
  refine ⟨⟨rfl, still, since, rfl, sinceReading⟩, ?_⟩
  rintro reply last rfl
  exact ⟨still, since, rfl, sinceReading⟩

theorem serveKept_meets
    (meets : refresh.Meets (transcript (TimedReply Reply)) checked []) :
    (serveKept limit refresh (forced call) call).Meets (keptContract limit checked forced call)
      (fun _ _ => True) {} := by
  apply Program.Meets.bind
  refine ⟨rfl, ?_⟩
  rintro reading progress rfl
  apply Program.Meets.bind
  have looked : (if forced call then pure false else keptIsYoung limit call reading :
      Program (KeptReply Reply V) Bool).Meets (keptContract limit checked forced call)
      (fun young after => after.reading = some reading ∧ after.seen = [] ∧
        (young = true → ∃ since ∈ after.since, YoungFor limit (forced call) reading since))
      { reading := some reading } := by
    cases unforced : forced call with
    | true => exact ⟨rfl, rfl, nofun⟩
    | false =>
      refine (keptIsYoung_meets rfl rfl).mono ?_
      rintro young after ⟨started, fresh, age⟩
      refine ⟨started, fresh, ?_⟩
      intro isYoung
      obtain ⟨since, known, limited⟩ := age isYoung
      exact ⟨since, known, limited, nofun⟩
  refine looked.mono ?_
  rintro young progress ⟨started, fresh, age⟩
  apply Program.Meets.bind
  have renewed : (if young then pure () else renewKept refresh call reading :
      Program (KeptReply Reply V) Unit).Meets (keptContract limit checked forced call)
      (fun _ after => after.reading = some reading ∧
        ∃ since ∈ after.since, YoungFor limit (forced call) reading since) progress := by
    cases young with
    | true => exact ⟨started, age rfl⟩
    | false =>
      refine (renewKept_meets started (fresh ▸ meets)).mono ?_
      rintro - after ⟨still, since, known, later⟩
      refine ⟨still, since, known, ?_, fun _ => later⟩
      omega
  refine renewed.mono ?_
  rintro - progress ⟨started, since, known, young⟩
  refine ⟨rfl, ?_⟩
  rintro value read replied
  rcases replied with ⟨unknown, -⟩ | ⟨other, known', kept, rfl, rfl⟩
  · rw [unknown] at known
    cases known
  · obtain rfl : other = since := Option.mem_unique known' known
    exact ⟨⟨rfl, reading, started, (kept, other), rfl, rfl, young⟩, fun _ _ _ => trivial⟩

end Meets

section Following

variable {Op : Type} {Reply : Op → Type} {V : Type} {limit : ℕ} {forced : ℕ → Bool}
  {checked : V → List (Event (TimedReply Reply)) → Prop}

/-- Something is kept since an instant: the last store came then or later. -/
def KeptSince (stores : List (Stored Reply V)) (instant : ℤ) : Prop :=
  ∃ last ∈ stores.getLast?, instant ≤ last.storedAt

/-- A kept value was checked on the transcript of its computation, whose readings of the
clock lie between the start of its call and the store. -/
structure Stored.Sound (checked : V → List (Event (TimedReply Reply)) → Prop)
    (stored : Stored Reply V) : Prop where
  checked : checked stored.value stored.seen
  started : stored.started ≤ stored.storedAt
  timed : ∀ instant : ℤ, (⟨.clock, instant⟩ : Event (TimedReply Reply)) ∈ stored.seen →
    stored.started ≤ instant ∧ instant ≤ stored.storedAt

/-- A call served a value which was kept, and young enough for it. -/
def Answered.Served (limit : ℕ) (forced : ℕ → Bool) (stores : List (Stored Reply V))
    (answered : Answered V) : Prop :=
  ∃ stored ∈ stores, answered.value = some stored.value ∧
    YoungFor limit (forced answered.call) answered.started stored.storedAt

/-- What a call knows agrees with what the monitor noted of it. -/
structure CallFollowed (log : KeptLog Reply V) (clock : ℤ) (call : ℕ)
    (progress : Progress Reply V) : Prop where
  started : ∀ reading ∈ progress.reading, log.started call = reading ∧ reading ≤ clock
  seen : log.seen call = progress.seen
  timed : ∀ instant : ℤ, (⟨.clock, instant⟩ : Event (TimedReply Reply)) ∈ progress.seen →
    log.started call ≤ instant ∧ instant ≤ clock
  since : ∀ since ∈ progress.since, KeptSince log.stores since
  fetched : ∀ fetched ∈ progress.fetched,
    ∃ stored ∈ log.stores, stored.value = fetched.1 ∧ fetched.2 ≤ stored.storedAt

/-- What the calls share and know agrees with what the monitor noted. -/
structure Followed (limit : ℕ) (checked : V → List (Event (TimedReply Reply)) → Prop)
    (forced : ℕ → Bool) (shelf : Shelf V) (log : KeptLog Reply V)
    (states : ℕ → Progress Reply V) : Prop where
  calls : ∀ call, CallFollowed log shelf.clock call (states call)
  value : shelf.value = log.stores.getLast?.map Stored.value
  stamp : ∀ stamp ∈ shelf.stamp, KeptSince log.stores stamp
  stores : ∀ stored ∈ log.stores, stored.Sound checked ∧ stored.storedAt ≤ shelf.clock
  answers : ∀ answered ∈ log.answers, answered.Served limit forced log.stores

/-- Time passes, and nothing is kept meanwhile. -/
theorem CallFollowed.later {log next : KeptLog Reply V} {clock after : ℤ} {call : ℕ}
    {progress : Progress Reply V} (followed : CallFollowed log clock call progress)
    (passes : clock ≤ after) (started : next.started call = log.started call)
    (seen : next.seen call = log.seen call) (stores : next.stores = log.stores) :
    CallFollowed next after call progress where
  started := by
    intro reading known
    obtain ⟨same, before⟩ := followed.started reading known
    exact ⟨started.trans same, by omega⟩
  seen := seen.trans followed.seen
  timed := by
    intro instant member
    obtain ⟨after, before⟩ := followed.timed instant member
    exact ⟨started ▸ after, by omega⟩
  since := stores ▸ followed.since
  fetched := stores ▸ followed.fetched

theorem le_later (shelf : Shelf V) (elapsed : ℕ) : shelf.clock ≤ (shelf.later elapsed).clock := by
  change shelf.clock ≤ shelf.clock + elapsed
  omega

/-- A step of one call which keeps nothing: what it knows afterwards is to be followed. -/
theorem Followed.step {shelf : Shelf V} {log next : KeptLog Reply V}
    {states : ℕ → Progress Reply V} {call elapsed : ℕ} {progress : Progress Reply V}
    (followed : Followed limit checked forced shelf log states)
    (own : CallFollowed next (shelf.later elapsed).clock call progress)
    (started : ∀ other, other ≠ call → next.started other = log.started other)
    (seen : ∀ other, other ≠ call → next.seen other = log.seen other)
    (stores : next.stores = log.stores)
    (answers : ∀ answered ∈ next.answers, answered.Served limit forced log.stores) :
    Followed limit checked forced (shelf.later elapsed) next
      (Function.update states call progress) where
  calls := by
    intro other
    by_cases same : other = call
    · rw [same, Function.update_self]
      exact own
    · rw [Function.update_of_ne same]
      exact (followed.calls other).later (le_later shelf elapsed) (started other same)
        (seen other same) stores
  value := stores ▸ followed.value
  stamp := stores ▸ followed.stamp
  stores := by
    rw [stores]
    intro stored member
    obtain ⟨sound, before⟩ := followed.stores stored member
    have passes := le_later shelf elapsed
    exact ⟨sound, by omega⟩
  answers := stores ▸ answers

theorem getLast?_append_singleton (stores : List (Stored Reply V)) (stored : Stored Reply V) :
    (stores ++ [stored]).getLast? = some stored := by simp

/-- What is kept now is newer than what was kept since any earlier instant. -/
theorem KeptSince.append {stores : List (Stored Reply V)} {instant : ℤ} {stored : Stored Reply V}
    (since : KeptSince stores instant) (newer : ∀ earlier ∈ stores,
      earlier.storedAt ≤ stored.storedAt) : KeptSince (stores ++ [stored]) instant := by
  obtain ⟨last, found, before⟩ := since
  refine ⟨stored, getLast?_append_singleton stores stored, ?_⟩
  have later := newer last (List.mem_of_getLast? found)
  omega

/-- A call keeps what it computed. -/
theorem Followed.keep {shelf : Shelf V} {log : KeptLog Reply V} {states : ℕ → Progress Reply V}
    {call : ℕ} {value : V} (followed : Followed limit checked forced shelf log states)
    (started : (states call).reading ≠ none) (holds : checked value (states call).seen)
    (elapsed : ℕ) :
    Followed limit checked forced ({ shelf with value := some value }.later elapsed)
      { log with stores :=
          log.stores ++ [⟨log.started call, log.seen call, value, shelf.clock⟩] }
      (Function.update states call { states call with since := some shelf.clock }) := by
  have passes : shelf.clock ≤ ({ shelf with value := some value }.later elapsed).clock :=
    le_later { shelf with value := some value } elapsed
  have newer : ∀ earlier ∈ log.stores, earlier.storedAt ≤ shelf.clock :=
    fun earlier member => (followed.stores earlier member).2
  obtain ⟨reading, known⟩ := Option.ne_none_iff_exists'.mp started
  have own := followed.calls call
  have others : ∀ other, CallFollowed
      { log with stores := log.stores ++ [⟨log.started call, log.seen call, value, shelf.clock⟩] }
      ({ shelf with value := some value }.later elapsed).clock other (states other) := by
    intro other
    have before := followed.calls other
    refine ⟨?_, before.seen, ?_, ?_, ?_⟩
    · intro reading known
      obtain ⟨same, earlier⟩ := before.started reading known
      exact ⟨same, by omega⟩
    · intro instant member
      obtain ⟨after, earlier⟩ := before.timed instant member
      exact ⟨after, by omega⟩
    · exact fun since known => (before.since since known).append newer
    · intro fetched known
      obtain ⟨stored, member, same⟩ := before.fetched fetched known
      exact ⟨stored, List.mem_append_left _ member, same⟩
  refine ⟨?_, ?_, ?_, ?_, ?_⟩
  · intro other
    by_cases same : other = call
    · rw [same, Function.update_self]
      refine ⟨(others call).started, (others call).seen, (others call).timed, ?_,
        (others call).fetched⟩
      rintro since ⟨⟩
      exact ⟨_, getLast?_append_singleton _ _, Int.le_refl _⟩
    · rw [Function.update_of_ne same]
      exact others other
  · change some value = (log.stores ++ [_]).getLast?.map Stored.value
    rw [getLast?_append_singleton]
    rfl
  · exact fun stamp known => (followed.stamp stamp known).append newer
  · intro stored member
    rcases List.mem_append.mp member with earlier | new
    · obtain ⟨sound, before⟩ := followed.stores stored earlier
      exact ⟨sound, by omega⟩
    · obtain rfl := List.mem_singleton.mp new
      obtain ⟨same, before⟩ := own.started reading known
      refine ⟨⟨own.seen ▸ holds, same ▸ before, ?_⟩, passes⟩
      intro instant shown
      exact own.timed instant (own.seen ▸ shown)
  · intro answered member
    obtain ⟨stored, kept, served⟩ := followed.answers answered member
    exact ⟨stored, List.mem_append_left _ kept, served⟩

/-- A call notes an answer; a reading of the clock is noted at its instant. -/
theorem Followed.note {shelf : Shelf V} {log : KeptLog Reply V} {states : ℕ → Progress Reply V}
    {call elapsed : ℕ} (followed : Followed limit checked forced shelf log states)
    (started : (states call).reading ≠ none) (event : Event (TimedReply Reply))
    (onTime : ∀ instant : ℤ, ⟨.clock, instant⟩ = event → instant = shelf.clock) :
    Followed limit checked forced (shelf.later elapsed)
      { log with seen := Function.update log.seen call (log.seen call ++ [event]) }
      (Function.update states call
        { states call with seen := (states call).seen ++ [event] }) := by
  have passes : shelf.clock ≤ (shelf.later elapsed).clock := le_later shelf elapsed
  have own := followed.calls call
  have idle : CallFollowed log (shelf.later elapsed).clock call (states call) :=
    own.later passes rfl rfl rfl
  obtain ⟨reading, known⟩ := Option.ne_none_iff_exists'.mp started
  obtain ⟨same, before⟩ := own.started reading known
  refine followed.step ⟨idle.started, ?_, ?_, idle.since, idle.fetched⟩ (fun _ _ => rfl) ?_ rfl
    followed.answers
  · dsimp only
    rw [Function.update_self, own.seen]
  · intro instant member
    rcases List.mem_append.mp member with earlier | new
    · exact idle.timed instant earlier
    · obtain rfl := onTime instant (List.mem_singleton.mp new)
      exact ⟨same ▸ before, passes⟩
  · exact fun other different => Function.update_of_ne different ..

/-- A call answers with what it read of a young enough age. -/
theorem Followed.answer {shelf : Shelf V} {log : KeptLog Reply V}
    {states : ℕ → Progress Reply V} {call elapsed : ℕ} {value : Option V}
    {fetched : V × ℤ} {reading : ℤ} (followed : Followed limit checked forced shelf log states)
    (known : (states call).reading = some reading) (read : (states call).fetched = some fetched)
    (same : value = some fetched.1) (young : YoungFor limit (forced call) reading fetched.2) :
    Followed limit checked forced (shelf.later elapsed)
      { log with answers := log.answers ++ [⟨call, log.started call, value⟩] }
      (Function.update states call (states call)) := by
  have own := followed.calls call
  obtain ⟨stored, kept, fetchedValue, later⟩ := own.fetched fetched read
  obtain ⟨started, -⟩ := own.started reading known
  refine followed.step (own.later (le_later shelf elapsed) rfl rfl rfl) (fun _ _ => rfl)
    (fun _ _ => rfl) rfl ?_
  intro answered member
  rcases List.mem_append.mp member with earlier | new
  · exact followed.answers answered earlier
  · obtain rfl := List.mem_singleton.mp new
    obtain ⟨limited, refreshed⟩ := young
    refine ⟨stored, kept, fetchedValue ▸ same, ?_, ?_⟩
    · dsimp only
      omega
    · intro isForced
      have after := refreshed isForced
      dsimp only
      omega

/-- Every operation which the contracts allow keeps the calls followed. -/
theorem followed_preserves (limit : ℕ)
    (checked : V → List (Event (TimedReply Reply)) → Prop) (forced : ℕ → Bool) :
    Watched.Preserves (fun surroundings : Surroundings Reply => shelfPerformer surroundings)
       KeptLog.observe
      (keptContract limit checked forced) (Followed limit checked forced) fun _ _ _ => True := by
  intro call surroundings op shelf log states followed asks _
  have own := followed.calls call
  have idle : CallFollowed log (shelf.later surroundings.elapsed).clock call (states call) :=
    own.later (le_later shelf _) rfl rfl rfl
  cases op with
  | start other =>
    obtain rfl : other = call := asks
    refine ⟨{ reading := some shelf.clock }, rfl, followed.step ?_ ?_ ?_ rfl followed.answers⟩
    · refine ⟨?_, Function.update_self .., nofun, nofun, nofun⟩
      rintro reading ⟨⟩
      exact ⟨Function.update_self .., le_later shelf _⟩
    · exact fun another different => Function.update_of_ne different ..
    · exact fun another different => Function.update_of_ne different ..
  | refresh other op =>
    obtain ⟨rfl, started⟩ := asks
    cases op with
    | clock =>
      refine ⟨_, rfl, followed.note started _ ?_⟩
      rintro instant ⟨⟩
      rfl
    | other op => exact ⟨_, rfl, followed.note started _ nofun⟩
  | readValue other =>
    obtain rfl : other = call := asks
    cases known : (states other).since with
    | none =>
      exact ⟨states other, .inl ⟨known, rfl⟩,
        followed.step idle (fun _ _ => rfl) (fun _ _ => rfl) rfl followed.answers⟩
    | some since =>
      obtain ⟨last, found, later⟩ := own.since since known
      have kept : shelf.value = some last.value := by rw [followed.value, found]; rfl
      refine ⟨_, .inr ⟨since, known, last.value, kept, rfl⟩, followed.step ?_ (fun _ _ => rfl)
        (fun _ _ => rfl) rfl followed.answers⟩
      refine ⟨idle.started, idle.seen, idle.timed, known ▸ idle.since, ?_⟩
      rintro fetched ⟨⟩
      exact ⟨last, List.mem_of_getLast? found, rfl, later⟩
  | readStamp other =>
    obtain rfl : other = call := asks
    refine ⟨_, rfl, followed.step ⟨idle.started, idle.seen, idle.timed, ?_, idle.fetched⟩
      (fun _ _ => rfl) (fun _ _ => rfl) rfl followed.answers⟩
    intro since known
    rcases Option.or_eq_some_iff.mp known with stamped | ⟨-, before⟩
    · exact followed.stamp since stamped
    · exact own.since since before
  | keep other value =>
    obtain ⟨rfl, started, holds⟩ := asks
    refine ⟨_, ⟨shelf.clock, rfl, fun reading known => (own.started reading known).2⟩, ?_⟩
    exact followed.keep started holds surroundings.elapsed
  | stamp other reading =>
    obtain ⟨rfl, known, since, keptSince, before⟩ := asks
    obtain ⟨last, found, later⟩ := own.since since keptSince
    have stepped := followed.step idle (fun _ _ => rfl) (fun _ _ => rfl) rfl followed.answers
    refine ⟨states other, rfl, { stepped with stamp := ?_ }⟩
    rintro stamp ⟨⟩
    exact ⟨last, found, by omega⟩
  | answer other value =>
    obtain ⟨rfl, reading, known, fetched, read, same, young⟩ := asks
    exact ⟨states other, rfl, followed.answer known read same young⟩

end Following

section Interleaving

variable {Op : Type} {Reply : Op → Type} {V : Type}

/-- The calls at their start, before anything was kept. -/
def startServing (limit : ℕ) (refresh : Program (TimedReply Reply) V) (calls : List Bool)
    (clock : ℤ) : Watched (KeptReply Reply V) (Option V) (Shelf V) (KeptLog Reply V) :=
  ⟨Pool.start (calls.mapIdx fun call forced => serveKept limit refresh forced call)
    { clock }, {}⟩

/-- In every interleaving of calls, each call serves a value which was checked and which
was kept at most the limit before its start, and after its start when it is forced. -/
theorem interleaved_served {limit : ℕ} {refresh : Program (TimedReply Reply) V}
    {checked : V → List (Event (TimedReply Reply)) → Prop}
    (meets : refresh.Meets (transcript (TimedReply Reply)) checked []) (calls : List Bool)
    (clock : ℤ) (schedule : List (ℕ × Surroundings Reply)) :
    Throughout (Watched.turn shelfPerformer KeptLog.observe)
      (fun watched => ∀ answered ∈ watched.monitor.answers,
        ∃ stored ∈ watched.monitor.stores, stored.Sound checked ∧
          answered.value = some stored.value ∧
          YoungFor limit (calls.getD answered.call false) answered.started stored.storedAt)
      (startServing limit refresh calls clock) schedule := by
  let forced : ℕ → Bool := fun call => calls.getD call false
  have starts : Watched.Holds (keptContract limit checked forced)
      (Followed limit checked forced) (startServing limit refresh calls clock) fun _ => {} := by
    refine ⟨?_, ⟨fun call => ⟨nofun, rfl, nofun, nofun, nofun⟩, rfl, nofun, nofun, nofun⟩⟩
    intro call program located
    rw [startServing, Pool.start, List.getElem?_mapIdx, Option.map_eq_some_iff] at located
    obtain ⟨isForced, found, rfl⟩ := located
    have same : forced call = isForced := by
      change calls.getD call false = isForced
      rw [List.getD_eq_getElem?_getD, found]
      rfl
    rw [← same]
    exact serveKept_meets meets
  refine starts.throughout (followed_preserves limit checked forced) ?_
    (atEachCall_of_forall fun _ _ _ _ => trivial)
  intro watched states followed answered member
  obtain ⟨stored, kept, served, young⟩ := followed.answers answered member
  exact ⟨stored, kept, (followed.stores stored kept).1, served, young⟩

end Interleaving
end AlphaAgent.Foundation
