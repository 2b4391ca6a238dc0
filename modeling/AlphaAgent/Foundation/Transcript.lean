import AlphaAgent.Foundation.Work

/-!
# Transcripts

The contract under which a program may ask everything, and its state is what it
was answered, in order. What a program ends in is then stated with the answers
which led to it. A transcript only grows, so what it shows once it shows for ever.
-/

namespace AlphaAgent.Foundation

universe u

variable {Op : Type u} {Reply : Op → Type u} {ε τ α : Type u}

/-- Everything may be asked, and every answer is noted. -/
def transcript (Reply : Op → Type u) : Contract Reply (List (Event Reply)) where
  asks _ _ := True
  answers seen op reply after := after = seen ++ [⟨op, reply⟩]

/-- What a transcript shows, every longer one shows too. -/
def Grows (known : List (Event Reply) → Prop) : Prop :=
  ∀ seen event, known seen → known (seen ++ [event])

theorem grows_mem (event : Event Reply) : Grows (event ∈ ·) :=
  fun _ _ member => List.mem_append_left _ member

theorem Grows.and {known other : List (Event Reply) → Prop} (first : Grows known)
    (second : Grows other) : Grows fun seen => known seen ∧ other seen :=
  fun seen event both => ⟨first seen event both.1, second seen event both.2⟩

theorem Grows.exists {ι : Sort _} {known : ι → List (Event Reply) → Prop}
    (each : ∀ index, Grows (known index)) : Grows fun seen => ∃ index, known index seen :=
  fun seen event ⟨index, holds⟩ => ⟨index, each index seen event holds⟩

theorem grows_const (fact : Prop) : Grows fun _ : List (Event Reply) => fact :=
  fun _ _ holds => holds

/-- What was shown before a program is still shown after it. -/
theorem Program.Meets.remembers {known : List (Event Reply) → Prop} (grows : Grows known)
    {post : α → List (Event Reply) → Prop} {program : Program Reply α}
    {seen : List (Event Reply)} (meets : program.Meets (transcript Reply) post seen)
    (holds : known seen) :
    program.Meets (transcript Reply)
      (fun result after => post result after ∧ known after) seen := by
  induction program generalizing seen with
  | done result => exact ⟨meets, holds⟩
  | request op next ih =>
    refine ⟨trivial, ?_⟩
    rintro reply after rfl
    exact ih reply (meets.2 reply _ rfl) (grows seen _ holds)

namespace Work

/-- Where the computation returns, the transcript shows this of the value. -/
def Shows (work : Work ε τ Reply α) (post : α → List (Event Reply) → Prop) : Prop :=
  Triple (transcript Reply) (fun _ _ => True) work (fun value _ seen => post value seen)
    fun _ _ _ => True

variable {work : Work ε τ Reply α} {post : α → List (Event Reply) → Prop}

/-- What was shown before a computation is still shown after it, however it ends. -/
theorem Triple.remembers {pre : τ → List (Event Reply) → Prop}
    {after : α → τ → List (Event Reply) → Prop} {raises : ε → τ → List (Event Reply) → Prop}
    {known : List (Event Reply) → Prop} (grows : Grows known)
    (triple : Triple (transcript Reply) pre work after raises) :
    Triple (transcript Reply) (fun here seen => pre here seen ∧ known seen) work
      (fun value here seen => after value here seen ∧ known seen)
      (fun error here seen => raises error here seen ∧ known seen) := by
  rintro here seen ⟨before, holds⟩
  refine ((triple here seen before).remembers grows holds).mono ?_
  rintro ⟨ended, last⟩ seen ⟨ends, still⟩
  cases ended with
  | ok value => exact ⟨ends, still⟩
  | error raised => exact ⟨ends, still⟩

namespace Shows

theorem anything (work : Work ε τ Reply α) : Shows work fun _ _ => True :=
  Triple.anything (fun _ _ => trivial) work

theorem mono {stronger : α → List (Event Reply) → Prop} (shows : Shows work stronger)
    (weaker : ∀ value seen, stronger value seen → post value seen) : Shows work post :=
  Triple.consequence (fun _ _ holds => holds) (fun value _ seen => weaker value seen)
    (fun _ _ _ holds => holds) shows

theorem pure {value : α} (holds : ∀ seen, post value seen) :
    Shows (Pure.pure value : Work ε τ Reply α) post :=
  Triple.pure fun _ seen _ => holds seen

theorem throw (error : ε) : Shows (MonadExcept.throw error : Work ε τ Reply α) post :=
  Triple.throw fun _ _ _ => trivial

theorem ofExcept {result : Except ε α} (ok : ∀ value, result = .ok value → ∀ seen,
    post value seen) : Shows (Work.ofExcept result : Work ε τ Reply α) post :=
  Triple.ofExcept (fun value _ seen returned _ => ok value returned seen)
    fun _ _ _ _ _ => trivial

/-- An operation is asked, and its answer is shown. -/
theorem ask (op : Op) : Shows (Work.ask op : Work ε τ Reply (Reply op))
    fun reply seen => (⟨op, reply⟩ : Event Reply) ∈ seen := by
  apply Triple.ask
  · exact fun _ _ _ => trivial
  · rintro here seen reply after - rfl
    exact List.mem_append_right _ (List.mem_singleton_self _)

/-- What the first part showed is there after the second part too. -/
theorem bind {β : Type u} {first : Work ε τ Reply β} {rest : β → Work ε τ Reply α}
    {known : β → List (Event Reply) → Prop} (shows : Shows first known)
    (grows : ∀ value, Grows (known value))
    (continues : ∀ value, Shows (rest value) fun result seen =>
      known value seen → post result seen) : Shows (first >>= rest) post := by
  refine Triple.bind shows ?_
  intro value
  refine Triple.consequence ?_ ?_ (fun _ _ _ _ => trivial)
    ((continues value).remembers (grows value))
  · exact fun _ _ holds => ⟨trivial, holds⟩
  · exact fun _ _ _ holds => holds.1 holds.2

/-- A part of which nothing is needed. -/
theorem skip {β : Type u} {first : Work ε τ Reply β} {rest : β → Work ε τ Reply α}
    (continues : ∀ value, Shows (rest value) post) : Shows (first >>= rest) post :=
  (anything first).bind (fun _ => grows_const True) fun value =>
    (continues value).mono fun _ _ holds _ => holds

end Shows
end Work
end AlphaAgent.Foundation
