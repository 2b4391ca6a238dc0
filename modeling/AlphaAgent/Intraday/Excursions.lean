import AlphaAgent.Intraday.ClosedPositions
import Mathlib.Order.Lattice

/-!
# Excursions

A mark refreshes the extremes of a position, a close does not. The extremes are
then those of the entry price and the marked prices, and the books of a position
stay consistent exactly when it is never closed at a price outside that range.
The range of each position is followed beside the positions, from the calls alone.
-/

namespace AlphaAgent.Intraday

open Foundation

/-- Any call on the manager of the positions. -/
inductive ManagerCall where
  | openPosition (signal : Signal) (order : ShadowOrder)
  | onPosition (call : PositionCall)

/-- The positions after a call on the manager. -/
def VirtualPositionManager.perform (positions : List VirtualPosition) :
    ManagerCall → List VirtualPosition
  | .openPosition signal order => positions ++ (openPosition signal order).toList
  | .onPosition call => VirtualPositionManager.call positions call

/-- The excursions of a position take in its gross PnL, and the charges account
for what its net PnL is less. -/
structure Consistent (position : VirtualPosition) : Prop where
  adverse : position.maxAdverseExcursion ≤ min 0 position.grossPnl
  favorable : max 0 position.grossPnl ≤ position.maxFavorableExcursion
  net : position.netPnl = position.grossPnl - position.charges

instance (position : VirtualPosition) : Decidable (Consistent position) :=
  decidable_of_iff
    (position.maxAdverseExcursion ≤ min 0 position.grossPnl ∧
      max 0 position.grossPnl ≤ position.maxFavorableExcursion ∧
      position.netPnl = position.grossPnl - position.charges)
    ⟨fun ⟨adverse, favorable, net⟩ => ⟨adverse, favorable, net⟩,
      fun ⟨adverse, favorable, net⟩ => ⟨adverse, favorable, net⟩⟩

/-- The lowest and the highest of the prices at which a position was entered and marked. -/
structure PriceRange where
  lowest : ℚ
  highest : ℚ
deriving DecidableEq

namespace PriceRange

def enteredAt (price : ℚ) : PriceRange := ⟨price, price⟩

def widened (range : PriceRange) (price : ℚ) : PriceRange :=
  ⟨min range.lowest price, max range.highest price⟩

def Contains (range : PriceRange) (price : ℚ) : Prop :=
  range.lowest ≤ price ∧ price ≤ range.highest

instance (range : PriceRange) (price : ℚ) : Decidable (range.Contains price) :=
  inferInstanceAs (Decidable (_ ∧ _))

/-- The range of what an order opens, which is nothing unless the order is filled. -/
def opened (order : ShadowOrder) : List PriceRange :=
  if order.fillStatus = .filled ∧ 0 < order.quantity then
    (order.simulatedFill.map enteredAt).toList
  else []

/-- What a call on a position does to its range. -/
def change (range : PriceRange) : PositionCall → PriceRange
  | .updateMark _ snapshot => range.widened snapshot.lastPrice
  | .closePosition _ _ _ _ => range

/-- The ranges of all positions after a call on the manager. -/
def perform (ranges : List PriceRange) : ManagerCall → List PriceRange
  | .openPosition _ order => ranges ++ opened order
  | .onPosition call => ranges.modify call.place fun range => range.change call

end PriceRange

/-- A close is at a price at which its position was entered or marked before, or
at one in between. -/
def PositionCall.ClosesWithin (range : PriceRange) : PositionCall → Prop
  | .updateMark _ _ => True
  | .closePosition _ exitPrice _ _ => range.Contains exitPrice

instance (range : PriceRange) : DecidablePred (PositionCall.ClosesWithin range)
  | .updateMark _ _ => isTrue trivial
  | .closePosition _ exitPrice _ _ => inferInstanceAs (Decidable (range.Contains exitPrice))

/-- The same for a call on the manager of all positions. -/
def ClosesWithin (ranges : List PriceRange) : ManagerCall → Prop
  | .openPosition _ _ => True
  | .onPosition call => ∀ range ∈ ranges[call.place]?, call.ClosesWithin range

instance (ranges : List PriceRange) : DecidablePred (ClosesWithin ranges)
  | .openPosition _ _ => isTrue trivial
  | .onPosition call => inferInstanceAs (Decidable (∀ range ∈ ranges[call.place]?, _))

section Extremes

variable {α β : Type*} [LinearOrder α] [LinearOrder β]

/-- Where a function rises or falls throughout, its largest value over a range
which is widened to a point is the larger one of the two. -/
theorem max_widened (f : α → β) (shape : Monotone f ∨ Antitone f) {low high : α}
    (ordered : low ≤ high) (point : α) :
    max (max (f low) (f high)) (f point) = max (f (min low point)) (f (max high point)) := by
  rcases le_total point low with below | above
  · rw [min_eq_right below, max_eq_left (below.trans ordered)]
    rcases shape with rises | falls
    · rw [max_eq_right (rises ordered), max_comm]
    · rw [max_eq_left (falls ordered), max_eq_right (falls below),
        max_eq_left (falls (below.trans ordered))]
  · rw [min_eq_left above]
    rcases le_total point high with inside | beyond
    · rw [max_eq_left inside]
      rcases shape with rises | falls
      · exact max_eq_left ((rises inside).trans (le_max_right _ _))
      · exact max_eq_left ((falls above).trans (le_max_left _ _))
    · rw [max_eq_right beyond]
      rcases shape with rises | falls
      · rw [max_eq_right (rises ordered), max_eq_right (rises beyond), max_eq_right (rises above)]
      · rw [max_eq_left (falls ordered)]

theorem min_widened (f : α → β) (shape : Monotone f ∨ Antitone f) {low high : α}
    (ordered : low ≤ high) (point : α) :
    min (min (f low) (f high)) (f point) = min (f (min low point)) (f (max high point)) :=
  max_widened (OrderDual.toDual ∘ f) (shape.symm.imp Antitone.dual_right Monotone.dual_right)
    ordered point

end Extremes

section Position

/-- The extremes of a position are those of its gross PnL over a range. -/
structure Spans (position : VirtualPosition) (range : PriceRange) : Prop where
  quantity : 0 < position.quantity
  entry : range.Contains position.entryPrice
  favorable : position.maxFavorableExcursion =
    max (position.grossPnlAt range.lowest) (position.grossPnlAt range.highest)
  adverse : position.maxAdverseExcursion =
    min (position.grossPnlAt range.lowest) (position.grossPnlAt range.highest)

variable {position : VirtualPosition} {range : PriceRange}

@[simp] theorem grossPnlAt_entryPrice (position : VirtualPosition) :
    position.grossPnlAt position.entryPrice = 0 := by
  unfold VirtualPosition.grossPnlAt
  split <;> rw [sub_self, zero_mul]

/-- The gross PnL rises strictly with the price, or falls strictly with it. -/
theorem grossPnlAt_strict (quantity : 0 < position.quantity) :
    StrictMono position.grossPnlAt ∨ StrictAnti position.grossPnlAt := by
  have units : (0 : ℚ) < position.quantity := Int.cast_pos.mpr quantity
  cases direction : position.direction with
  | long =>
    refine .inl fun lower higher below => ?_
    simp only [VirtualPosition.grossPnlAt, direction]
    exact mul_lt_mul_of_pos_right (sub_lt_sub_right below _) units
  | short =>
    refine .inr fun lower higher below => ?_
    simp only [VirtualPosition.grossPnlAt, direction]
    exact mul_lt_mul_of_pos_right (sub_lt_sub_left below _) units

/-- A price is in the range exactly when its gross PnL is between the extremes. -/
theorem Spans.contains_iff (spans : Spans position range) (price : ℚ) :
    range.Contains price ↔ position.maxAdverseExcursion ≤ position.grossPnlAt price ∧
      position.grossPnlAt price ≤ position.maxFavorableExcursion := by
  have ordered := spans.entry.1.trans spans.entry.2
  rw [spans.adverse, spans.favorable]
  rcases grossPnlAt_strict spans.quantity with rises | falls
  · rw [min_eq_left (rises.monotone ordered), max_eq_right (rises.monotone ordered),
      rises.le_iff_le, rises.le_iff_le]
    rfl
  · rw [min_eq_right (falls.antitone ordered), max_eq_left (falls.antitone ordered),
      falls.le_iff_ge, falls.le_iff_ge]
    exact and_comm

/-- The entry price is in the range, so the extremes are about zero. -/
theorem Spans.about_zero (spans : Spans position range) :
    position.maxAdverseExcursion ≤ 0 ∧ 0 ≤ position.maxFavorableExcursion := by
  have entered := (spans.contains_iff position.entryPrice).mp spans.entry
  rwa [grossPnlAt_entryPrice] at entered

/-- A position which was just opened spans its entry price. -/
theorem spans_opened {signal : Signal} {order : ShadowOrder}
    (opened : VirtualPositionManager.openPosition signal order = some position) :
    Spans position (.enteredAt position.entryPrice) ∧ Consistent position := by
  unfold VirtualPositionManager.openPosition at opened
  split at opened
  · cases opened
  · split at opened
    · cases opened
    · next fill _ filled =>
      rw [not_or, not_le] at filled
      rw [← Option.some.inj opened]
      refine ⟨⟨filled.2, ⟨le_rfl, le_rfl⟩, ?_, ?_⟩, ⟨?_, ?_, (sub_zero 0).symm⟩⟩
      · rw [PriceRange.enteredAt, max_self, grossPnlAt_entryPrice]
      · rw [PriceRange.enteredAt, min_self, grossPnlAt_entryPrice]
      · exact le_min le_rfl le_rfl
      · exact max_le le_rfl le_rfl

/-- A call on a position keeps its extremes those over its range. -/
theorem Spans.change (spans : Spans position range) (call : PositionCall) :
    Spans (call.change position) (range.change call) := by
  cases call with
  | closePosition place exitPrice exitReason timestamp =>
    exact ⟨spans.quantity, spans.entry, spans.favorable, spans.adverse⟩
  | updateMark place snapshot =>
    have ordered := spans.entry.1.trans spans.entry.2
    have entry : (range.widened snapshot.lastPrice).Contains position.entryPrice :=
      ⟨min_le_of_left_le spans.entry.1, le_max_of_le_left spans.entry.2⟩
    have shape := (grossPnlAt_strict spans.quantity).imp StrictMono.monotone StrictAnti.antitone
    refine ⟨spans.quantity, entry, ?_, ?_⟩
    · change max position.maxFavorableExcursion (position.grossPnlAt snapshot.lastPrice) = _
      rw [spans.favorable]
      exact max_widened position.grossPnlAt shape ordered snapshot.lastPrice
    · change min position.maxAdverseExcursion (position.grossPnlAt snapshot.lastPrice) = _
      rw [spans.adverse]
      exact min_widened position.grossPnlAt shape ordered snapshot.lastPrice

/-- A mark leaves a position consistent, and a close exactly when it is at a
price in the range. -/
theorem Spans.consistent_change_iff (spans : Spans position range) (call : PositionCall) :
    Consistent (call.change position) ↔ call.ClosesWithin range := by
  obtain ⟨adverse, favorable⟩ := spans.about_zero
  cases call with
  | updateMark place snapshot =>
    refine iff_of_true ⟨?_, ?_, rfl⟩ trivial
    · exact le_min (min_le_of_left_le adverse) (min_le_right _ _)
    · exact max_le (le_max_of_le_left favorable) (le_max_right _ _)
  | closePosition place exitPrice exitReason timestamp =>
    refine Iff.trans ?_ (spans.contains_iff exitPrice).symm
    constructor
    · intro consistent
      exact ⟨consistent.adverse.trans (min_le_right _ _),
        (le_max_right _ _).trans consistent.favorable⟩
    · rintro ⟨above, below⟩
      exact ⟨le_min adverse above, max_le favorable below, rfl⟩

end Position

section Places

variable {α β : Type*} {elements : List α}

/-- A property of all elements survives the change of one exactly when the
changed one has it. -/
theorem forall_mem_modify_iff {holds : α → Prop} (all : ∀ element ∈ elements, holds element)
    (place : ℕ) (change : α → α) :
    (∀ element ∈ elements.modify place change, holds element) ↔
      ∀ element ∈ elements[place]?, holds (change element) := by
  constructor
  · intro changed element located
    apply changed
    rw [List.mem_iff_getElem?]
    exact ⟨place, by rw [List.getElem?_modify_eq, located]; rfl⟩
  · intro here element member
    obtain ⟨other, located⟩ := List.mem_iff_getElem?.mp member
    rw [List.getElem?_modify] at located
    split at located
    · next same =>
      subst same
      obtain ⟨before, found, rfl⟩ := Option.map_eq_some_iff.mp located
      exact here before found
    · obtain ⟨before, found, rfl⟩ := Option.map_eq_some_iff.mp located
      exact all before (List.mem_of_getElem? found)

/-- A change in one place is seen through a map as a change in that place. -/
theorem map_modify (project : α → β) {change : α → α} {image : β → β}
    (commutes : ∀ element, project (change element) = image (project element)) (place : ℕ) :
    (elements.modify place change).map project = (elements.map project).modify place image := by
  apply List.ext_getElem?
  intro other
  simp only [List.getElem?_map, List.getElem?_modify]
  cases elements[other]? with
  | none => rfl
  | some element =>
    by_cases same : place = other
    · simp [same, commutes]
    · simp [same]

end Places

/-- A position with its range. -/
structure Watched where
  position : VirtualPosition
  range : PriceRange

namespace Watched

/-- What a call does to a watched position. -/
def change (call : PositionCall) (watched : Watched) : Watched :=
  ⟨call.change watched.position, watched.range.change call⟩

/-- What the manager opens, watched from its entry price. -/
def opened (signal : Signal) (order : ShadowOrder) : List Watched :=
  ((VirtualPositionManager.openPosition signal order).map fun position =>
    ⟨position, .enteredAt position.entryPrice⟩).toList

/-- The range of what is opened is known from the order. -/
theorem opened_range (signal : Signal) (order : ShadowOrder) :
    (opened signal order).map range = PriceRange.opened order := by
  rw [opened, PriceRange.opened, VirtualPositionManager.openPosition]
  cases order.simulatedFill with
  | none => exact (ite_self _).symm
  | some fill =>
    by_cases filled : order.fillStatus = .filled ∧ 0 < order.quantity
    · rw [if_pos filled]
      dsimp only
      rw [if_neg (by rwa [not_or, not_not, not_le])]
      rfl
    · rw [if_neg filled]
      dsimp only
      rw [if_pos (by rwa [← not_lt, ← not_and_or])]
      rfl

/-- All watched positions after a call on the manager. -/
def perform (watched : List Watched) : ManagerCall → List Watched
  | .openPosition signal order => watched ++ opened signal order
  | .onPosition call => watched.modify call.place (change call)

variable (watched : List Watched)

/-- The positions alone are those of the manager. -/
theorem perform_positions (call : ManagerCall) :
    (perform watched call).map position =
      VirtualPositionManager.perform (watched.map position) call := by
  cases call with
  | openPosition signal order =>
    rw [perform, List.map_append, VirtualPositionManager.perform, opened]
    cases VirtualPositionManager.openPosition signal order <;> rfl
  | onPosition call =>
    rw [VirtualPositionManager.perform, VirtualPositionManager.call_eq_modify]
    exact map_modify position (fun _ => rfl) call.place

/-- The ranges alone follow from the calls. -/
theorem perform_ranges (call : ManagerCall) :
    (perform watched call).map range = PriceRange.perform (watched.map range) call := by
  cases call with
  | openPosition signal order =>
    rw [perform, List.map_append, PriceRange.perform, ← opened_range]
  | onPosition call =>
    exact map_modify range (fun _ => rfl) call.place

variable {watched}

/-- Every call on the manager keeps the extremes of each position those of its range. -/
theorem spans_perform (spans : ∀ one ∈ watched, Spans one.position one.range)
    (call : ManagerCall) : ∀ one ∈ perform watched call, Spans one.position one.range := by
  cases call with
  | openPosition signal order =>
    intro one member
    rcases List.mem_append.mp member with before | added
    · exact spans one before
    · obtain ⟨position, opens, rfl⟩ := Option.map_eq_some_iff.mp (Option.mem_toList.mp added)
      exact (spans_opened opens).1
  | onPosition call =>
    rw [perform, forall_mem_modify_iff spans]
    intro one located
    exact (spans one (List.mem_of_getElem? located)).change call

/-- A call keeps all positions consistent exactly when it closes none outside its range. -/
theorem consistent_perform_iff (spans : ∀ one ∈ watched, Spans one.position one.range)
    (consistent : ∀ one ∈ watched.map position, Consistent one) (call : ManagerCall) :
    (∀ one ∈ (perform watched call).map position, Consistent one) ↔
      AlphaAgent.Intraday.ClosesWithin (watched.map range) call := by
  rw [List.forall_mem_map] at consistent ⊢
  cases call with
  | openPosition signal order =>
    refine iff_of_true ?_ trivial
    intro one member
    rcases List.mem_append.mp member with before | added
    · exact consistent one before
    · obtain ⟨position, opens, rfl⟩ := Option.map_eq_some_iff.mp (Option.mem_toList.mp added)
      exact (spans_opened opens).2
  | onPosition call =>
    rw [perform, forall_mem_modify_iff consistent]
    simp only [AlphaAgent.Intraday.ClosesWithin, List.getElem?_map, Option.mem_map,
      forall_exists_index, and_imp, forall_apply_eq_imp_iff₂]
    refine forall₂_congr fun one located => ?_
    exact (spans one (List.mem_of_getElem? located)).consistent_change_iff call

end Watched

/-- The same for a run on watched positions. -/
theorem Watched.consistent_calls_iff (calls : List ManagerCall) :
    Throughout perform (fun watched => ∀ one ∈ watched.map position, Consistent one) [] calls ↔
      AtEachCall perform (fun watched => ClosesWithin (watched.map range)) [] calls := by
  have kept (watched : List Watched) (call : ManagerCall)
      (spans : ∀ one ∈ watched, Spans one.position one.range) :
      ∀ one ∈ perform watched call, Spans one.position one.range :=
    spans_perform spans call
  exact throughout_iff_of_invariant kept
    (fun _ call spans consistent => consistent_perform_iff spans consistent call)
    (List.forall_mem_nil _) (List.forall_mem_nil _)

/-- After each operation of a manager the books of every position are consistent,
if and only if no position is closed outside the range of the prices at which it
was entered and marked. -/
theorem consistent_run_iff (calls : List ManagerCall) :
    Throughout VirtualPositionManager.perform (fun positions => ∀ one ∈ positions, Consistent one)
        [] calls ↔
      AtEachCall PriceRange.perform ClosesWithin [] calls := by
  rw [← @List.map_nil _ _ Watched.position, throughout_project Watched.perform_positions,
    Watched.consistent_calls_iff, ← atEachCall_project Watched.perform_ranges, List.map_nil]

/-- A position which is bought at 100 and stopped out at 95 before it is marked has
lost 50, and no adverse excursion. -/
theorem stopped_out_unmarked :
    ¬ ∀ calls, Throughout VirtualPositionManager.perform
      (fun positions => ∀ one ∈ positions, Consistent one) [] calls := by
  intro consistent
  let signal : Signal :=
    ⟨"RELIANCE", .india, .long, "VWAP_TREND_LONG", .strongBullish, 100, 95, 110, 2, 1 / 2, [],
      .utc 0, none, {}⟩
  let order : ShadowOrder :=
    ⟨"RELIANCE", .long, 100, some 100, 10, 0, 0, 250, .filled, none, .utc 0⟩
  obtain ⟨-, -, books⟩ := consistent
    [.openPosition signal order, .onPosition (.closePosition 0 95 "STOP_LOSS" (.utc 60))]
  have lost : (0 : ℚ) ≤ min 0 ((95 - 100) * ((10 : ℤ) : ℚ)) :=
    (books _ (List.mem_singleton.mpr rfl)).adverse
  exact absurd lost (by norm_num)

end AlphaAgent.Intraday
