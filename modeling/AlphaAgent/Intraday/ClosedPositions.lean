import AlphaAgent.Foundation.Calls
import AlphaAgent.Intraday.Positions

/-!
# Closed positions under later calls

`update_mark` and `close_position` do not look at the status, so a closed
position is marked and closed again like an open one. Its outcome stays exactly
when every later call on it repeats the price, and for a close also the reason
and the time, with which it was closed.
-/

namespace AlphaAgent.Intraday

open Foundation

/-- What is done to a position of the manager after it was opened. -/
inductive PositionCall where
  | updateMark (place : ℕ) (snapshot : MarketDataSnapshot)
  | closePosition (place : ℕ) (exitPrice : ℚ) (exitReason : String) (timestamp : DateTime)

namespace PositionCall

def place : PositionCall → ℕ
  | updateMark place _ => place
  | closePosition place _ _ _ => place

/-- What the call makes of the position in its place. -/
def change (position : VirtualPosition) : PositionCall → VirtualPosition
  | updateMark _ snapshot => position.marked snapshot.lastPrice
  | closePosition _ exitPrice exitReason timestamp =>
    position.closedAs exitPrice exitReason timestamp

/-- The call has the price, and a close also the reason and the time, of a closing. -/
def Repeats (exitPrice : ℚ) (exitReason : String) (timestamp : DateTime) : PositionCall → Prop
  | updateMark _ snapshot => snapshot.lastPrice = exitPrice
  | closePosition _ price reason time =>
    price = exitPrice ∧ reason = exitReason ∧ time = timestamp

end PositionCall

/-- The positions after a call; one which raises leaves them alone. -/
def VirtualPositionManager.call (positions : List VirtualPosition) :
    PositionCall → List VirtualPosition
  | .updateMark place snapshot => (updateMark positions place snapshot).toOption.getD positions
  | .closePosition place exitPrice exitReason timestamp =>
    (closePosition positions place exitPrice exitReason timestamp).toOption.getD positions

theorem VirtualPositionManager.call_eq_modify (positions : List VirtualPosition)
    (call : PositionCall) :
    VirtualPositionManager.call positions call =
      positions.modify call.place fun position => call.change position := by
  have updated : ∀ change : VirtualPosition → VirtualPosition,
      (update positions call.place change).toOption.getD positions =
        positions.modify call.place change := by
    intro change
    unfold update
    split
    · rfl
    · next beyond => exact (List.modify_eq_self (Nat.le_of_not_lt beyond)).symm
  cases call with
  | updateMark place snapshot => exact updated _
  | closePosition place exitPrice exitReason timestamp => exact updated _

/-- The fields which say how a closed position ended agree. -/
structure SameOutcome (before after : VirtualPosition) : Prop where
  status : after.status = before.status
  exitReason : after.exitReason = before.exitReason
  currentPrice : after.currentPrice = before.currentPrice
  grossPnl : after.grossPnl = before.grossPnl
  charges : after.charges = before.charges
  netPnl : after.netPnl = before.netPnl
  closedAt : after.closedAt = before.closedAt

theorem SameOutcome.refl (position : VirtualPosition) : SameOutcome position position :=
  ⟨rfl, rfl, rfl, rfl, rfl, rfl, rfl⟩

/-- The fields from which a position is valued agree. -/
structure SameTrade (before after : VirtualPosition) : Prop where
  direction : after.direction = before.direction
  entryPrice : after.entryPrice = before.entryPrice
  quantity : after.quantity = before.quantity

namespace SameTrade

theorem refl (position : VirtualPosition) : SameTrade position position := ⟨rfl, rfl, rfl⟩

variable {before after : VirtualPosition} (same : SameTrade before after)

include same

theorem change (call : PositionCall) : SameTrade before (call.change after) := by
  cases call with
  | updateMark place snapshot => exact ⟨same.direction, same.entryPrice, same.quantity⟩
  | closePosition place exitPrice exitReason timestamp =>
    exact ⟨same.direction, same.entryPrice, same.quantity⟩

theorem grossPnlAt (price : ℚ) : after.grossPnlAt price = before.grossPnlAt price := by
  simp only [VirtualPosition.grossPnlAt, same.direction, same.entryPrice, same.quantity]

theorem chargesAt (price : ℚ) : after.chargesAt price = before.chargesAt price := by
  simp only [VirtualPosition.chargesAt, same.direction, same.entryPrice, same.quantity]

end SameTrade

section Closed

variable {position after : VirtualPosition} {exitPrice : ℚ} {exitReason : String}
  {timestamp : DateTime}

/-- The outcome of a closed position survives a call on it exactly when the call
repeats the closing. -/
theorem sameOutcome_change_iff (call : PositionCall)
    (trade : SameTrade (position.closedAs exitPrice exitReason timestamp) after)
    (outcome : SameOutcome (position.closedAs exitPrice exitReason timestamp) after) :
    SameOutcome (position.closedAs exitPrice exitReason timestamp) (call.change after) ↔
      call.Repeats exitPrice exitReason timestamp := by
  have gross := trade.grossPnlAt exitPrice
  have charges := trade.chargesAt exitPrice
  have net : after.grossPnlAt exitPrice - after.chargesAt exitPrice =
      (position.closedAs exitPrice exitReason timestamp).netPnl := by
    rw [gross, charges]
    rfl
  cases call with
  | updateMark place snapshot =>
    constructor
    · exact fun kept => kept.currentPrice
    · rintro (rfl : snapshot.lastPrice = exitPrice)
      exact ⟨outcome.status, outcome.exitReason, rfl, gross, charges, net, outcome.closedAt⟩
  | closePosition place price reason time =>
    constructor
    · exact fun kept => ⟨kept.currentPrice, Option.some.inj kept.exitReason,
        Option.some.inj kept.closedAt⟩
    · rintro ⟨rfl, rfl, rfl⟩
      exact ⟨rfl, rfl, rfl, gross, charges, net, rfl⟩

end Closed

/-- The position in a place has the outcome of a closed position. -/
def Frozen (place : ℕ) (closed : VirtualPosition) (positions : List VirtualPosition) : Prop :=
  ∃ after, positions[place]? = some after ∧ SameOutcome closed after

/-- The position in a place is valued from the same fields as another. -/
def Traded (place : ℕ) (closed : VirtualPosition) (positions : List VirtualPosition) : Prop :=
  ∃ after, positions[place]? = some after ∧ SameTrade closed after

section Run

variable {place : ℕ} {positions : List VirtualPosition}

theorem Traded.call {closed : VirtualPosition} (call : PositionCall)
    (traded : Traded place closed positions) :
    Traded place closed (VirtualPositionManager.call positions call) := by
  obtain ⟨after, located, trade⟩ := traded
  unfold Traded
  rw [VirtualPositionManager.call_eq_modify, List.getElem?_modify, located]
  by_cases here : call.place = place
  · exact ⟨call.change after, by simp [here], trade.change call⟩
  · exact ⟨after, by simp [here], trade⟩

/-- One call keeps the outcome exactly when it is about another position, or
repeats the closing. -/
theorem frozen_call_iff {before : VirtualPosition} {exitPrice : ℚ} {exitReason : String}
    {timestamp : DateTime} (call : PositionCall)
    (traded : Traded place (before.closedAs exitPrice exitReason timestamp) positions)
    (frozen : Frozen place (before.closedAs exitPrice exitReason timestamp) positions) :
    Frozen place (before.closedAs exitPrice exitReason timestamp)
        (VirtualPositionManager.call positions call) ↔
      (call.place = place → call.Repeats exitPrice exitReason timestamp) := by
  obtain ⟨after, located, trade⟩ := traded
  obtain ⟨_, again, outcome⟩ := frozen
  rw [located] at again
  cases again
  unfold Frozen
  rw [VirtualPositionManager.call_eq_modify, List.getElem?_modify, located]
  by_cases here : call.place = place
  · simpa [here] using sameOutcome_change_iff call trade outcome
  · simpa [here] using outcome

/-- What `close_position` leaves in its place. -/
theorem VirtualPositionManager.closePosition_ok {closed : List VirtualPosition} {exitPrice : ℚ}
    {exitReason : String} {timestamp : DateTime} {position : VirtualPosition}
    (closes : closePosition positions place exitPrice exitReason timestamp = .ok closed)
    (found : closed[place]? = some position) :
    ∃ before : VirtualPosition, position = before.closedAs exitPrice exitReason timestamp := by
  unfold closePosition update at closes
  split at closes
  · rw [← Except.ok.inj closes, List.getElem?_modify_eq] at found
    obtain ⟨before, -, same⟩ := Option.map_eq_some_iff.mp found
    exact ⟨before, same.symm⟩
  · cases closes

/-- A closed position keeps its outcome through a run of later calls exactly when
each of them which is about it repeats its closing. -/
theorem frozen_iff {closed : List VirtualPosition} {exitPrice : ℚ} {exitReason : String}
    {timestamp : DateTime} {position : VirtualPosition}
    (closes : VirtualPositionManager.closePosition positions place exitPrice exitReason timestamp =
      .ok closed)
    (found : closed[place]? = some position) (calls : List PositionCall) :
    Throughout VirtualPositionManager.call (Frozen place position) closed calls ↔
      ∀ call ∈ calls, call.place = place → call.Repeats exitPrice exitReason timestamp := by
  obtain ⟨before, rfl⟩ := VirtualPositionManager.closePosition_ok closes found
  have kept : ∀ positions call,
      Traded place (before.closedAs exitPrice exitReason timestamp) positions →
      Traded place (before.closedAs exitPrice exitReason timestamp)
        (VirtualPositionManager.call positions call) := fun _ call => Traded.call call
  rw [← atEachCall_iff_forall_mem]
  exact throughout_iff_of_invariant kept (fun _ call => frozen_call_iff call)
    ⟨_, found, .refl _⟩ ⟨_, found, .refl _⟩

/-- An open long position, bought at 100 with its stop at 95. -/
def longPosition : VirtualPosition where
  symbol := "RELIANCE"
  market := .india
  direction := .long
  strategy := "VWAP_TREND_LONG"
  regimeAtEntry := .strongBullish
  entryPrice := 100
  stopLoss := 95
  targetPrice := 110
  quantity := 10
  riskAmount := 50
  status := .open
  entryReason := []
  openedAt := .utc 0
  currentPrice := 100

/-- Stopped out, and closed again in the same way, while another position hits its target. -/
theorem frozen_iff_stopped :
    Throughout VirtualPositionManager.call
        (Frozen 0 (longPosition.closedAs 95 "STOP_LOSS" (.utc 60)))
        [longPosition.closedAs 95 "STOP_LOSS" (.utc 60)]
        [.closePosition 0 95 "STOP_LOSS" (.utc 60), .closePosition 1 110 "TARGET_HIT" (.utc 90)] ↔
      ∀ call ∈ [.closePosition 0 95 "STOP_LOSS" (.utc 60),
          .closePosition 1 110 "TARGET_HIT" (.utc 90)],
        PositionCall.place call = 0 → call.Repeats 95 "STOP_LOSS" (.utc 60) :=
  frozen_iff (show VirtualPositionManager.closePosition [longPosition] 0 95 "STOP_LOSS" (.utc 60) =
    .ok _ from rfl) rfl _

/-- A stopped-out position is closed again at its target, and keeps nothing of its loss. -/
theorem closed_twice : ¬ ∀ (positions closed : List VirtualPosition) (place : ℕ) (exitPrice : ℚ)
    (exitReason : String) (timestamp : DateTime) (position : VirtualPosition),
    VirtualPositionManager.closePosition positions place exitPrice exitReason timestamp =
      .ok closed → closed[place]? = some position →
    ∀ calls, Throughout VirtualPositionManager.call (Frozen place position) closed calls := by
  intro frozen
  obtain ⟨-, after, located, outcome⟩ := frozen [longPosition] _ 0 95 "STOP_LOSS" (.utc 60) _ rfl
    rfl [.closePosition 0 110 "TARGET_HIT" (.utc 90)]
  cases located
  cases outcome.status

end Run
end AlphaAgent.Intraday
