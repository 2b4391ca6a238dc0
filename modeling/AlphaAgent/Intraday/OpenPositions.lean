import AlphaAgent.Foundation.Calls
import AlphaAgent.Intraday.Effects

/-!
# Runs of the pipeline and the positions they hold open

A run processes snapshots, marks positions and closes them, in any order. The
risk manager compares the open positions with their limit, and nothing compares
their symbols; both are judged before a call opens anything, so a call keeps the
limit, or the symbols apart, exactly when the trades which pass in it do.
-/

namespace AlphaAgent.Intraday

open Foundation

/-- What is done to a pipeline and its position manager. -/
inductive PipelineCall where
  | process (call : SnapshotCall)
  | updateMark (place : ℕ) (snapshot : MarketDataSnapshot)
  | close (place : ℕ) (exitPrice : ℚ) (exitReason : String) (timestamp : DateTime)

/-- A pipeline with the positions of an operation on them, which may have raised. -/
def IntradayShadowPipeline.withPositions (pipeline : IntradayShadowPipeline)
    (positions : Except RaisedError (List VirtualPosition)) : IntradayShadowPipeline :=
  match positions with
  | .ok positions => { pipeline with positions }
  | .error _ => pipeline

/-- The pipeline after a call. -/
def IntradayShadowPipeline.call (settings : PipelineSettings) (pipeline : IntradayShadowPipeline) :
    PipelineCall → IntradayShadowPipeline
  | .process call => ((processSnapshot settings call).run pipeline).2
  | .updateMark place snapshot => pipeline.withPositions
      (VirtualPositionManager.updateMark pipeline.positions place snapshot)
  | .close place exitPrice exitReason timestamp => pipeline.withPositions
      (VirtualPositionManager.closePosition pipeline.positions place exitPrice exitReason timestamp)

section Call

variable (settings : PipelineSettings) (pipeline : IntradayShadowPipeline)

/-- A snapshot adds the trades which pass in it. -/
theorem call_process_positions (call : SnapshotCall) :
    (pipeline.call settings (.process call)).positions =
      pipeline.positions ++ passing settings pipeline call := by
  obtain ⟨entries, killSwitch, moved⟩ := processSnapshot_run settings pipeline call
  rw [IntradayShadowPipeline.call, moved]
  rfl

/-- Other calls change one position, or none. -/
theorem withPositions_update (place : ℕ) (change : VirtualPosition → VirtualPosition) :
    (pipeline.withPositions
      (VirtualPositionManager.update pipeline.positions place change)).positions =
      pipeline.positions.modify place change := by
  unfold VirtualPositionManager.update
  split
  · rfl
  · next beyond => exact (List.modify_eq_self (Nat.le_of_not_lt beyond)).symm

end Call

/-- What passes is opened open. -/
theorem passing_isOpen {settings : PipelineSettings} {pipeline : IntradayShadowPipeline}
    {call : SnapshotCall} {position : VirtualPosition}
    (member : position ∈ passing settings pipeline call) : position.isOpen = true := by
  obtain ⟨_, _, _, -, _, -, passed⟩ := mem_passing settings pipeline call member
  obtain ⟨order, -, opened⟩ := passed.filled
  exact VirtualPositionManager.openPosition_isOpen opened

/-- The symbols of the open positions. -/
def openSymbols (positions : List VirtualPosition) : List String :=
  (positions.filter VirtualPosition.isOpen).map VirtualPosition.symbol

theorem openCount_eq_length (positions : List VirtualPosition) :
    openCount positions = (openSymbols positions).length := by
  rw [openSymbols, List.length_map, ← List.countP_eq_length_filter]
  rfl

theorem openSymbols_append (first second : List VirtualPosition) :
    openSymbols (first ++ second) = openSymbols first ++ openSymbols second := by
  rw [openSymbols, List.filter_append, List.map_append]
  rfl

theorem openSymbols_passing (settings : PipelineSettings) (pipeline : IntradayShadowPipeline)
    (call : SnapshotCall) :
    openSymbols (passing settings pipeline call) =
      (passing settings pipeline call).map VirtualPosition.symbol := by
  rw [openSymbols, List.filter_eq_self.mpr]
  intro position member
  exact passing_isOpen member

/-- A change opens no position and keeps the symbol of one which stays open. -/
def OpensNone (change : VirtualPosition → VirtualPosition) : Prop :=
  ∀ position, (change position).isOpen = true →
    position.isOpen = true ∧ (change position).symbol = position.symbol

/-- After such a change, no other symbols are open. -/
theorem openSymbols_modify (positions : List VirtualPosition) (place : ℕ)
    {change : VirtualPosition → VirtualPosition} (opensNone : OpensNone change) :
    (openSymbols (positions.modify place change)).Sublist (openSymbols positions) := by
  unfold openSymbols
  induction positions generalizing place with
  | nil => simp
  | cons position rest ih =>
    cases place with
    | zero =>
      rw [List.modify_zero_cons]
      cases stays : (change position).isOpen with
      | false =>
        rw [List.filter_cons_of_neg (by simp [stays])]
        exact (List.sublist_cons_self position rest).filter _ |>.map _
      | true =>
        obtain ⟨wasOpen, same⟩ := opensNone position stays
        rw [List.filter_cons_of_pos stays, List.filter_cons_of_pos wasOpen, List.map_cons,
          List.map_cons, same]
    | succ place =>
      rw [List.modify_succ_cons]
      cases open' : position.isOpen with
      | false =>
        rw [List.filter_cons_of_neg (by simp [open']), List.filter_cons_of_neg (by simp [open'])]
        exact ih place
      | true =>
        rw [List.filter_cons_of_pos open', List.filter_cons_of_pos open']
        exact (ih place).cons_cons _

/-- What does not process a snapshot opens no position. -/
theorem call_openSymbols (settings : PipelineSettings) (pipeline : IntradayShadowPipeline)
    {call : PipelineCall} (settles : ∀ snapshot, call ≠ .process snapshot) :
    (openSymbols (pipeline.call settings call).positions).Sublist
      (openSymbols pipeline.positions) := by
  cases call with
  | process snapshot => exact absurd rfl (settles snapshot)
  | updateMark place snapshot =>
    have marks : OpensNone (·.marked snapshot.lastPrice) := fun _ stays => ⟨stays, rfl⟩
    exact withPositions_update pipeline place _ ▸ openSymbols_modify pipeline.positions place marks
  | close place exitPrice exitReason timestamp =>
    have closes : OpensNone (·.closedAs exitPrice exitReason timestamp) := by
      intro position stays
      simp at stays
    exact withPositions_update pipeline place _ ▸ openSymbols_modify pipeline.positions place closes

section Limits

variable (settings : PipelineSettings)

/-- The trades which pass in a call fit into the slots which are free before it. -/
def FitsSlots (pipeline : IntradayShadowPipeline) (call : PipelineCall) : Prop :=
  ∀ snapshot, call = .process snapshot →
    openCount pipeline.positions + (passing settings pipeline snapshot).length ≤
      settings.config.maxOpenPositions

/-- One call keeps the limit exactly when what passes in it fits. -/
theorem call_openCount_le (pipeline : IntradayShadowPipeline) (call : PipelineCall)
    (within : openCount pipeline.positions ≤ settings.config.maxOpenPositions) :
    openCount (pipeline.call settings call).positions ≤ settings.config.maxOpenPositions ↔
      FitsSlots settings pipeline call := by
  by_cases settles : ∀ snapshot, call ≠ .process snapshot
  · have kept := (call_openSymbols settings pipeline settles).length_le
    rw [← openCount_eq_length, ← openCount_eq_length] at kept
    exact iff_of_true (kept.trans within)
      fun snapshot processes => absurd processes (settles snapshot)
  · push Not at settles
    obtain ⟨snapshot, rfl⟩ := settles
    rw [call_process_positions, openCount_append, openCount_eq_length (passing _ _ _),
      openSymbols_passing, List.length_map]
    constructor
    · rintro fits other ⟨⟩
      exact fits
    · intro fits
      exact fits snapshot rfl

/-- Over any run, the open positions stay within the limit exactly when in each
call the trades which pass fit into the slots left. -/
theorem openCount_le_iff (calls : List PipelineCall) :
    Throughout (IntradayShadowPipeline.call settings)
        (fun pipeline => openCount pipeline.positions ≤ settings.config.maxOpenPositions) {} calls ↔
      AtEachCall (IntradayShadowPipeline.call settings) (FitsSlots settings) {} calls :=
  throughout_iff (call_openCount_le settings) (Nat.zero_le _)

/-- The default strategies under the default configuration with one slot. -/
def oneSlot : PipelineSettings where
  text := .plain
  config := { maxOpenPositions := 1 }
  strategies := defaultStrategies .plain

/-- One snapshot on which two strategies signal fills one slot twice. -/
theorem openCount_exceeded :
    ¬Throughout (IntradayShadowPipeline.call oneSlot)
      (fun pipeline => openCount pipeline.positions ≤ oneSlot.config.maxOpenPositions) {}
      [.process relianceCall] := by
  rintro ⟨-, within⟩
  exact absurd (show openCount (IntradayShadowPipeline.call oneSlot {}
    (.process relianceCall)).positions ≤ 1 from within) (by decide +kernel)

/-- The trades which pass in a call are in different symbols, none of which has
an open position before it. -/
def KeepsSymbolsApart (pipeline : IntradayShadowPipeline) (call : PipelineCall) : Prop :=
  ∀ snapshot, call = .process snapshot →
    ((passing settings pipeline snapshot).map VirtualPosition.symbol).Nodup ∧
      ∀ position ∈ passing settings pipeline snapshot,
        position.symbol ∉ openSymbols pipeline.positions

/-- One call keeps the symbols of the open positions apart exactly when what
passes in it does. -/
theorem call_openSymbols_nodup (pipeline : IntradayShadowPipeline) (call : PipelineCall)
    (apart : (openSymbols pipeline.positions).Nodup) :
    (openSymbols (pipeline.call settings call).positions).Nodup ↔
      KeepsSymbolsApart settings pipeline call := by
  by_cases settles : ∀ snapshot, call ≠ .process snapshot
  · have kept := (call_openSymbols settings pipeline settles).nodup apart
    exact iff_of_true kept fun snapshot processes => absurd processes (settles snapshot)
  · push Not at settles
    obtain ⟨snapshot, rfl⟩ := settles
    rw [call_process_positions, openSymbols_append, openSymbols_passing, List.nodup_append']
    constructor
    · rintro ⟨-, distinct, fresh⟩ other ⟨⟩
      refine ⟨distinct, ?_⟩
      intro position member held
      exact fresh held (List.mem_map_of_mem member)
    · intro keeps
      obtain ⟨distinct, fresh⟩ := keeps snapshot rfl
      refine ⟨apart, distinct, ?_⟩
      intro symbol held passes
      obtain ⟨position, member, rfl⟩ := List.mem_map.mp passes
      exact fresh position member held

/-- Over any run, no second position is opened in a symbol which has an open one
exactly when in each call the trades which pass keep the symbols apart. -/
theorem openSymbols_nodup_iff (calls : List PipelineCall) :
    Throughout (IntradayShadowPipeline.call settings)
        (fun pipeline => (openSymbols pipeline.positions).Nodup) {} calls ↔
      AtEachCall (IntradayShadowPipeline.call settings) (KeepsSymbolsApart settings) {} calls :=
  throughout_iff (call_openSymbols_nodup settings) List.nodup_nil

/-- The default strategies under the default configuration. -/
def defaultSettings : PipelineSettings where
  text := .plain
  config := {}
  strategies := defaultStrategies .plain

/-- Without averaging down, one snapshot opens a symbol twice. -/
theorem openSymbols_repeated :
    defaultSettings.config.allowAveragingDown = false ∧
      ¬Throughout (IntradayShadowPipeline.call defaultSettings)
        (fun pipeline => (openSymbols pipeline.positions).Nodup) {} [.process relianceCall] := by
  refine ⟨rfl, ?_⟩
  rintro ⟨-, apart⟩
  exact absurd (show (openSymbols (IntradayShadowPipeline.call defaultSettings {}
    (.process relianceCall)).positions).Nodup from apart) (by decide +kernel)

end Limits
end AlphaAgent.Intraday
