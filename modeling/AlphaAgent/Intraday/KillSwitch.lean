import AlphaAgent.Intraday.OpenPositions

/-!
# The kill-switch latch

A triggered kill switch keeps its reasons, and a switch with reasons triggers
whatever the next evaluation reads. `process_snapshot` evaluates it before it
asks a strategy, so from the call which triggers it until `reset` no call gets
as far as an order.
-/

namespace AlphaAgent.Intraday

open Foundation

/-- What is done to a pipeline, its positions and its kill switch. -/
inductive KillSwitchCall where
  | evaluate (riskState : ShadowRiskState) (dataQuality : Option DataQualityReport)
      (rejectedSignalCount : ℕ) (apiLatencyMs : Option ℚ)
  | reset
  | pipeline (call : PipelineCall)

/-- The pipeline after a call. -/
def IntradayShadowPipeline.switchCall (settings : PipelineSettings)
    (pipeline : IntradayShadowPipeline) : KillSwitchCall → IntradayShadowPipeline
  | .evaluate riskState dataQuality rejectedSignalCount apiLatencyMs =>
    { pipeline with
      killSwitch := KillSwitchManager.evaluate settings.config pipeline.killSwitch riskState
        dataQuality rejectedSignalCount apiLatencyMs }
  | .reset => { pipeline with killSwitch := KillSwitchManager.reset }
  | .pipeline call => pipeline.call settings call

/-- A snapshot which was turned away: nothing is opened, and neither the result
nor the journal knows of an accepted signal or an order. -/
structure CreatesNothing (settings : PipelineSettings) (pipeline : IntradayShadowPipeline)
    (call : SnapshotCall) : Prop where
  positions : ((processSnapshot settings call).run pipeline).2.positions = pipeline.positions
  journal : ∃ entries, ((processSnapshot settings call).run pipeline).2.journal =
      pipeline.journal ++ entries ∧
    ∀ entry ∈ entries, entry.eventType = "DATA_OR_UNIVERSE_BLOCK"
  result : ∀ result, ((processSnapshot settings call).run pipeline).1 = .ok result →
    result.orders = [] ∧ result.positions = []

section Snapshot

variable (settings : PipelineSettings) (pipeline : IntradayShadowPipeline) (call : SnapshotCall)

/-- A call which the quality check ends leaves the kill switch alone. -/
theorem processSnapshot_of_unchecked {raised : RaisedError}
    (unchecked : DataQualityMonitor.check settings.config call.snapshot (.utc call.checkedAt) =
      .error raised) :
    (processSnapshot settings call).run pipeline = (.error raised, pipeline) := by
  unfold processSnapshot
  rw [Fallible.run_bind, Fallible.run_get]
  dsimp only
  rw [Fallible.run_bind, Fallible.run_ofExcept, unchecked]

/-- Any other call sets it to its evaluation. -/
theorem processSnapshot_killSwitch {quality : DataQualityReport}
    (checked : DataQualityMonitor.check settings.config call.snapshot (.utc call.checkedAt) =
      .ok quality) :
    ((processSnapshot settings call).run pipeline).2.killSwitch =
      KillSwitchManager.evaluate settings.config pipeline.killSwitch (call.state pipeline)
        (some quality) := by
  unfold processSnapshot
  rw [Fallible.run_bind, Fallible.run_get]
  dsimp only
  rw [Fallible.run_bind, Fallible.run_ofExcept, checked]
  dsimp only
  rw [Fallible.run_bind, Fallible.run_modify]
  dsimp only
  split
  · rfl
  · obtain ⟨entries, moved⟩ := processStrategies_opens settings call _ _ _
    rw [moved]
    rfl

/-- A call which leaves the kill switch triggered by its own evaluation, or which
the quality check ends, creates nothing. -/
theorem createsNothing_of_triggered
    (triggered : ∀ quality,
      DataQualityMonitor.check settings.config call.snapshot (.utc call.checkedAt) = .ok quality →
        (KillSwitchManager.evaluate settings.config pipeline.killSwitch (call.state pipeline)
          (some quality)).triggered = true) : CreatesNothing settings pipeline call := by
  cases checked : DataQualityMonitor.check settings.config call.snapshot (.utc call.checkedAt) with
  | error raised =>
    have ran := processSnapshot_of_unchecked settings pipeline call checked
    constructor
    · rw [ran]
    · exact ⟨[], by rw [ran, List.append_nil], fun _ absent => nomatch absent⟩
    · intro result returned
      rw [ran] at returned
      cases returned
  | ok quality =>
    have away := triggered quality checked
    obtain ⟨blocked, entry, ran, orders, positions, written⟩ : ∃ (blocked : SnapshotResult)
        (entry : JournalEntry), (processSnapshot settings call).run pipeline =
          (.ok blocked, { pipeline with
            killSwitch := KillSwitchManager.evaluate settings.config pipeline.killSwitch
              (call.state pipeline) (some quality)
            journal := pipeline.journal ++ [entry] }) ∧
          blocked.orders = [] ∧ blocked.positions = [] ∧
          entry.eventType = "DATA_OR_UNIVERSE_BLOCK" := by
      unfold processSnapshot
      rw [Fallible.run_bind, Fallible.run_get]
      dsimp only
      rw [Fallible.run_bind, Fallible.run_ofExcept, checked]
      dsimp only
      rw [Fallible.run_bind, Fallible.run_modify]
      dsimp only
      rw [if_pos (.inl away)]
      exact ⟨_, _, rfl, rfl, rfl, rfl⟩
    constructor
    · rw [ran]
    · refine ⟨[entry], by rw [ran], ?_⟩
      intro other listed
      rw [List.mem_singleton.mp listed, written]
    · intro result returned
      rw [ran] at returned
      rw [← Except.ok.inj returned]
      exact ⟨orders, positions⟩

end Snapshot

/-- After the call the kill switch is triggered, has every reason it had before,
and if the call processes a snapshot it creates nothing. -/
structure Latched (settings : PipelineSettings) (pipeline : IntradayShadowPipeline)
    (call : KillSwitchCall) : Prop where
  triggered : (pipeline.switchCall settings call).killSwitch.triggered = true
  reasons : pipeline.killSwitch.reasons ⊆
    (pipeline.switchCall settings call).killSwitch.reasons
  blocks : ∀ snapshotCall, call = .pipeline (.process snapshotCall) →
    CreatesNothing settings pipeline snapshotCall

section Latch

variable {settings : PipelineSettings} {pipeline : IntradayShadowPipeline} {call : KillSwitchCall}

/-- A change of the positions leaves the kill switch alone. -/
theorem withPositions_killSwitch (positions : Except RaisedError (List VirtualPosition)) :
    (pipeline.withPositions positions).killSwitch = pipeline.killSwitch := by
  cases positions <;> rfl

/-- What a call other than `reset` does to the kill switch: nothing, or an evaluation. -/
theorem switchCall_killSwitch (kept : call ≠ .reset) :
    (pipeline.switchCall settings call).killSwitch = pipeline.killSwitch ∨
      ∃ riskState dataQuality rejectedSignalCount apiLatencyMs,
        (pipeline.switchCall settings call).killSwitch =
          KillSwitchManager.evaluate settings.config pipeline.killSwitch riskState dataQuality
            rejectedSignalCount apiLatencyMs := by
  cases call with
  | evaluate riskState dataQuality rejectedSignalCount apiLatencyMs =>
    exact .inr ⟨riskState, dataQuality, rejectedSignalCount, apiLatencyMs, rfl⟩
  | reset => exact absurd rfl kept
  | pipeline call =>
    cases call with
    | process snapshotCall =>
      cases checked : DataQualityMonitor.check settings.config snapshotCall.snapshot
          (.utc snapshotCall.checkedAt) with
      | error raised =>
        left
        rw [IntradayShadowPipeline.switchCall, IntradayShadowPipeline.call,
          processSnapshot_of_unchecked settings pipeline snapshotCall checked]
      | ok quality =>
        exact .inr ⟨_, _, _, _, processSnapshot_killSwitch settings pipeline snapshotCall checked⟩
    | updateMark place snapshot => exact .inl (withPositions_killSwitch _)
    | close place exitPrice exitReason timestamp => exact .inl (withPositions_killSwitch _)

/-- A call after which the switch is triggered with reasons is latched, and the
reasons stay. -/
theorem latched_of_triggered (kept : call ≠ .reset)
    (triggered : (pipeline.switchCall settings call).killSwitch.triggered = true)
    (blocks : ∀ snapshotCall, call = .pipeline (.process snapshotCall) →
      CreatesNothing settings pipeline snapshotCall) : Latched settings pipeline call := by
  refine ⟨triggered, ?_, blocks⟩
  rcases switchCall_killSwitch kept with same | ⟨riskState, dataQuality, count, latency, evaluated⟩
  · rw [same]
    exact List.Subset.refl _
  · rw [evaluated]
    exact KillSwitchManager.evaluate_reasons settings.config pipeline.killSwitch riskState
      dataQuality count latency

/-- The switch has been triggered, with a reason. -/
def Triggered (pipeline : IntradayShadowPipeline) : Prop :=
  pipeline.killSwitch.triggered = true ∧ pipeline.killSwitch.reasons ≠ []

/-- An evaluation of a switch with reasons triggers. -/
theorem evaluate_triggers (reasons : pipeline.killSwitch.reasons ≠ [])
    (riskState : ShadowRiskState) (dataQuality : Option DataQualityReport) (count : ℕ)
    (latency : Option ℚ) :
    (KillSwitchManager.evaluate settings.config pipeline.killSwitch riskState dataQuality count
      latency).triggered = true := by
  rw [KillSwitchManager.evaluate_triggered]
  obtain ⟨reason, listed⟩ := List.exists_mem_of_ne_nil _ reasons
  exact List.ne_nil_of_mem (KillSwitchManager.evaluate_reasons settings.config
    pipeline.killSwitch riskState dataQuality count latency listed)

/-- A triggered switch stays latched through every call but `reset`. -/
theorem Triggered.latched (triggered : Triggered pipeline) (kept : call ≠ .reset) :
    Latched settings pipeline call ∧ Triggered (pipeline.switchCall settings call) := by
  have latched : Latched settings pipeline call := by
    apply latched_of_triggered kept
    · rcases switchCall_killSwitch kept with same | ⟨_, _, _, _, evaluated⟩
      · rw [same]
        exact triggered.1
      · rw [evaluated]
        exact evaluate_triggers triggered.2 _ _ _ _
    · rintro snapshotCall -
      apply createsNothing_of_triggered
      intro quality _
      exact evaluate_triggers triggered.2 _ _ _ _
  obtain ⟨reason, listed⟩ := List.exists_mem_of_ne_nil _ triggered.2
  exact ⟨latched, latched.triggered, List.ne_nil_of_mem (latched.reasons listed)⟩

/-- The call which triggers the switch is latched itself. -/
theorem latched_of_triggers (untriggered : pipeline.killSwitch.triggered = false)
    (kept : call ≠ .reset)
    (triggers : (pipeline.switchCall settings call).killSwitch.triggered = true) :
    Latched settings pipeline call ∧ Triggered (pipeline.switchCall settings call) := by
  have changed : (pipeline.switchCall settings call).killSwitch ≠ pipeline.killSwitch := by
    intro same
    rw [same, untriggered] at triggers
    cases triggers
  obtain ⟨riskState, dataQuality, count, latency, evaluated⟩ :=
    (switchCall_killSwitch kept).resolve_left changed
  have latched : Latched settings pipeline call := by
    apply latched_of_triggered kept triggers
    rintro snapshotCall rfl
    apply createsNothing_of_triggered
    intro quality checked
    rw [← processSnapshot_killSwitch settings pipeline snapshotCall checked]
    exact triggers
  refine ⟨latched, triggers, ?_⟩
  rw [evaluated] at triggers ⊢
  exact (KillSwitchManager.evaluate_triggered settings.config pipeline.killSwitch riskState
    dataQuality count latency).mp triggers

/-- From the call which triggers the kill switch on, and until `reset`, it stays
triggered, no reason is lost, and no snapshot opens a position or creates an order. -/
theorem killSwitch_latch (settings : PipelineSettings) (pipeline : IntradayShadowPipeline)
    (trigger : KillSwitchCall) (later : List KillSwitchCall)
    (untriggered : pipeline.killSwitch.triggered = false)
    (triggers : (pipeline.switchCall settings trigger).killSwitch.triggered = true)
    (kept : .reset ∉ later) :
    AtEachCall (IntradayShadowPipeline.switchCall settings) (Latched settings) pipeline
      (trigger :: later) := by
  have stays : ∀ (pipeline : IntradayShadowPipeline), Triggered pipeline →
      AtEachCall (IntradayShadowPipeline.switchCall settings) (Latched settings) pipeline
        later := by
    intro pipeline triggered
    induction later generalizing pipeline with
    | nil => exact trivial
    | cons call rest ih =>
      rw [List.mem_cons, not_or] at kept
      have latched : Latched settings pipeline call ∧
          Triggered (pipeline.switchCall settings call) := triggered.latched (Ne.symm kept.1)
      exact ⟨latched.1, ih kept.2 _ latched.2⟩
  have notReset : trigger ≠ .reset := by
    rintro rfl
    cases triggers
  obtain ⟨latched, triggered⟩ := latched_of_triggers untriggered notReset triggers
  exact ⟨latched, stays _ triggered⟩

/-- A day of three losses triggers the switch, and the snapshot after it and a
healthy evaluation change nothing. -/
theorem killSwitch_latch_losses :
    AtEachCall (IntradayShadowPipeline.switchCall ⟨.plain, {}, defaultStrategies .plain⟩)
      (Latched ⟨.plain, {}, defaultStrategies .plain⟩) {}
      [.evaluate { consecutiveLosses := 3 } none 0 none, .pipeline (.process relianceCall),
        .evaluate {} none 0 none] :=
  killSwitch_latch ⟨.plain, {}, defaultStrategies .plain⟩ {}
    (.evaluate { consecutiveLosses := 3 } none 0 none)
    [.pipeline (.process relianceCall), .evaluate {} none 0 none] rfl (by decide +kernel)
    (by simp)

end Latch

end AlphaAgent.Intraday
