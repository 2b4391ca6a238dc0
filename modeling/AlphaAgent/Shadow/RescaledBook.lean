import AlphaAgent.Foundation.Calls
import AlphaAgent.Shadow.ReportAgreement

/-!
# Runs of cycles and rescales

`scripts/rescale_shadow_book.py` between cycles: it sizes every open observation
anew, at the rate of its last mark, and leaves closed observations and all
samples as they are. Over runs of both, an open observation has a sample for each
of its marks, which values the price of the mark in the units of the mark.
-/

namespace AlphaAgent.Shadow

open Foundation

section Script

variable (settings : ShadowSettings)

/-- What the loop of `run` makes of an observation. -/
def rescaled (observation : ShadowObservation) : ShadowObservation :=
  let metadata := observation.metadataJson
  let fxRate := if metadata.usdInr = 0 then 1 else metadata.usdInr
  let entryPrice := observation.entryPrice
  let currentPrice := observation.currentPrice
  let priceInr := entryPrice * fxRate
  let quantity := if 0 < priceInr then ⌊settings.shadowHypothesisNotionalInr / priceInr⌋ else 0
  let notional := quantity * entryPrice * fxRate
  let pnl := (currentPrice - entryPrice) * quantity * fxRate
  { observation with
    hypotheticalQuantity := quantity
    hypotheticalNotionalInr := notional
    hypotheticalPnlInr := pnl
    hypotheticalPnlPct := if notional = 0 then 0 else pnl / notional
    metadataJson :=
      { metadata with shadowNotionalPerSymbolInr := settings.shadowHypothesisNotionalInr } }

/-- `run` of the script on the committed tables, in one transaction: where its
commit fails, it is as if it had not run. -/
def Database.rescaleShadowBook (database : Database) : Database :=
  { database with
    observations := database.observations.map fun observation =>
      if observation.isOpen then rescaled settings observation else observation }

variable {settings} {database : Database}

/-- A row after the script is an open one which it rescaled, or an older row. -/
theorem mem_rescaleShadowBook {row : ShadowObservation}
    (member : row ∈ (database.rescaleShadowBook settings).observations) :
    (∃ earlier ∈ database.observations, earlier.isOpen = true ∧ row = rescaled settings earlier) ∨
      row ∈ database.observations ∧ row.isOpen = false := by
  obtain ⟨earlier, earlierMember, rfl⟩ := List.mem_map.mp member
  by_cases isOpen : earlier.isOpen = true
  · rw [if_pos isOpen]
    exact .inl ⟨earlier, earlierMember, isOpen, rfl⟩
  · rw [if_neg isOpen]
    exact .inr ⟨earlierMember, Bool.eq_false_of_not_eq_true isOpen⟩

theorem rescaleShadowBook_ids :
    (database.rescaleShadowBook settings).observations.map ShadowObservation.id =
      database.observations.map ShadowObservation.id := by
  rw [Database.rescaleShadowBook, List.map_map]
  apply List.map_congr_left
  intro observation _
  rw [Function.comp_apply]
  split
  · rfl
  · rfl

/-- Exit samples and what they record are left as they are. -/
theorem Lifecycle.rescaled (lifecycle : Lifecycle database) (settings : ShadowSettings) :
    Lifecycle (database.rescaleShadowBook settings) where
  distinct := by
    rw [rescaleShadowBook_ids]
    exact lifecycle.distinct
  owned := by
    rw [rescaleShadowBook_ids]
    exact lifecycle.owned
  opened := by
    intro row member isOpen
    rcases mem_rescaleShadowBook member with ⟨earlier, earlierMember, earlierOpen, rfl⟩ | old
    · exact lifecycle.opened earlier earlierMember earlierOpen
    · exact lifecycle.opened row old.1 isOpen
  closed := by
    intro row member isClosed
    rcases mem_rescaleShadowBook member with ⟨earlier, _, earlierOpen, rfl⟩ | old
    · have isOpen : (AlphaAgent.Shadow.rescaled settings earlier).isOpen = true := earlierOpen
      rw [isOpen] at isClosed
      cases isClosed
    · exact lifecycle.closed row old.1 isClosed

end Script

/-- A cycle, or the script between two cycles. -/
inductive BookStep where
  | cycle (call : CycleCall)
  | rescale (settings : ShadowSettings)

/-- The committed tables after a step. -/
def Database.afterStep (database : Database) : BookStep → Database
  | .cycle call => database.afterCycle call
  | .rescale settings => database.rescaleShadowBook settings

theorem Lifecycle.afterStep {database : Database} (lifecycle : Lifecycle database)
    (step : BookStep) : Lifecycle (database.afterStep step) := by
  cases step with
  | cycle call => exact (lifecycle.afterCycle call).1
  | rescale settings => exact lifecycle.rescaled settings

section Units

/-- Rupees for a unit of the price, at the size and the rate of the sample. -/
def ShadowTrainingSample.scale (sample : ShadowTrainingSample) : ℚ :=
  sample.hypotheticalQuantity * sample.metadataJson.usdInr

/-- The gain of a sample over an entry, in the units of the sample. -/
def ShadowTrainingSample.gain (sample : ShadowTrainingSample) (entryPrice : ℚ) : ℚ :=
  (sample.currentPrice - entryPrice) * sample.scale

/-- The samples of an open observation are marks in units of their own, the first
of which has no gain. -/
structure InUnits (entryPrice : ℚ) (path : List ShadowTrainingSample) : Prop where
  marks : ∀ sample ∈ path, sample.sampleKind = .intradayMark
  gains : ∀ sample ∈ path, sample.hypotheticalPnlInr = sample.gain entryPrice
  entry : ∃ sample ∈ path, sample.hypotheticalPnlInr = 0

/-- Every open observation has the samples of its marks. -/
def MarkedInUnits (tables : Database) : Prop :=
  ∀ row ∈ tables.observations, row.isOpen = true →
    InUnits row.entryPrice (tables.samplesOf row.id)

variable {cycle : Cycle} {turn : Turn} {before after : Database} {assessment : Assessment}
  {observation : ShadowObservation}

/-- Where a turn leaves its observation open, it has recorded the mark alone. -/
theorem recorded_of_isOpen {samples : List ShadowTrainingSample}
    (isOpen : (recordedRow cycle samples observation turn assessment).isOpen = true) :
    recordedRow cycle samples observation turn assessment = observation ∧
      recordedSamples cycle samples observation turn assessment =
        [markSample turn assessment observation] := by
  rw [recordedRow, recordExit] at isOpen ⊢
  rw [recordedSamples, recordExit]
  split at isOpen
  · cases isOpen
  · next stays =>
    rw [if_neg stays]
    exact ⟨rfl, rfl⟩

theorem TurnEffect.markedInUnits (effect : TurnEffect cycle turn before after)
    (lifecycle : Lifecycle before) (inUnits : MarkedInUnits before) : MarkedInUnits after := by
  intro row member isOpen
  cases effect.row member with
  | kept old samples others =>
    rw [samplesOf_others samples others]
    exact inUnits row old isOpen
  | @opened lastPrice assessment observation quoted positive new fresh recorded samples =>
    rw [recorded] at isOpen ⊢
    obtain ⟨same, one⟩ := recorded_of_isOpen isOpen
    rw [same, samplesOf_recorded samples, samplesOf_fresh lifecycle fresh, one, List.nil_append]
    subst new
    refine ⟨?_, ?_, _, List.mem_singleton_self _, rfl⟩
    · intro sample only
      rw [List.mem_singleton.mp only]
      rfl
    · intro sample only
      rw [List.mem_singleton.mp only]
      change (0 : ℚ) = (lastPrice - lastPrice) * _
      rw [sub_self, zero_mul]
  | @marked lastPrice assessment earlier observation quoted positive held wasOpen market new
      recorded samples =>
    rw [recorded] at isOpen ⊢
    obtain ⟨same, one⟩ := recorded_of_isOpen isOpen
    rw [same, samplesOf_recorded samples, one]
    subst new
    rw [assigned_id]
    obtain ⟨marks, gains, start, started, none⟩ := inUnits earlier held wasOpen
    refine ⟨?_, ?_, start, List.mem_append_left _ started, none⟩
    · intro sample own
      rcases List.mem_append.mp own with old | last
      · exact marks sample old
      · rw [List.mem_singleton.mp last]
        rfl
    · intro sample own
      rcases List.mem_append.mp own with old | last
      · exact gains sample old
      · rw [List.mem_singleton.mp last]
        exact mul_assoc _ _ _

/-- A row after the close of earlier days has kept its samples, unless that closed it. -/
theorem afterStale_row (lifecycle : Lifecycle before) {market : Market} {row : ShadowObservation}
    (member : row ∈ (before.afterStale cycle market).observations) :
    (row ∈ before.observations ∧
        (before.afterStale cycle market).samplesOf row.id = before.samplesOf row.id) ∨
      row.status = .closed .sessionClose := by
  rw [afterStale_observations cycle market lifecycle.distinct] at member
  obtain ⟨old, oldMember, rfl⟩ := List.mem_map.mp member
  rw [staleRow_id, samplesOf_afterStale lifecycle.distinct cycle market oldMember, staleRow]
  split
  · exact .inr rfl
  · rw [List.append_nil]
    exact .inl ⟨oldMember, rfl⟩

/-- The same when the turns begin. -/
theorem opening_row (lifecycle : Lifecycle before) {row : ShadowObservation}
    (member : row ∈ (before.opening cycle).observations) :
    (row ∈ before.observations ∧
        (before.opening cycle).samplesOf row.id = before.samplesOf row.id) ∨
      row.status = .closed .sessionClose := by
  have started : Lifecycle before.withStrategy :=
    (lifecycle.of_rows (withStrategy_observations before) (withStrategy_samples before)).1
  have own : before.withStrategy.samplesOf row.id = before.samplesOf row.id := by
    rw [Database.samplesOf, withStrategy_samples, Database.samplesOf]
  rcases afterStale_row (started.afterStale cycle .india).1 member with ⟨india, kept⟩ | closed
  · rcases afterStale_row started india with ⟨old, before⟩ | closed
    · rw [withStrategy_observations] at old
      exact .inl ⟨old, kept.trans (before.trans own)⟩
    · exact .inr closed
  · exact .inr closed

theorem MarkedInUnits.opening (inUnits : MarkedInUnits before) (lifecycle : Lifecycle before) :
    MarkedInUnits (before.opening cycle) := by
  intro row member isOpen
  rcases opening_row lifecycle member with ⟨old, own⟩ | closed
  · rw [own]
    exact inUnits row old isOpen
  · simp [ShadowObservation.isOpen, closed] at isOpen

theorem MarkedInUnits.afterStep (inUnits : MarkedInUnits before) (lifecycle : Lifecycle before)
    (step : BookStep) : MarkedInUnits (before.afterStep step) := by
  cases step with
  | cycle call =>
    rcases afterCycle_cases call lifecycle.distinct with steps | same
    · refine Turns.keeps MarkedInUnits ?_ steps (lifecycle.opening call.cycle).1
        (inUnits.opening lifecycle)
      intro turn _ before after sound holds effect
      exact effect.markedInUnits sound holds
    · rw [Database.afterStep, same]
      exact inUnits
  | rescale settings =>
    intro row member isOpen
    rcases mem_rescaleShadowBook member with ⟨earlier, held, wasOpen, rfl⟩ | ⟨_, closed⟩
    · exact inUnits earlier held wasOpen
    · rw [closed] at isOpen
      cases isOpen

end Units
end AlphaAgent.Shadow
