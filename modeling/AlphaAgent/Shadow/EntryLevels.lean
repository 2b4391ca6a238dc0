import AlphaAgent.Shadow.Invariants

/-!
# Levels of the entry

The exit policy compares every mark with the stop and target of the assessment
under which the observation was opened, and closes at both. So what is marked
and still open lies strictly between them, whatever later assessments say.
-/

namespace AlphaAgent.Shadow

/-- An observation of a positive size lies strictly between the positive levels of its entry. -/
def WithinLevels (row : ShadowObservation) : Prop :=
  0 < row.hypotheticalQuantity → ∀ stopLoss takeProfit,
    row.metadataJson.entryAssessment.stopLoss = some stopLoss →
    row.metadataJson.entryAssessment.takeProfit = some takeProfit →
    0 < stopLoss → 0 < takeProfit → stopLoss < row.currentPrice ∧ row.currentPrice < takeProfit

/-- The observation has a mark among the samples after the first ones. -/
def MarkedSince (count : ℕ) (tables : Database) (id : String) : Prop :=
  ∃ sample ∈ tables.samples.drop count,
    sample.observationId = id ∧ sample.sampleKind = .intradayMark

/-- What the exit service leaves open lies within its levels. -/
theorem withinLevels_of_stays {settings : ShadowSettings} {row : ShadowObservation}
    (entered : 0 < row.entryPrice) (priced : 0 < row.currentPrice)
    (stays : (evaluateObservation settings row).action ∉ closeActions) : WithinLevels row := by
  intro sized stopLoss takeProfit hasStop hasTarget stopPositive targetPositive
  simp only [evaluateObservation, hasStop, hasTarget] at stays
  rw [if_neg (by push Not; exact ⟨entered, priced⟩), if_neg (not_le.mpr sized),
    if_neg (by push Not; exact ⟨stopPositive, targetPositive⟩)] at stays
  constructor
  · by_contra low
    rw [if_pos (not_lt.mp low)] at stays
    exact stays (by simp [closeActions])
  · by_contra high
    by_cases low : row.currentPrice ≤ stopLoss
    · rw [if_pos low] at stays
      exact stays (by simp [closeActions])
    · rw [if_neg low, if_pos (not_lt.mp high)] at stays
      exact stays (by simp [closeActions])

/-- Where exits are enabled, what a turn leaves open the exit service leaves open. -/
theorem stays_of_isOpen {cycle : Cycle} {samples : List ShadowTrainingSample}
    {observation : ShadowObservation} {turn : Turn} {assessment : Assessment}
    (enabled : cycle.settings.intradayShadowExitEnabled = true)
    (isOpen : (recordedRow cycle samples observation turn assessment).isOpen = true) :
    recordedRow cycle samples observation turn assessment = observation ∧
      (evaluateObservation cycle.exitSettings observation).action ∉ closeActions := by
  rw [recordedRow, recordExit] at isOpen ⊢
  by_cases exits : Exits cycle samples observation
  · rw [if_pos exits] at isOpen
    cases isOpen
  · rw [if_neg exits] at isOpen ⊢
    refine ⟨rfl, fun closes => exits ⟨enabled, isOpen, ?_⟩⟩
    rw [exitDecision, if_pos closes]
    exact closes

section Cycle

variable {cycle : Cycle} {before after : Database} {count : ℕ}

/-- Observations which are open and marked since lie within their levels. -/
def Guarded (count : ℕ) (tables : Database) : Prop :=
  ∀ row ∈ tables.observations, row.isOpen = true → MarkedSince count tables row.id →
    WithinLevels row

/-- A mark of an observation which is not among the new samples is an earlier one. -/
theorem MarkedSince.earlier {added : List ShadowTrainingSample} {id : String}
    (marked : MarkedSince count after id) (grown : after.samples = before.samples ++ added)
    (others : ∀ sample ∈ added, sample.observationId ≠ id) : MarkedSince count before id := by
  obtain ⟨sample, member, owner, kind⟩ := marked
  rw [grown, List.drop_append] at member
  rcases List.mem_append.mp member with old | recorded
  · exact ⟨sample, old, owner, kind⟩
  · exact absurd owner (others sample (List.mem_of_mem_drop recorded))

/-- A turn with exits enabled keeps the observations guarded. -/
theorem TurnEffect.guarded {turn : Turn} (effect : TurnEffect cycle turn before after)
    (enabled : cycle.settings.intradayShadowExitEnabled = true)
    (entered : ∀ row ∈ before.observations, 0 < row.entryPrice)
    (guarded : Guarded count before) : Guarded count after := by
  intro row member isOpen marked
  cases effect.row member with
  | kept old samples others => exact guarded row old isOpen (marked.earlier samples others)
  | opened quoted positive new fresh recorded =>
    rw [recorded] at isOpen ⊢
    obtain ⟨same, stays⟩ := stays_of_isOpen enabled isOpen
    rw [same]
    subst new
    exact withinLevels_of_stays positive positive stays
  | @marked _ _ earlier _ quoted positive held wasOpen market new recorded =>
    rw [recorded] at isOpen ⊢
    obtain ⟨same, stays⟩ := stays_of_isOpen enabled isOpen
    rw [same]
    subst new
    exact withinLevels_of_stays (entered earlier held) positive stays

/-- After the turns of a cycle with exits enabled, what it marked is guarded. -/
theorem CycleSteps.guarded (steps : CycleSteps cycle before after) (lifecycle : Lifecycle before)
    (enabled : cycle.settings.intradayShadowExitEnabled = true) {cycles : List Cycle}
    (isCycle : cycle ∈ cycles) (sourced : Sourced cycles before) :
    Guarded before.samples.length after := by
  obtain ⟨closes, grown, exits⟩ := opening_samples before cycle
  have opening : Guarded before.samples.length (before.opening cycle) := by
    rintro row member isOpen ⟨sample, recent, owner, kind⟩
    rw [grown, List.drop_left] at recent
    rw [exits sample recent] at kind
    cases kind
  have ends := steps.keeps
      (fun tables => Sourced cycles tables ∧ Guarded before.samples.length tables)
    ?_ (lifecycle.opening cycle).1 ⟨sourced.opening lifecycle, opening⟩
  · exact ends.2
  · intro turn isTurn before after _ holds effect
    have entered : ∀ row ∈ before.observations, 0 < row.entryPrice := by
      intro row member
      obtain ⟨_, _, _, _, opened⟩ := holds.1 row member
      exact opened.positive
    exact ⟨effect.sourced isCycle isTurn holds.1, effect.guarded enabled entered holds.2⟩

end Cycle

end AlphaAgent.Shadow
