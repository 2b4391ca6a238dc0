import AlphaAgent.Shadow.PathExits

/-!
# Labels of a path

`IntradayModelTrainingService._group_outcome` labels a path by the level which it
touches first; the profit protection report asks for the stop before the target,
whichever was first. The labels agree exactly when no target is touched before
the stop.
-/

namespace AlphaAgent.Shadow

open ProfitProtection

/-- `IntradayTrainingSample`, without the features on which no label depends. -/
structure IntradayTrainingSample where
  market : Market
  symbol : String
  openedAt : ℤ
  lastMarkedAt : ℤ
  entryPrice : ℚ
  currentPrice : ℚ
  stopLoss : Option ℚ
  takeProfit : Option ℚ
  hypotheticalNotionalInr : ℚ
  hypotheticalPnlInr : ℚ
  hypotheticalPnlPct : ℚ
deriving DecidableEq

/-- What `_group_outcome` returns. -/
inductive GroupOutcome where
  | targetTouched
  | stopTouched
  | timeExitPositive
  | timeExitNegative
  | timeExitFlat
deriving DecidableEq, Repr

def GroupOutcome.value : GroupOutcome → String
  | targetTouched => "TARGET_TOUCHED"
  | stopTouched => "STOP_TOUCHED"
  | timeExitPositive => "TIME_EXIT_POSITIVE"
  | timeExitNegative => "TIME_EXIT_NEGATIVE"
  | timeExitFlat => "TIME_EXIT_FLAT"

namespace IntradayModelTraining

/-- `_sample_from_training_sample`. -/
def sampleFromTrainingSample (sample : ShadowTrainingSample) : IntradayTrainingSample where
  market := sample.market
  symbol := sample.symbol
  openedAt := sample.sampleAt
  lastMarkedAt := sample.sampleAt
  entryPrice := sample.entryPrice
  currentPrice := sample.currentPrice
  stopLoss := sample.metadataJson.assessment.stopLoss
  takeProfit := sample.metadataJson.assessment.takeProfit
  hypotheticalNotionalInr := sample.hypotheticalNotionalInr
  hypotheticalPnlInr := sample.hypotheticalPnlInr
  hypotheticalPnlPct := sample.hypotheticalPnlPct

/-- The loop of `_group_outcome`: the first sample which touches a level. -/
def firstTouch : List IntradayTrainingSample → Option GroupOutcome
  | [] => none
  | sample :: rest =>
    if sample.stopLoss.any (sample.currentPrice ≤ ·) then some .stopTouched
    else if sample.takeProfit.any (· ≤ sample.currentPrice) then some .targetTouched
    else firstTouch rest

/-- The label of a path which touches no level. -/
def timeExit (final : IntradayTrainingSample) : GroupOutcome :=
  if 1 / 1000 < final.hypotheticalPnlPct then .timeExitPositive
  else if final.hypotheticalPnlPct < -(1 / 1000) then .timeExitNegative
  else .timeExitFlat

/-- `_group_outcome`. -/
def groupOutcome (samples : List IntradayTrainingSample) : Except RaisedError GroupOutcome :=
  match firstTouch samples, samples.getLast? with
  | some outcome, _ => .ok outcome
  | none, some final => .ok (timeExit final)
  | none, none => .error ⟨"IndexError", "list index out of range"⟩

/-- The outcome of a group in `_outcome_summary`, which sorts it by its marks. -/
def outcomeOf (group : List IntradayTrainingSample) : Except RaisedError GroupOutcome :=
  groupOutcome (group.insertionSort fun first second => first.lastMarkedAt ≤ second.lastMarkedAt)

/-- The outcome of stored samples. -/
def pathOutcome (path : List ShadowTrainingSample) : Except RaisedError GroupOutcome :=
  outcomeOf (path.map sampleFromTrainingSample)

end IntradayModelTraining

open IntradayModelTraining

section Path

variable {stopLoss takeProfit : ℚ}

/-- All samples of a path have the same levels, which are positive. -/
structure SameLevels (stopLoss takeProfit : ℚ) (path : List ShadowTrainingSample) : Prop where
  stopPositive : 0 < stopLoss
  targetPositive : 0 < takeProfit
  stop : ∀ sample ∈ path, sample.metadataJson.assessment.stopLoss = some stopLoss
  target : ∀ sample ∈ path, sample.metadataJson.assessment.takeProfit = some takeProfit

/-- A path which touches the target touches the stop no later, or never. -/
def StopFirst (stopLoss takeProfit : ℚ) (path : List ShadowTrainingSample) : Prop :=
  ∀ sample ∈ path, takeProfit ≤ sample.currentPrice →
    ∀ other ∈ path, other.currentPrice ≤ stopLoss →
      ∃ earlier ∈ path, earlier.currentPrice ≤ stopLoss ∧ earlier.sampleAt ≤ sample.sampleAt

/-- A sample touches one of the levels. -/
def touches (stopLoss takeProfit : ℚ) (sample : ShadowTrainingSample) : Bool :=
  decide (sample.currentPrice ≤ stopLoss) || decide (takeProfit ≤ sample.currentPrice)

/-- The label which a touch gives. -/
def touchOutcome (stopLoss : ℚ) (sample : ShadowTrainingSample) : GroupOutcome :=
  if sample.currentPrice ≤ stopLoss then .stopTouched else .targetTouched

/-- The loop stops at the first sample which touches a level. -/
theorem firstTouch_eq {path : List ShadowTrainingSample}
    (levels : SameLevels stopLoss takeProfit path) :
    firstTouch (path.map sampleFromTrainingSample) =
      (path.find? (touches stopLoss takeProfit)).map (touchOutcome stopLoss) := by
  have stopPositive := levels.stopPositive
  have targetPositive := levels.targetPositive
  obtain ⟨-, -, stop, target⟩ := levels
  induction path with
  | nil => rfl
  | cons sample rest ih =>
    rw [List.forall_mem_cons] at stop target
    rw [List.map_cons, firstTouch, List.find?_cons]
    simp only [sampleFromTrainingSample, stop.1, target.1, Option.any_some, decide_eq_true_eq,
      touches]
    by_cases stopped : sample.currentPrice ≤ stopLoss
    · simp [stopped, touchOutcome]
    · by_cases reached : takeProfit ≤ sample.currentPrice
      · simp [stopped, reached, touchOutcome]
      · simp only [stopped, reached, if_false, decide_false, Bool.or_self]
        exact ih stop.2 target.2

/-- The samples are labelled in the order of their times. -/
theorem pathOutcome_eq (path : List ShadowTrainingSample) :
    pathOutcome path = groupOutcome ((byTime path).map sampleFromTrainingSample) := by
  have sorted := List.map_insertionSort
    (fun first second : ShadowTrainingSample => first.sampleAt ≤ second.sampleAt)
    (fun first second : IntradayTrainingSample => first.lastMarkedAt ≤ second.lastMarkedAt)
    sampleFromTrainingSample path fun _ _ _ _ => Iff.rfl
  rw [pathOutcome, outcomeOf, byTime, sorted]

theorem timeExit_untouched (final : IntradayTrainingSample) :
    timeExit final ≠ .stopTouched ∧ timeExit final ≠ .targetTouched := by
  unfold timeExit
  split_ifs <;> decide

/-- A path is labelled with a level exactly when its first touch is. -/
theorem groupOutcome_iff {samples : List IntradayTrainingSample} {outcome : GroupOutcome}
    (touch : outcome = .stopTouched ∨ outcome = .targetTouched) :
    groupOutcome samples = .ok outcome ↔ firstTouch samples = some outcome := by
  unfold groupOutcome
  cases firstTouch samples with
  | some found => simp
  | none =>
    cases samples.getLast? with
    | none => simp
    | some final =>
      have untouched := timeExit_untouched final
      rcases touch with rfl | rfl
      · simpa using untouched.1
      · simpa using untouched.2

/-- The report asks for the stop, and then for the target. -/
theorem recommendedExit_levels (stopTouched targetTouched givebackExit booking canLock : Bool)
    (currentPnl peakPnl : ℚ) :
    (recommendedExit stopTouched targetTouched givebackExit booking canLock currentPnl peakPnl =
        .exitStopLoss ↔ stopTouched = true) ∧
      (recommendedExit stopTouched targetTouched givebackExit booking canLock currentPnl peakPnl =
        .exitTakeProfit ↔ stopTouched = false ∧ targetTouched = true) := by
  cases stopTouched with
  | true => simp [recommendedExit]
  | false =>
    cases targetTouched with
    | true => simp [recommendedExit]
    | false =>
      -- What is left asks for neither level.
      have neither : ∀ recommended ∈ [.exitStopLoss, .exitTakeProfit],
          recommendedExit false false givebackExit booking canLock currentPnl peakPnl ≠
            recommended := by
        rw [recommendedExit, if_neg Bool.false_ne_true, if_neg Bool.false_ne_true]
        split_ifs <;> decide
      have noStop := neither .exitStopLoss List.mem_cons_self
      have noTarget := neither .exitTakeProfit (List.mem_cons_of_mem _ List.mem_cons_self)
      exact ⟨iff_of_false noStop Bool.false_ne_true,
        iff_of_false noTarget fun both => Bool.false_ne_true both.2⟩

/-- The same of the decision of a group. -/
theorem decisionOf_levels (settings : ShadowSettings) (day : Day) (market : Market)
    (symbol : String) (first : ShadowTrainingSample) (rest : List ShadowTrainingSample) :
    ((decisionOf settings day market symbol first rest).recommendedShadowExit = .exitStopLoss ↔
        (decisionOf settings day market symbol first rest).stopTouched = true) ∧
      ((decisionOf settings day market symbol first rest).recommendedShadowExit =
          .exitTakeProfit ↔
        (decisionOf settings day market symbol first rest).stopTouched = false ∧
          (decisionOf settings day market symbol first rest).targetTouched = true) :=
  recommendedExit_levels _ _ _ _ _ _ _

variable (settings : ShadowSettings) (day : Day) (market : Market) (symbol : String)
  {path : List ShadowTrainingSample}

/-- The exit which the report recommends on a path. -/
def pathRecommended (path : List ShadowTrainingSample) : Option RecommendedExit :=
  (decisionFromGroup settings day market symbol path).map
    ProfitProtectionDecision.recommendedShadowExit

/-- The report recommends a level exactly where the path touches it at any time,
and the target only where the stop is touched at none. -/
theorem pathRecommended_iff (levels : SameLevels stopLoss takeProfit path) :
    (pathRecommended settings day market symbol path = some .exitStopLoss ↔
        ∃ sample ∈ path, sample.currentPrice ≤ stopLoss) ∧
      (pathRecommended settings day market symbol path = some .exitTakeProfit ↔
        (¬∃ sample ∈ path, sample.currentPrice ≤ stopLoss) ∧
          ∃ sample ∈ path, takeProfit ≤ sample.currentPrice) := by
  have ordered := byTime_perm path
  unfold pathRecommended decisionFromGroup
  cases sorts : byTime path with
  | nil =>
    rw [sorts] at ordered
    simp [ordered.nil_eq.symm]
  | cons first rest =>
    rw [sorts] at ordered
    have latest : rest.getLastD first ∈ path := ordered.mem_iff.mp List.getLastD_mem_cons
    obtain ⟨stops, reaches⟩ := decisionOf_levels settings day market symbol first rest
    have stopTouched : (decisionOf settings day market symbol first rest).stopTouched = true ↔
        ∃ sample ∈ path, sample.currentPrice ≤ stopLoss := by
      simp only [decisionOf, levels.stop _ latest, levels.stopPositive, Option.any_some,
        List.any_eq_true, decide_true, Bool.true_and, decide_eq_true_eq, ordered.mem_iff]
    have targetTouched : (decisionOf settings day market symbol first rest).targetTouched = true ↔
        ∃ sample ∈ path, takeProfit ≤ sample.currentPrice := by
      simp only [decisionOf, levels.target _ latest, levels.targetPositive, Option.any_some,
        List.any_eq_true, decide_true, Bool.true_and, decide_eq_true_eq, ordered.mem_iff]
    rw [← Bool.not_eq_true, stopTouched, targetTouched] at reaches
    rw [stopTouched] at stops
    exact ⟨Option.some_inj.trans stops, Option.some_inj.trans reaches⟩

/-- The first touch of a path by time, for which no other touch is earlier. -/
theorem firstTouch_byTime (levels : SameLevels stopLoss takeProfit path) :
    (firstTouch ((byTime path).map sampleFromTrainingSample) = none ∧
        ∀ sample ∈ path, touches stopLoss takeProfit sample = false) ∨
      ∃ earliest ∈ path, touches stopLoss takeProfit earliest = true ∧
        firstTouch ((byTime path).map sampleFromTrainingSample) =
          some (touchOutcome stopLoss earliest) ∧
        ∀ sample ∈ path, touches stopLoss takeProfit sample = true →
          earliest.sampleAt ≤ sample.sampleAt := by
  have ordered := byTime_perm path
  have sorted := byTime_sorted path
  have sameLevels : SameLevels stopLoss takeProfit (byTime path) :=
    ⟨levels.stopPositive, levels.targetPositive,
      fun sample member => levels.stop sample (ordered.mem_iff.mp member),
      fun sample member => levels.target sample (ordered.mem_iff.mp member)⟩
  rw [firstTouch_eq sameLevels]
  cases found : (byTime path).find? (touches stopLoss takeProfit) with
  | none =>
    refine .inl ⟨rfl, fun sample member => ?_⟩
    exact Bool.not_eq_true _ ▸ List.find?_eq_none.mp found sample (ordered.mem_iff.mpr member)
  | some earliest =>
    obtain ⟨touched, before, after, split, untouched⟩ := List.find?_eq_some_iff_append.mp found
    rw [split] at ordered sorted
    have later := (List.pairwise_cons.mp (List.pairwise_append.mp sorted).2.1).1
    refine .inr ⟨earliest, ordered.mem_iff.mp (by simp), touched, rfl,
      fun sample member touch => ?_⟩
    rcases List.mem_append.mp (ordered.mem_iff.mpr member) with early | onward
    · have quiet := untouched sample early
      rw [touch] at quiet
      cases quiet
    · rcases List.mem_cons.mp onward with rfl | late
      · exact le_rfl
      · exact later sample late

/-- The training label and the report name a level for the same paths. -/
structure LabelsAgree (path : List ShadowTrainingSample) : Prop where
  stop : pathOutcome path = .ok .stopTouched ↔
    pathRecommended settings day market symbol path = some .exitStopLoss
  target : pathOutcome path = .ok .targetTouched ↔
    pathRecommended settings day market symbol path = some .exitTakeProfit

/-- The labels of a path with one stop, one target and distinct times agree if and
only if it does not touch the target before the stop. -/
theorem labelsAgree_iff (levels : SameLevels stopLoss takeProfit path)
    (distinct : (path.map ShadowTrainingSample.sampleAt).Nodup) :
    LabelsAgree settings day market symbol path ↔ StopFirst stopLoss takeProfit path := by
  obtain ⟨stops, reaches⟩ := pathRecommended_iff settings day market symbol levels
  have labels : LabelsAgree settings day market symbol path ↔ _ ∧ _ :=
    ⟨fun agree => ⟨agree.stop, agree.target⟩, fun ⟨stop, target⟩ => ⟨stop, target⟩⟩
  rw [labels, stops, reaches, pathOutcome_eq, groupOutcome_iff (.inl rfl),
    groupOutcome_iff (.inr rfl)]
  rcases firstTouch_byTime levels with
    ⟨none, untouched⟩ | ⟨earliest, member, touched, first, least⟩
  · simp only [touches, Bool.or_eq_false_iff, decide_eq_false_iff_not] at untouched
    have stays : ¬∃ sample ∈ path, sample.currentPrice ≤ stopLoss :=
      fun ⟨sample, found, stopped⟩ => (untouched sample found).1 stopped
    have short : ¬∃ sample ∈ path, takeProfit ≤ sample.currentPrice :=
      fun ⟨sample, found, reached⟩ => (untouched sample found).2 reached
    rw [none]
    refine iff_of_true ⟨iff_of_false nofun stays, iff_of_false nofun fun both => short both.2⟩ ?_
    exact fun sample found reached => absurd ⟨sample, found, reached⟩ short
  · simp only [touches, Bool.or_eq_true, decide_eq_true_eq] at touched least
    rw [first, touchOutcome]
    by_cases stopped : earliest.currentPrice ≤ stopLoss
    · rw [if_pos stopped]
      have some : ∃ sample ∈ path, sample.currentPrice ≤ stopLoss := ⟨earliest, member, stopped⟩
      refine iff_of_true ⟨iff_of_true rfl some, iff_of_false nofun fun both => both.1 some⟩ ?_
      exact fun sample found reached _ _ _ =>
        ⟨earliest, member, stopped, least sample found (.inr reached)⟩
    · rw [if_neg stopped]
      have reached : takeProfit ≤ earliest.currentPrice := touched.resolve_left stopped
      have some : ∃ sample ∈ path, takeProfit ≤ sample.currentPrice := ⟨earliest, member, reached⟩
      constructor
      · rintro ⟨stop, -⟩ sample - - other found below
        cases stop.mpr ⟨other, found, below⟩
      · intro stopFirst
        have stays : ¬∃ sample ∈ path, sample.currentPrice ≤ stopLoss := by
          rintro ⟨other, found, below⟩
          obtain ⟨early, earlyMember, earlyStopped, before⟩ :=
            stopFirst earliest member reached other found below
          have same : early = earliest :=
            List.inj_on_of_nodup_map distinct earlyMember member
              (le_antisymm before (least early earlyMember (.inl earlyStopped)))
          exact stopped (same ▸ earlyStopped)
        exact ⟨iff_of_false nofun stays, iff_of_true rfl ⟨stays, some⟩⟩

end Path

/-- A mark of ten shares bought at 100, with the stop at 95 and the target at 110. -/
def markedAt (sampleAt : ℤ) (price : ℚ) : ShadowTrainingSample where
  observationId := "obs-1"
  market := .india
  symbol := "RELIANCE"
  signalId := "sig-1"
  sampleAt
  entryPrice := 100
  currentPrice := price
  hypotheticalQuantity := 10
  hypotheticalNotionalInr := 1000
  hypotheticalPnlInr := (price - 100) * 10
  hypotheticalPnlPct := (price - 100) / 100
  sampleKind := .intradayMark
  metadataJson := ⟨1, ⟨.buy, some 95, some 110⟩, ⟨.buy, some 95, some 110⟩, none⟩

theorem sameLevels_markedAt (prices : List (ℤ × ℚ)) :
    SameLevels 95 110 (prices.map fun mark => markedAt mark.1 mark.2) where
  stopPositive := by norm_num
  targetPositive := by norm_num
  stop := List.forall_mem_map.mpr fun _ _ => rfl
  target := List.forall_mem_map.mpr fun _ _ => rfl

theorem labelsAgree_iff_stopped :
    LabelsAgree {} 20586 .india "RELIANCE"
        ([(0, 100), (60, 94), (120, 112)].map fun mark => markedAt mark.1 mark.2) ↔
      StopFirst 95 110 ([(0, 100), (60, 94), (120, 112)].map fun mark => markedAt mark.1 mark.2) :=
  labelsAgree_iff _ _ _ _ (sameLevels_markedAt _) (by decide)

/-- A path which reaches its target and then falls to its stop is labelled with the
target, and the report asks to take the loss. -/
theorem labels_disagree : ¬ ∀ (settings : ShadowSettings) (day : Day) (market : Market)
    (symbol : String) (stopLoss takeProfit : ℚ) (path : List ShadowTrainingSample),
    SameLevels stopLoss takeProfit path → (path.map ShadowTrainingSample.sampleAt).Nodup →
      LabelsAgree settings day market symbol path := by
  intro agree
  have same := agree {} 20586 .india "RELIANCE" 95 110
    ([(0, 100), (60, 112), (120, 94)].map fun mark => markedAt mark.1 mark.2)
    (sameLevels_markedAt _) (by decide)
  have target : pathOutcome
      ([(0, 100), (60, 112), (120, 94)].map fun mark => markedAt mark.1 mark.2) =
        .ok .targetTouched := by decide +kernel
  have recommended : pathRecommended {} 20586 .india "RELIANCE"
      ([(0, 100), (60, 112), (120, 94)].map fun mark => markedAt mark.1 mark.2) =
        some .exitStopLoss := by decide +kernel
  have taken := same.target.mp target
  rw [recommended] at taken
  cases taken

end AlphaAgent.Shadow
