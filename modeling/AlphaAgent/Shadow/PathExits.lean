import AlphaAgent.Shadow.ProfitProtection

/-!
# Live exits and the report on one path

The exit policy compares each mark with the levels and with the samples before
it; the report reads the whole path afterwards. Both come down to the same four
conditions, as long as no earlier sample touched a level: what is at or below the
current PnL cannot be the peak of a giveback.
-/

namespace AlphaAgent.Shadow

open ProfitProtection

/-- The exit policy on an observation, given its earlier samples by time. -/
def liveDecision (settings : ShadowSettings) (observation : ShadowObservation)
    (path : List ShadowTrainingSample) : ShadowExitDecision :=
  let decision := evaluateObservation settings observation
  if decision.action ∈ closeActions then decision
  else (profitPathExitDecision settings observation path).getD decision

/-- The action, where it closes an observation on a mark. -/
def closing (action : ExitAction) : Option ExitAction :=
  if action ∈ closeActions then some action else none

/-- The exit for which four conditions call, in their priority. -/
def exitOf (stopTouched targetTouched booking givesBack : Prop) [Decidable stopTouched]
    [Decidable targetTouched] [Decidable booking] [Decidable givesBack] : Option ExitAction :=
  if stopTouched then some .exitStopLoss
  else if targetTouched then some .exitTakeProfit
  else if booking then some .exitProfitBooking
  else if givesBack then some .exitProfitGiveback
  else none

section Conditions

variable {stopTouched targetTouched booking givesBack : Prop} [Decidable stopTouched]
  [Decidable targetTouched] [Decidable booking] [Decidable givesBack]

theorem exitOf_eq_none : exitOf stopTouched targetTouched booking givesBack = none ↔
    ¬stopTouched ∧ ¬targetTouched ∧ ¬booking ∧ ¬givesBack := by
  rw [exitOf]
  split_ifs <;> simp_all

/-- A giveback comes last: it changes nothing where another exit is due. -/
theorem exitOf_giveback (due : exitOf stopTouched targetTouched booking False ≠ none) :
    exitOf stopTouched targetTouched booking givesBack =
      exitOf stopTouched targetTouched booking False := by
  rw [exitOf] at due ⊢
  rw [exitOf]
  split_ifs at due ⊢ <;> simp_all

theorem exitOf_congr {stopTouched' targetTouched' booking' givesBack' : Prop}
    [Decidable stopTouched'] [Decidable targetTouched'] [Decidable booking']
    [Decidable givesBack'] (stop : stopTouched ↔ stopTouched')
    (target : targetTouched ↔ targetTouched') (books : booking ↔ booking')
    (gives : givesBack ↔ givesBack') :
    exitOf stopTouched targetTouched booking givesBack =
      exitOf stopTouched' targetTouched' booking' givesBack' := by
  simp only [exitOf, stop, target, books, gives]

end Conditions

section Peak

/-- The peak of samples, where there are some. -/
def peakOf : List ShadowTrainingSample → Option ShadowTrainingSample
  | [] => none
  | first :: rest => some (peakSample first rest)

theorem peakSample_mem (first : ShadowTrainingSample) (rest : List ShadowTrainingSample) :
    peakSample first rest ∈ first :: rest := by
  induction rest generalizing first with
  | nil => exact List.mem_cons_self
  | cons sample rest ih =>
    rw [peakSample]
    split
    · exact List.mem_cons_of_mem _ (ih sample)
    · rcases List.mem_cons.mp (ih first) with same | later
      · rw [same]
        exact List.mem_cons_self
      · exact List.mem_cons_of_mem _ (List.mem_cons_of_mem _ later)

theorem le_peakSample (first : ShadowTrainingSample) (rest : List ShadowTrainingSample) :
    ∀ sample ∈ first :: rest,
      sample.hypotheticalPnlInr ≤ (peakSample first rest).hypotheticalPnlInr := by
  induction rest generalizing first with
  | nil => simp [peakSample]
  | cons next rest ih =>
    rw [peakSample]
    split
    · next rises =>
      have above := ih next
      intro sample member
      rcases List.mem_cons.mp member with rfl | later
      · exact rises.le.trans (above next List.mem_cons_self)
      · exact above sample later
    · next falls =>
      have above := ih first
      intro sample member
      rcases List.mem_cons.mp member with rfl | later
      · exact above sample List.mem_cons_self
      · rcases List.mem_cons.mp later with rfl | last
        · exact (not_lt.mp falls).trans (above first List.mem_cons_self)
        · exact above sample (List.mem_cons_of_mem _ last)

/-- The samples above a PnL. -/
def above (pnl : ℚ) (samples : List ShadowTrainingSample) : List ShadowTrainingSample :=
  samples.filter fun sample => pnl < sample.hypotheticalPnlInr

/-- A peak above a PnL is the peak of what is above it. -/
theorem peakOf_above {pnl : ℚ} {first : ShadowTrainingSample} {rest : List ShadowTrainingSample}
    (high : pnl < (peakSample first rest).hypotheticalPnlInr) :
    peakOf (above pnl (first :: rest)) = some (peakSample first rest) := by
  induction rest generalizing first with
  | nil =>
    rw [peakSample] at high
    simp [above, peakOf, peakSample, high]
  | cons next rest ih =>
    rw [peakSample] at high ⊢
    rw [← ih high]
    by_cases firstAbove : pnl < first.hypotheticalPnlInr
    · by_cases nextAbove : pnl < next.hypotheticalPnlInr
      · split
        · next rises => simp [above, peakOf, peakSample, firstAbove, nextAbove, rises]
        · next falls => simp [above, peakOf, peakSample, firstAbove, nextAbove, falls]
      · have falls : ¬first.hypotheticalPnlInr < next.hypotheticalPnlInr :=
          fun rises => nextAbove (firstAbove.trans rises)
        simp [above, falls, firstAbove, nextAbove]
    · by_cases nextAbove : pnl < next.hypotheticalPnlInr
      · have rises : first.hypotheticalPnlInr < next.hypotheticalPnlInr :=
          (not_lt.mp firstAbove).trans_lt nextAbove
        simp [above, rises, firstAbove, nextAbove]
      · split
        · simp [above, firstAbove, nextAbove]
        · simp [above, firstAbove, nextAbove]

variable {settings : ShadowSettings} {pnl : ℚ}

/-- The PnL has given back enough of a peak which a lock could protect. -/
def GivesBack (settings : ShadowSettings) (pnl : ℚ) (peak : ShadowTrainingSample) : Prop :=
  canLockProfit settings peak = true ∧ 0 < peak.hypotheticalPnlInr ∧
    settings.intradayProfitGivebackExitPct ≤
      max (peak.hypotheticalPnlInr - pnl) 0 / peak.hypotheticalPnlInr

instance (peak : ShadowTrainingSample) : Decidable (GivesBack settings pnl peak) :=
  inferInstanceAs (Decidable (_ ∧ _))

/-- Only a peak above the PnL is given back from. -/
theorem GivesBack.above {peak : ShadowTrainingSample}
    (threshold : 0 < settings.intradayProfitGivebackExitPct)
    (givesBack : GivesBack settings pnl peak) : pnl < peak.hypotheticalPnlInr := by
  obtain ⟨-, positive, enough⟩ := givesBack
  by_contra low
  have nothing : max (peak.hypotheticalPnlInr - pnl) 0 = 0 :=
    max_eq_right (sub_nonpos.mpr (not_lt.mp low))
  rw [nothing, zero_div] at enough
  exact absurd enough (not_le.mpr threshold)

/-- The samples were at a peak from which the PnL gives back. -/
def PathGivesBack (settings : ShadowSettings) (pnl : ℚ) (samples : List ShadowTrainingSample) :
    Prop :=
  ∃ peak ∈ peakOf samples, GivesBack settings pnl peak

/-- Giving back depends only on what is above the PnL. -/
theorem pathGivesBack_of_above (threshold : 0 < settings.intradayProfitGivebackExitPct)
    {samples others : List ShadowTrainingSample} (same : above pnl samples = above pnl others)
    (givesBack : PathGivesBack settings pnl samples) : PathGivesBack settings pnl others := by
  obtain ⟨peak, isPeak, falls⟩ := givesBack
  have high := falls.above threshold
  cases samples with
  | nil => cases isPeak
  | cons first rest =>
    obtain rfl : peakSample first rest = peak := Option.some.inj isPeak
    have highest := peakOf_above high
    rw [same] at highest
    cases others with
    | nil => cases highest
    | cons other more =>
      -- The peak of the others is above the PnL, since the first peak is among them.
      have member : peakSample first rest ∈ other :: more := by
        have among : peakSample first rest ∈ Shadow.above pnl (other :: more) := by
          cases remaining : Shadow.above pnl (other :: more) with
          | nil =>
            rw [remaining] at highest
            cases highest
          | cons head tail =>
            rw [remaining] at highest
            rw [← Option.some.inj highest]
            exact peakSample_mem head tail
        exact List.mem_of_mem_filter among
      have alsoHigh := high.trans_le (le_peakSample other more _ member)
      rw [peakOf_above alsoHigh] at highest
      exact ⟨peakSample other more, rfl, Option.some.inj highest ▸ falls⟩

instance (samples : List ShadowTrainingSample) : Decidable (PathGivesBack settings pnl samples) :=
  inferInstanceAs (Decidable (∃ peak ∈ peakOf samples, _))

end Peak

/-- The positive levels of an entry. -/
structure Levels (row : ShadowObservation) (stopLoss takeProfit : ℚ) : Prop where
  stop : row.metadataJson.entryAssessment.stopLoss = some stopLoss
  target : row.metadataJson.entryAssessment.takeProfit = some takeProfit
  stopPositive : 0 < stopLoss
  targetPositive : 0 < takeProfit

/-- An observation with a price and a size, whose return is its PnL over its notional. -/
structure Sized (row : ShadowObservation) : Prop where
  entered : 0 < row.entryPrice
  priced : 0 < row.currentPrice
  quantity : 0 < row.hypotheticalQuantity
  notional : 0 < row.hypotheticalNotionalInr
  pct : row.hypotheticalPnlPct = row.hypotheticalPnlInr / row.hypotheticalNotionalInr

section Live

variable {settings : ShadowSettings} {row : ShadowObservation} {stopLoss takeProfit : ℚ}

/-- The profit of an observation is to be booked. -/
def Booked (settings : ShadowSettings) (row : ShadowObservation) (takeProfit : ℚ) : Prop :=
  Shadow.profitBookingTriggered settings row.hypotheticalPnlInr row.hypotheticalPnlPct
    (targetProgress row.entryPrice row.currentPrice takeProfit) = true

instance : Decidable (Booked settings row takeProfit) := inferInstanceAs (Decidable (_ = true))

/-- The two services measure the way to the target alike. -/
theorem safeRatio_eq_targetProgress {entry current : ℚ} (entered : 0 < entry) (takeProfit : ℚ) :
    safeRatio (current - entry) (max (takeProfit - entry) 0) =
      targetProgress entry current takeProfit := by
  rw [safeRatio, targetProgress, Option.bind_some]
  by_cases ahead : entry < takeProfit
  · have distance : max (takeProfit - entry) 0 = takeProfit - entry :=
      max_eq_left (sub_nonneg.mpr ahead.le)
    rw [distance, if_neg (not_le.mpr (sub_pos.mpr ahead)),
      if_neg (by push Not; exact ⟨entered, ahead⟩)]
  · have distance : max (takeProfit - entry) 0 = 0 :=
      max_eq_right (sub_nonpos.mpr (not_lt.mp ahead))
    rw [distance, if_pos le_rfl, if_pos (.inr (not_lt.mp ahead))]

/-- What the exit service closes, before the path is looked at. -/
theorem closing_evaluateObservation (sized : Sized row) (levels : Levels row stopLoss takeProfit) :
    closing (evaluateObservation settings row).action =
      exitOf (row.currentPrice ≤ stopLoss) (takeProfit ≤ row.currentPrice)
        (Booked settings row takeProfit) False := by
  simp only [evaluateObservation, levels.stop, levels.target]
  rw [if_neg (by push Not; exact ⟨sized.entered, sized.priced⟩), if_neg (not_le.mpr sized.quantity),
    if_neg (by push Not; exact ⟨levels.stopPositive, levels.targetPositive⟩),
    safeRatio_eq_targetProgress sized.entered, if_pos sized.notional, ← sized.pct]
  by_cases stopped : row.currentPrice ≤ stopLoss
  · rw [if_pos stopped, exitOf, if_pos stopped]
    rfl
  · by_cases reached : takeProfit ≤ row.currentPrice
    · rw [if_neg stopped, if_pos reached, exitOf, if_neg stopped, if_pos reached]
      rfl
    · by_cases booked : Booked settings row takeProfit
      · have books := booked
        rw [Booked] at books
        rw [if_neg stopped, if_neg reached, if_pos books, exitOf, if_neg stopped, if_neg reached,
          if_pos booked]
        rfl
      · have waits := booked
        rw [Booked] at waits
        rw [if_neg stopped, if_neg reached, if_neg waits, exitOf, if_neg stopped, if_neg reached,
          if_neg booked, if_neg not_false]
        -- None of the actions which are left closes an observation.
        split_ifs <;> rfl

/-- The profit path looks for a peak from which the PnL gives back. It wants two
samples, but where there is only one it has no profit. -/
theorem profitPathExitDecision_action {path : List ShadowTrainingSample}
    (start : ∀ only, path = [only] → only.hypotheticalPnlInr = 0) :
    (profitPathExitDecision settings row path).map ShadowExitDecision.action =
      if PathGivesBack settings row.hypotheticalPnlInr path then some .exitProfitGiveback
      else none := by
  have few : ∀ peak, peakOf path = some peak → peak.hypotheticalPnlInr = 0 →
      ¬PathGivesBack settings row.hypotheticalPnlInr path := by
    rintro peak isPeak flat ⟨other, isOther, _, positive, _⟩
    obtain rfl := Option.some.inj (isPeak.symm.trans isOther)
    rw [flat] at positive
    exact lt_irrefl 0 positive
  match path with
  | [] =>
    rw [if_neg (by rintro ⟨peak, isPeak, _⟩; cases isPeak)]
    rfl
  | [first] =>
    rw [if_neg (few first rfl (start first rfl))]
    rfl
  | first :: second :: rest =>
    have isPeak : peakOf (first :: second :: rest) = some (peakSample first (second :: rest)) := rfl
    by_cases givesBack : GivesBack settings row.hypotheticalPnlInr
        (peakSample first (second :: rest))
    · obtain ⟨locks, positive, enough⟩ := givesBack
      have locked := locks
      simp only [canLockProfit, Bool.or_eq_true, decide_eq_true_eq] at locked
      rw [if_pos ⟨_, isPeak, locks, positive, enough⟩, profitPathExitDecision]
      simp only [positive, if_true, enough, locked, and_self, Option.map_some]
    · rw [if_neg]
      · rw [profitPathExitDecision, if_neg]
        · rfl
        · rintro ⟨locks, positive, enough⟩
          rw [if_pos positive] at enough
          refine givesBack ⟨?_, positive, enough⟩
          simpa [canLockProfit] using locks
      · rintro ⟨peak, found, falls⟩
        obtain rfl := Option.some.inj (isPeak.symm.trans found)
        exact givesBack falls

/-- What the exit policy closes on a mark. -/
theorem closing_liveDecision (sized : Sized row) (levels : Levels row stopLoss takeProfit)
    {path : List ShadowTrainingSample}
    (start : ∀ first ∈ path.head?, first.hypotheticalPnlInr = 0) :
    closing (liveDecision settings row path).action =
      exitOf (row.currentPrice ≤ stopLoss) (takeProfit ≤ row.currentPrice)
        (Booked settings row takeProfit)
        (PathGivesBack settings row.hypotheticalPnlInr path) := by
  have service : closing (evaluateObservation settings row).action = _ :=
    closing_evaluateObservation sized levels
  have along : (profitPathExitDecision settings row path).map ShadowExitDecision.action = _ :=
    profitPathExitDecision_action fun only alone => start only (by rw [alone]; rfl)
  rw [liveDecision]
  by_cases closes : (evaluateObservation settings row).action ∈ closeActions
  · rw [if_pos closes, service]
    refine (exitOf_giveback ?_).symm
    rw [← service, closing, if_pos closes]
    exact Option.some_ne_none _
  · rw [if_neg closes]
    rw [closing, if_neg closes] at service
    obtain ⟨stopped, reached, booked, -⟩ := exitOf_eq_none.mp service.symm
    rw [exitOf, if_neg stopped, if_neg reached, if_neg booked]
    by_cases givesBack : PathGivesBack settings row.hypotheticalPnlInr path
    · rw [if_pos givesBack, Option.map_eq_some_iff] at along
      obtain ⟨decision, found, action⟩ := along
      rw [found, Option.getD_some, action, if_pos givesBack]
      rfl
    · rw [if_neg givesBack, Option.map_eq_none_iff] at along
      rw [along, Option.getD_none, if_neg givesBack, closing, if_neg closes]

end Live

/-- A sample has the values of an observation which the report reads. -/
structure Mirrors (row : ShadowObservation) (sample : ShadowTrainingSample) : Prop where
  currentPrice : sample.currentPrice = row.currentPrice
  quantity : sample.hypotheticalQuantity = row.hypotheticalQuantity
  pnl : sample.hypotheticalPnlInr = row.hypotheticalPnlInr
  pct : sample.hypotheticalPnlPct = row.hypotheticalPnlPct
  assessment : sample.metadataJson.assessment = row.metadataJson.entryAssessment

/-- The recommendation is this exit, or none of the four where there is no exit. -/
def Recommends (exit : Option ExitAction) (recommended : RecommendedExit) : Prop :=
  (∀ action ∈ exit, recommended.value = action.value) ∧
    (exit = none → recommended.value ∉ closeActions.map ExitAction.value)

theorem recommends_some {action : ExitAction} {recommended : RecommendedExit}
    (same : recommended.value = action.value) : Recommends (some action) recommended := by
  refine ⟨fun other isOther => ?_, nofun⟩
  rw [← Option.some.inj isOther]
  exact same

theorem recommends_none {recommended : RecommendedExit}
    (stays : recommended.value ∉ closeActions.map ExitAction.value) : Recommends none recommended :=
  ⟨nofun, fun _ => stays⟩

/-- The report has the priority of the exits. -/
theorem recommendedExit_recommends (stopTouched targetTouched givebackExit booking canLock : Bool)
    (currentPnl peakPnl : ℚ) :
    Recommends (exitOf (stopTouched = true) (targetTouched = true) (booking = true)
      (givebackExit = true))
      (recommendedExit stopTouched targetTouched givebackExit booking canLock currentPnl
        peakPnl) := by
  rw [recommendedExit, exitOf]
  by_cases stopped : stopTouched = true
  · rw [if_pos stopped, if_pos stopped]
    exact recommends_some rfl
  · by_cases reached : targetTouched = true
    · rw [if_neg stopped, if_neg stopped, if_pos reached, if_pos reached]
      exact recommends_some rfl
    · by_cases booked : booking = true
      · rw [if_neg stopped, if_neg stopped, if_neg reached, if_neg reached, if_pos booked,
          if_pos booked]
        exact recommends_some rfl
      · by_cases givesBack : givebackExit = true
        · rw [if_neg stopped, if_neg stopped, if_neg reached, if_neg reached, if_neg booked,
            if_neg booked, if_pos givesBack, if_pos givesBack]
          exact recommends_some rfl
        · rw [if_neg stopped, if_neg stopped, if_neg reached, if_neg reached, if_neg booked,
            if_neg booked, if_neg givesBack, if_neg givesBack]
          apply recommends_none
          split_ifs
          · decide
          · decide
          · decide
          · decide
          · decide

section Report

variable {settings : ShadowSettings} {row : ShadowObservation} {stopLoss takeProfit : ℚ}

/-- A level is touched on the whole path if and only if the last price touches it. -/
theorem touched_iff (touches : ℚ → Prop) {samples path : List ShadowTrainingSample}
    {latest : ShadowTrainingSample} (member : latest ∈ samples) (mirrors : Mirrors row latest)
    (values : ∀ sample ∈ samples, sample ∈ path ∨ Mirrors row sample)
    (inside : ∀ sample ∈ path, ¬touches sample.currentPrice) :
    touches row.currentPrice ↔ ∃ sample ∈ samples, touches sample.currentPrice := by
  constructor
  · intro now
    exact ⟨latest, member, mirrors.currentPrice ▸ now⟩
  · rintro ⟨sample, sampleMember, touched⟩
    rcases values sample sampleMember with earlier | recorded
    · exact absurd touched (inside sample earlier)
    · exact recorded.currentPrice ▸ touched

/-- The report checks a give-back as a share of the peak, where there is one. -/
theorem givesBack_iff {pnl : ℚ} {peak : ShadowTrainingSample} :
    GivesBack settings pnl peak ↔
      (canLockProfit settings peak && decide (0 < peak.hypotheticalPnlInr) &&
        decide (settings.intradayProfitGivebackExitPct ≤
          if 0 < peak.hypotheticalPnlInr then
            max (peak.hypotheticalPnlInr - pnl) 0 / peak.hypotheticalPnlInr
          else 0)) = true := by
  simp only [GivesBack, Bool.and_eq_true, decide_eq_true_eq, and_assoc]
  refine and_congr_right fun _ => and_congr_right fun positive => ?_
  rw [if_pos positive]

/-- What the report recommends on a path whose last samples record the observation. -/
theorem decisionOf_recommends (levels : Levels row stopLoss takeProfit)
    (threshold : 0 < settings.intradayProfitGivebackExitPct)
    {path : List ShadowTrainingSample} {first : ShadowTrainingSample}
    {rest : List ShadowTrainingSample} (latest : Mirrors row (rest.getLastD first))
    (entered : first.entryPrice = row.entryPrice)
    (values : ∀ sample ∈ first :: rest, sample ∈ path ∨ Mirrors row sample)
    (inside : ∀ sample ∈ path, stopLoss < sample.currentPrice ∧ sample.currentPrice < takeProfit)
    (same : above row.hypotheticalPnlInr (first :: rest) = above row.hypotheticalPnlInr path)
    (day : Day) (market : Market) (symbol : String) :
    Recommends
      (exitOf (row.currentPrice ≤ stopLoss) (takeProfit ≤ row.currentPrice)
        (Booked settings row takeProfit) (PathGivesBack settings row.hypotheticalPnlInr path))
      (decisionOf settings day market symbol first rest).recommendedShadowExit := by
  have last : rest.getLastD first ∈ first :: rest := List.getLastD_mem_cons
  have stopped : row.currentPrice ≤ stopLoss ↔
      (decisionOf settings day market symbol first rest).stopTouched = true := by
    rw [touched_iff (· ≤ stopLoss) last latest values
      fun sample member => not_le.mpr (inside sample member).1]
    simp only [decisionOf, latest.assessment, levels.stop, levels.stopPositive, Option.any_some,
      List.any_eq_true, decide_true, Bool.true_and, decide_eq_true_eq]
  have reached : takeProfit ≤ row.currentPrice ↔
      (decisionOf settings day market symbol first rest).targetTouched = true := by
    rw [touched_iff (takeProfit ≤ ·) last latest values
      fun sample member => not_le.mpr (inside sample member).2]
    simp only [decisionOf, latest.assessment, levels.target, levels.targetPositive, Option.any_some,
      List.any_eq_true, decide_true, Bool.true_and, decide_eq_true_eq]
  have booked : Booked settings row takeProfit ↔
      ProfitProtection.profitBookingTriggered settings (rest.getLastD first).hypotheticalPnlInr
        (rest.getLastD first).hypotheticalPnlPct
        (targetProgress first.entryPrice (rest.getLastD first).currentPrice
          (rest.getLastD first).metadataJson.assessment.takeProfit) = true := by
    rw [ProfitProtection.profitBookingTriggered, latest.pnl, latest.pct, latest.currentPrice,
      latest.assessment, levels.target, entered, Booked]
  have givesBack : PathGivesBack settings row.hypotheticalPnlInr path ↔ GivesBack settings
      (rest.getLastD first).hypotheticalPnlInr (peakSample first rest) := by
    rw [latest.pnl]
    constructor
    · intro falls
      obtain ⟨peak, isPeak, falls⟩ := pathGivesBack_of_above threshold same.symm falls
      exact Option.some.inj isPeak ▸ falls
    · intro falls
      exact pathGivesBack_of_above threshold same ⟨_, rfl, falls⟩
  rw [exitOf_congr stopped reached booked (givesBack.trans givesBack_iff)]
  exact recommendedExit_recommends _ _ _ _ _ _ _

/-- Sorted samples of distinct times do not depend on the order in which they came. -/
theorem eq_of_sorted {first second : List ShadowTrainingSample} (same : first.Perm second)
    (sortedFirst : first.Pairwise (·.sampleAt ≤ ·.sampleAt))
    (sortedSecond : second.Pairwise (·.sampleAt ≤ ·.sampleAt))
    (distinct : (first.map ShadowTrainingSample.sampleAt).Nodup) : first = second := by
  apply same.eq_of_pairwise _ sortedFirst sortedSecond
  intro sample other member otherMember before after
  exact List.inj_on_of_nodup_map distinct member (same.mem_iff.mpr otherMember)
    (le_antisymm before after)

theorem byTime_sorted (samples : List ShadowTrainingSample) :
    (byTime samples).Pairwise (·.sampleAt ≤ ·.sampleAt) := by
  have total : Std.Total fun first second : ShadowTrainingSample =>
      first.sampleAt ≤ second.sampleAt :=
    ⟨fun first second => le_total first.sampleAt second.sampleAt⟩
  have transitive : IsTrans ShadowTrainingSample fun first second =>
      first.sampleAt ≤ second.sampleAt := ⟨fun _ _ _ first second => first.trans second⟩
  exact List.pairwise_insertionSort _ samples

theorem byTime_perm (samples : List ShadowTrainingSample) : (byTime samples).Perm samples :=
  List.perm_insertionSort _ samples

/-- The last of sorted samples is a latest one. -/
theorem le_getLastD {first : ShadowTrainingSample} {rest : List ShadowTrainingSample}
    (sorted : (first :: rest).Pairwise (·.sampleAt ≤ ·.sampleAt)) :
    ∀ sample ∈ first :: rest, sample.sampleAt ≤ (rest.getLastD first).sampleAt := by
  induction rest generalizing first with
  | nil => simp
  | cons next rest ih =>
    obtain ⟨earliest, sortedRest⟩ := List.pairwise_cons.mp sorted
    intro sample member
    rw [List.getLastD_cons]
    rcases List.mem_cons.mp member with rfl | later
    · exact earliest _ List.getLastD_mem_cons
    · exact ih sortedRest sample later

/-- The samples of an observation: the earlier ones by time, within its levels,
and then what records it, of which one is the latest. -/
structure Recorded (row : ShadowObservation) (stopLoss takeProfit : ℚ)
    (path recorded : List ShadowTrainingSample) : Prop where
  sorted : path.Pairwise (·.sampleAt ≤ ·.sampleAt)
  entered : ∀ sample ∈ path ++ recorded, sample.entryPrice = row.entryPrice
  start : ∀ first ∈ path.head?, first.hypotheticalPnlInr = 0
  inside : ∀ sample ∈ path, stopLoss < sample.currentPrice ∧ sample.currentPrice < takeProfit
  mirrors : ∀ sample ∈ recorded, Mirrors row sample
  latest : ∃ last ∈ recorded, ∀ sample ∈ path ++ recorded, sample.sampleAt ≤ last.sampleAt

section Recorded

variable {path recorded rest : List ShadowTrainingSample} {first : ShadowTrainingSample}

/-- The last of the samples in order records the observation. -/
theorem Recorded.last (isRecorded : Recorded row stopLoss takeProfit path recorded)
    (same : (first :: rest).Perm (path ++ recorded))
    (sorted : (first :: rest).Pairwise (·.sampleAt ≤ ·.sampleAt))
    (distinct : ((first :: rest).map ShadowTrainingSample.sampleAt).Nodup) :
    Mirrors row (rest.getLastD first) := by
  obtain ⟨last, isLast, latest⟩ := isRecorded.latest
  have member : last ∈ first :: rest := same.mem_iff.mpr (List.mem_append_right _ isLast)
  have ending : rest.getLastD first ∈ first :: rest := List.getLastD_mem_cons
  have isLatest : rest.getLastD first = last :=
    List.inj_on_of_nodup_map distinct ending member
      (le_antisymm (latest _ (same.mem_iff.mp ending)) (le_getLastD sorted last member))
  exact isLatest ▸ isRecorded.mirrors last isLast

/-- What lies above the last result are earlier samples, in their order. -/
theorem Recorded.above_eq (isRecorded : Recorded row stopLoss takeProfit path recorded)
    (same : (first :: rest).Perm (path ++ recorded))
    (sorted : (first :: rest).Pairwise (·.sampleAt ≤ ·.sampleAt))
    (distinct : ((first :: rest).map ShadowTrainingSample.sampleAt).Nodup) :
    above row.hypotheticalPnlInr (first :: rest) = above row.hypotheticalPnlInr path := by
  have none : above row.hypotheticalPnlInr recorded = [] := by
    rw [above, List.filter_eq_nil_iff]
    intro sample member
    rw [(isRecorded.mirrors sample member).pnl]
    simp
  have filtered : (above row.hypotheticalPnlInr (first :: rest)).Perm
      (above row.hypotheticalPnlInr path) := by
    have kept := same.filter fun sample => row.hypotheticalPnlInr < sample.hypotheticalPnlInr
    rw [List.filter_append] at kept
    rw [above] at none
    rwa [none, List.append_nil] at kept
  exact eq_of_sorted filtered (sorted.filter _) (isRecorded.sorted.filter _)
    ((List.filter_sublist.map _).nodup distinct)

/-- The report on the samples of an observation, in whatever order, recommends
what the exit policy decides on its last mark. -/
theorem Recorded.recommends {group : List ShadowTrainingSample}
    (isRecorded : Recorded row stopLoss takeProfit path recorded) (sized : Sized row)
    (levels : Levels row stopLoss takeProfit)
    (threshold : 0 < settings.intradayProfitGivebackExitPct) (same : group.Perm (path ++ recorded))
    (distinct : (group.map ShadowTrainingSample.sampleAt).Nodup) (day : Day) (market : Market)
    (symbol : String) :
    ∃ decision, decisionFromGroup settings day market symbol group = some decision ∧
      Recommends (closing (liveDecision settings row path).action)
        decision.recommendedShadowExit := by
  have ordered := byTime_sorted group
  have arranged := (byTime_perm group).trans same
  have distinctOrdered : ((byTime group).map ShadowTrainingSample.sampleAt).Nodup :=
    ((byTime_perm group).map _).nodup_iff.mpr distinct
  rw [decisionFromGroup]
  cases sorts : byTime group with
  | nil =>
    obtain ⟨last, isLast, -⟩ := isRecorded.latest
    rw [sorts] at arranged
    have none := arranged.nil_eq
    rw [List.append_eq_nil_iff.mp none.symm |>.2] at isLast
    cases isLast
  | cons first rest =>
    rw [sorts] at ordered arranged distinctOrdered
    refine ⟨_, rfl, ?_⟩
    rw [closing_liveDecision sized levels isRecorded.start]
    have values : ∀ sample ∈ first :: rest, sample ∈ path ∨ Mirrors row sample := by
      intro sample member
      exact (List.mem_append.mp (arranged.mem_iff.mp member)).imp_right (isRecorded.mirrors sample)
    have entered : first.entryPrice = row.entryPrice :=
      isRecorded.entered first (arranged.mem_iff.mp List.mem_cons_self)
    exact decisionOf_recommends levels threshold
      (isRecorded.last arranged ordered distinctOrdered) entered values isRecorded.inside
      (isRecorded.above_eq arranged ordered distinctOrdered) day market symbol

end Recorded

end Report
end AlphaAgent.Shadow
