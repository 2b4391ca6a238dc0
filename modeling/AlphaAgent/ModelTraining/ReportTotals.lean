import AlphaAgent.ModelTraining.OnePerSignal
import AlphaAgent.ModelTraining.Report
import Mathlib.Algebra.Order.BigOperators.Group.List
import Mathlib.Data.List.Pairwise

/-!
# The training report adds up

Every trainable sample belongs to one market and to one idea. The report of the whole is
the sum of the reports of the markets, the outcomes are those of the ideas, and the
status agrees with the actions which the report asks for.
-/

namespace AlphaAgent.ModelTraining

open Foundation
open Shadow (GroupOutcome)

section Labels

theorem labelCounts_concat (samples : List IntradayTrainingSample)
    (sample : IntradayTrainingSample) :
    labelCounts (samples ++ [sample]) = (labelCounts samples).count sample :=
  List.foldl_concat _ _ _ _

/-- The loop counts the samples with each label. -/
theorem labelCounts_eq (samples : List IntradayTrainingSample) :
    labelCounts samples = {
      positive := samples.countP (label · = .positive)
      negative := samples.countP (label · = .negative)
      flat := samples.countP (label · = .flat)
      stopArea := samples.countP (·.touchesStop)
      targetArea := samples.countP (·.touchesTarget) } := by
  induction samples using List.reverseRecOn with
  | nil => rfl
  | append_singleton samples sample ih =>
    rw [labelCounts_concat, ih]
    simp [LabelCounts.count, List.countP_append, List.countP_singleton]

/-- A sample has one label. -/
theorem labelCounts_signs (samples : List IntradayTrainingSample) :
    (labelCounts samples).positive + (labelCounts samples).negative + (labelCounts samples).flat =
      samples.length := by
  induction samples using List.reverseRecOn with
  | nil => rfl
  | append_singleton samples sample ih =>
    rw [labelCounts_concat, List.length_append, List.length_singleton, ← ih]
    cases kind : label sample <;> simp [LabelCounts.count, kind] <;> omega

/-- Counts of two parts. -/
def LabelCounts.merge (first second : LabelCounts) : LabelCounts where
  positive := first.positive + second.positive
  negative := first.negative + second.negative
  flat := first.flat + second.flat
  stopArea := first.stopArea + second.stopArea
  targetArea := first.targetArea + second.targetArea

theorem labelCounts_append (first second : List IntradayTrainingSample) :
    labelCounts (first ++ second) = (labelCounts first).merge (labelCounts second) := by
  simp [labelCounts_eq, LabelCounts.merge, List.countP_append]

theorem labelCounts_perm {first second : List IntradayTrainingSample} (same : first.Perm second) :
    labelCounts first = labelCounts second := by
  simp only [labelCounts_eq, same.countP_eq]

end Labels

section Markets

/-- The samples of a market. -/
def ofMarket (market : Market) (samples : List IntradayTrainingSample) :
    List IntradayTrainingSample := samples.filter (·.market = market)

/-- A sample is of one market. -/
theorem ofMarket_perm (samples : List IntradayTrainingSample) :
    (ofMarket .india samples ++ ofMarket .us samples).Perm samples := by
  have other : ofMarket .us samples =
      samples.filter fun sample => !decide (sample.market = .india) :=
    List.filter_congr fun sample _ => by cases sample.market <;> rfl
  rw [other]
  exact List.filter_append_perm _ samples

theorem trainable_ofMarket (market : Market) (samples : List IntradayTrainingSample) :
    (ofMarket market samples).filter (·.trainable) =
      ofMarket market (samples.filter (·.trainable)) := by
  simp only [ofMarket, List.filter_filter, Bool.and_comm]

theorem length_ofMarket (samples : List IntradayTrainingSample) :
    (ofMarket .india samples).length + (ofMarket .us samples).length = samples.length := by
  rw [← List.length_append]
  exact (ofMarket_perm samples).length_eq

/-- A share of no samples is zero, and any other share is of all of them. -/
theorem stopLossCoverage_mul (samples : List IntradayTrainingSample) :
    stopLossCoverage samples * samples.length = (samples.filter (·.hasStopLoss)).length := by
  cases samples with
  | nil => simp [stopLossCoverage]
  | cons sample rest =>
    have some : ((sample :: rest).length : ℚ) ≠ 0 := by simp; positivity
    exact div_mul_cancel₀ _ some

theorem length_hasStopLoss (samples : List IntradayTrainingSample) :
    ((ofMarket .india samples).filter (·.hasStopLoss)).length +
      ((ofMarket .us samples).filter (·.hasStopLoss)).length =
        (samples.filter (·.hasStopLoss)).length := by
  rw [← List.length_append, ← List.filter_append]
  exact ((ofMarket_perm samples).filter _).length_eq

/-- Gains and losses make the profit and loss. -/
theorem sum_gains_losses {α : Type} (value : α → ℚ) (rows : List α) :
    ((rows.filter (0 < value ·)).map value).sum + ((rows.filter (value · < 0)).map value).sum =
      (rows.map value).sum := by
  induction rows with
  | nil => simp
  | cons row rest ih =>
    rw [List.map_cons, List.sum_cons, ← ih]
    rcases lt_trichotomy (value row) 0 with lost | flat | won
    · simp [lost, lost.not_gt]
      ring
    · simp [flat]
    · simp [won, won.not_gt]
      ring

end Markets

section Ideas

theorem byMark_perm (group : List IntradayTrainingSample) : (byMark group).Perm group :=
  List.perm_insertionSort _ group

theorem byMark_sorted (group : List IntradayTrainingSample) :
    (byMark group).Pairwise fun first second => first.lastMarkedAt ≤ second.lastMarkedAt :=
  have : IsTrans IntradayTrainingSample fun first second =>
      first.lastMarkedAt ≤ second.lastMarkedAt := ⟨fun _ _ _ => le_trans⟩
  have : Std.Total fun first second : IntradayTrainingSample =>
      first.lastMarkedAt ≤ second.lastMarkedAt := ⟨fun _ _ => le_total _ _⟩
  List.pairwise_insertionSort _ group

open Shadow.IntradayModelTraining in
/-- What a touch is labelled with, and that one of the samples has it. -/
theorem firstTouch_spec (samples : List IntradayTrainingSample) :
    (firstTouch (samples.map (·.outcomeSample)) = none ∧
      ∀ sample ∈ samples, sample.touchesStop = false ∧ sample.touchesTarget = false) ∨
    ∃ outcome, firstTouch (samples.map (·.outcomeSample)) = some outcome ∧
      (outcome = .stopTouched ∨ outcome = .targetTouched) ∧
      ∃ sample ∈ samples, sample.touchesStop = true ∨ sample.touchesTarget = true := by
  induction samples with
  | nil => exact .inl ⟨rfl, List.forall_mem_nil _⟩
  | cons sample rest ih =>
    rw [List.map_cons, firstTouch]
    split_ifs with stopped reached
    · exact .inr ⟨.stopTouched, rfl, .inl rfl, sample, List.mem_cons_self, .inl stopped⟩
    · exact .inr ⟨.targetTouched, rfl, .inr rfl, sample, List.mem_cons_self, .inr reached⟩
    · rcases ih with ⟨none, untouched⟩ | ⟨outcome, found, level, other, member, touched⟩
      · refine .inl ⟨none, List.forall_mem_cons.mpr ⟨?_, untouched⟩⟩
        exact ⟨Bool.eq_false_iff.mpr stopped, Bool.eq_false_iff.mpr reached⟩
      · exact .inr ⟨outcome, found, level, other, List.mem_cons_of_mem _ member, touched⟩

open Shadow.IntradayModelTraining in
/-- Samples have an outcome, which is that of a level exactly where one is touched. -/
theorem groupOutcome_spec {samples : List IntradayTrainingSample} (filled : samples ≠ []) :
    ∃ outcome, groupOutcome (samples.map (·.outcomeSample)) = .ok outcome ∧
      (outcome = .stopTouched ∨ outcome = .targetTouched ↔
        ∃ sample ∈ samples, sample.touchesStop = true ∨ sample.touchesTarget = true) := by
  have mapped : samples.map (·.outcomeSample) ≠ [] := mt List.map_eq_nil_iff.mp filled
  have final := List.getLast?_eq_some_getLast mapped
  unfold groupOutcome
  rcases firstTouch_spec samples with ⟨none, untouched⟩ | ⟨outcome, found, level, touched⟩
  · rw [none, final]
    refine ⟨_, rfl, iff_of_false ?_ ?_⟩
    · have exit := Shadow.timeExit_untouched ((samples.map (·.outcomeSample)).getLast mapped)
      exact not_or_intro exit.1 exit.2
    · rintro ⟨sample, member, touches⟩
      simp [untouched sample member] at touches
  · rw [found]
    exact ⟨outcome, rfl, iff_of_true level touched⟩

/-- Of which samples a row tells. -/
structure IdeaRow.TellsOf (row : IdeaRow) (group : List IntradayTrainingSample) : Prop where
  samples : row.samples = group.length
  /-- It enters at an earliest mark and ends at a latest one. -/
  ends : ∃ first ∈ group, ∃ final ∈ group,
    (∀ sample ∈ group, first.lastMarkedAt ≤ sample.lastMarkedAt ∧
      sample.lastMarkedAt ≤ final.lastMarkedAt) ∧
    row.entryPrice = first.entryPrice ∧ row.stopLoss = first.stopLoss ∧
    row.takeProfit = first.takeProfit ∧ row.finalPrice = final.currentPrice ∧
    row.hypotheticalPnlInr = final.hypotheticalPnlInr ∧
    row.hypotheticalPnlPct = final.hypotheticalPnlPct
  /-- It is closed by a level exactly when one of its samples touches one. -/
  touched : row.outcome = .stopTouched ∨ row.outcome = .targetTouched ↔
    ∃ sample ∈ group, sample.touchesStop = true ∨ sample.touchesTarget = true

/-- The key of a row's idea. -/
def IdeaRow.key (row : IdeaRow) : Market × String × Day := (row.market, row.symbol, row.openedDate)

/-- An idea with samples has a row, which tells of them. -/
theorem ideaRow_of_samples {group : List IntradayTrainingSample} (given : group ≠ [])
    (key : Market × String × Day) :
    ∃ row, ideaRow key group = .ok row ∧ row.key = key ∧ row.TellsOf group := by
  have same := byMark_perm group
  have sorted := byMark_sorted group
  have filled : byMark group ≠ [] := fun empty => given (List.nil_perm.mp (empty ▸ same))
  have first := List.head?_eq_some_head filled
  have final := List.getLast?_eq_some_getLast filled
  obtain ⟨outcome, read, touched⟩ := groupOutcome_spec filled
  simp only [ideaRow, first, final, read]
  refine ⟨_, rfl, rfl, same.length_eq, ?_, touched.trans ?_⟩
  · refine ⟨_, same.subset (List.head_mem filled), _, same.subset (List.getLast_mem filled), ?_,
      rfl, rfl, rfl, rfl, rfl, rfl⟩
    intro sample member
    have among := same.symm.subset member
    exact ⟨sorted.rel_head_of_rel_head_head among le_rfl,
      sorted.rel_getLast_of_rel_getLast_getLast among le_rfl⟩
  · simp only [same.mem_iff]

/-- What the loop holds after rows of ideas. -/
structure OutcomeScan.Counts (scan : OutcomeScan) (rows : List IdeaRow) : Prop where
  counts : ∀ outcome, scan.counts.of outcome = rows.countP (·.outcome = outcome)
  markets : ∀ market outcome, (scan.ofMarket market).of outcome =
    rows.countP fun row => row.market = market ∧ row.outcome = outcome
  symbolPnl : scan.symbolPnl =
    Dict.collect (·.symbol) (fun sum row => sum.getD 0 + row.hypotheticalPnlInr) rows
  ideaRows : scan.ideaRows = rows

theorem OutcomeCounts.of_add (counts : OutcomeCounts) (added outcome : GroupOutcome) :
    (counts.add added).of outcome = counts.of outcome + if added = outcome then 1 else 0 := by
  cases added <;> cases outcome <;> rfl

theorem OutcomeScan.ofMarket_add (scan : OutcomeScan) (row : IdeaRow) (market : Market) :
    (scan.add row).ofMarket market =
      if row.market = market then (scan.ofMarket market).add row.outcome
      else scan.ofMarket market := by
  cases market <;> rfl

/-- One turn of the loop counts one row. -/
theorem OutcomeScan.Counts.add {scan : OutcomeScan} {rows : List IdeaRow}
    (before : scan.Counts rows) (row : IdeaRow) : (scan.add row).Counts (rows ++ [row]) where
  counts outcome := by
    rw [List.countP_append, List.countP_singleton, ← before.counts]
    simpa [OutcomeScan.add] using OutcomeCounts.of_add scan.counts row.outcome outcome
  markets market outcome := by
    rw [ofMarket_add, List.countP_append, List.countP_singleton, ← before.markets]
    by_cases own : row.market = market
    · simpa [own] using OutcomeCounts.of_add (scan.ofMarket market) row.outcome outcome
    · simp [own]
  symbolPnl := by
    rw [Dict.collect_concat, ← before.symbolPnl]
    rfl
  ideaRows := congrArg (· ++ [row]) before.ideaRows

/-- The loop counts all rows. -/
theorem counts_foldl (rows : List IdeaRow) : (rows.foldl .add {} : OutcomeScan).Counts rows := by
  induction rows using List.reverseRecOn with
  | nil =>
    refine ⟨fun outcome => ?_, fun market outcome => ?_, rfl, rfl⟩
    · cases outcome <;> rfl
    · cases market <;> cases outcome <;> rfl
  | append_singleton rows row ih =>
    rw [List.foldl_concat]
    exact ih.add row

/-- The summary is that of the rows of the ideas. -/
structure OutcomeSummary.Tallies (summary : OutcomeSummary)
    (trainable : List IntradayTrainingSample) (rows : List IdeaRow) : Prop where
  distinct : (rows.map (·.key)).Nodup
  complete : ∀ key, key ∈ rows.map (·.key) ↔ ∃ sample ∈ trainable, ideaKey sample = key
  told : ∀ row ∈ rows, row.TellsOf (trainable.filter (ideaKey · = row.key))
  samples : (rows.map (·.samples)).sum = trainable.length
  ideas : summary.ideas = rows.length
  counts : ∀ outcome, summary.counts.of outcome = rows.countP (·.outcome = outcome)
  markets : ∀ market outcome, (summary.markets market).of outcome =
    rows.countP fun row => row.market = market ∧ row.outcome = outcome
  net : summary.netHypotheticalPnlInr = (rows.map (·.hypotheticalPnlInr)).sum
  recent : summary.recentIdeas ⊆ rows

/-- The group of a bound key. -/
theorem group_of_mem {samples : List IntradayTrainingSample}
    {entry : (Market × String × Day) × List IntradayTrainingSample}
    (member : entry ∈ (ideaGroups samples).entries) :
    entry.2 = samples.filter (ideaKey · = entry.1) ∧ entry.2 ≠ [] := by
  have bound := Dict.get?_of_mem_entries member
  have grouped := Dict.foldl_group id (samples.filter (ideaKey · = entry.1))
  rw [List.map_id] at grouped
  rw [ideaGroups, Dict.get?_collect] at bound
  have found := grouped.symm.trans bound
  split_ifs at found with empty
  exact ⟨(Option.some.inj found).symm, Option.some.inj found ▸ empty⟩

/-- The row of a group is that of its key, and tells of its samples. -/
theorem ideaRow_of_mem {samples : List IntradayTrainingSample}
    {entry : (Market × String × Day) × List IntradayTrainingSample}
    (member : entry ∈ (ideaGroups samples).entries) :
    ∃ row, ideaRow entry.1 entry.2 = .ok row ∧ row.key = entry.1 ∧
      row.TellsOf (samples.filter (ideaKey · = entry.1)) := by
  obtain ⟨group, filled⟩ := group_of_mem member
  rw [← group]
  exact ideaRow_of_samples filled entry.1

/-- Every group is read, and the rows tell of all samples. -/
theorem outcomeSummary_tallies (samples : List IntradayTrainingSample) :
    ∃ summary rows, outcomeSummary samples = .ok summary ∧ summary.Tallies samples rows := by
  let groups := ideaGroups samples
  obtain ⟨rows, reads⟩ : ∃ rows : List IdeaRow,
      groups.entries.map (fun entry => ideaRow entry.1 entry.2) = rows.map .ok :=
    Fallible.exists_reads fun entry member => by
      obtain ⟨row, read, -⟩ := ideaRow_of_mem member
      exact ⟨row, read⟩
  have tells : ∀ entry ∈ groups.entries, ∀ row, ideaRow entry.1 entry.2 = .ok row →
      row.key = entry.1 ∧ row.TellsOf (samples.filter (ideaKey · = entry.1)) := by
    intro entry member row read
    obtain ⟨same, readSame, told⟩ := ideaRow_of_mem member
    cases readSame.symm.trans read
    exact told
  have keys : rows.map (·.key) = groups.keys :=
    Fallible.map_reads reads fun entry member row read => (tells entry member row read).1
  have lengths : rows.map (·.samples) = groups.values.map List.length := by
    rw [Dict.values, List.map_map]
    refine Fallible.map_reads reads fun entry member row read => ?_
    rw [(tells entry member row read).2.samples, ← (group_of_mem member).1]
    rfl
  have length : groups.entries.length = rows.length := by
    simpa [Dict.keys] using congrArg List.length keys.symm
  have scanned := counts_foldl rows
  refine ⟨(rows.foldl OutcomeScan.add {}).summary rows.length, rows, ?_, ?_⟩
  · rw [outcomeSummary, Fallible.foldlM_read reads OutcomeScan.add {}, ← length]
    rfl
  · refine {
      distinct := keys ▸ groups.distinct
      complete := fun key => by rw [keys]; exact Dict.mem_keys_collect _ _ _ _
      told := ?_
      samples := ?_
      ideas := rfl
      counts := scanned.counts
      markets := scanned.markets
      net := ?_
      recent := ?_ }
    · intro row member
      obtain ⟨entry, among, read⟩ := Fallible.mem_reads reads member
      obtain ⟨same, told⟩ := tells entry among row read
      rw [same]
      exact told
    · rw [lengths]
      exact Dict.total_length_group ideaKey id samples
    · have total := Dict.total_collect_add (·.symbol) (·.hypotheticalPnlInr) rows
      rw [← scanned.symbolPnl, Dict.total, List.map_id] at total
      exact total
    · intro row member
      have listed := (mem_descending _).mp (List.mem_of_mem_take member)
      rwa [scanned.ideaRows] at listed

end Ideas

section Actions

variable {settings : TrainingSettings} {totalSamples trainableSamples : ℕ} {coverage : ℚ}
  {marketReports : Market → MarketReport}

/-- What the calibration of the report needs. -/
structure Calibrated (settings : TrainingSettings) (totalSamples trainableSamples : ℕ)
    (coverage : ℚ) (marketReports : Market → MarketReport) : Prop where
  someSamples : 0 < totalSamples
  total : settings.minTotalSamples ≤ trainableSamples
  coverage : settings.minStopLossCoverage ≤ coverage
  markets : ∀ market, settings.minSamplesPerMarket ≤ (marketReports market).trainableSamples

theorem trainingStatus_calibrated :
    trainingStatus settings totalSamples trainableSamples coverage marketReports =
      .calibratedShadowOnly ↔
        Calibrated settings totalSamples trainableSamples coverage marketReports := by
  have markets : ([Market.india, .us].any fun market =>
      (marketReports market).trainableSamples < settings.minSamplesPerMarket) = false ↔
      ∀ market, settings.minSamplesPerMarket ≤ (marketReports market).trainableSamples := by
    simp only [List.any_cons, List.any_nil, Bool.or_false, Bool.or_eq_false_iff,
      decide_eq_false_iff_not, not_lt]
    exact ⟨fun both market => by cases market; exacts [both.1, both.2],
      fun all => ⟨all .india, all .us⟩⟩
  unfold trainingStatus
  split_ifs with empty few uncovered thin
  · exact iff_of_false nofun fun met => met.someSamples.ne' empty
  · exact iff_of_false nofun fun met => met.total.not_gt few
  · exact iff_of_false nofun fun met => met.coverage.not_gt uncovered
  · exact iff_of_false nofun fun met =>
      Bool.false_ne_true ((markets.mpr met.markets).symm.trans thin)
  · exact iff_of_true rfl ⟨Nat.pos_of_ne_zero empty, not_lt.mp few, not_lt.mp uncovered,
      markets.mp (Bool.eq_false_iff.mpr thin)⟩

theorem mem_nextActions {action : String} :
    action ∈ nextActions settings totalSamples trainableSamples coverage marketReports ↔
      (totalSamples < settings.minTotalSamples ∧
        action = collectAction (settings.minTotalSamples - totalSamples)) ∨
      (trainableSamples < totalSamples ∧ action = rejectAction) ∨
      (coverage < settings.minStopLossCoverage ∧ action = coverageAction) ∨
      (∃ market, (marketReports market).trainableSamples < settings.minSamplesPerMarket ∧
        action = marketAction market
          (settings.minSamplesPerMarket - (marketReports market).trainableSamples)) ∨
      action ∈ standingActions := by
  have given (asked : Prop) [Decidable asked] (text : String) :
      action ∈ (if asked then [text] else []) ↔ asked ∧ action = text := by
    split_ifs with holds <;> simp [holds]
  simp only [nextActions, List.mem_eraseDups, List.mem_append, List.mem_flatMap, given,
    sub_pos, or_assoc]
  have listed : ∀ market, market ∈ [Market.india, .us] := by rintro (_ | _) <;> simp
  simp only [listed, true_and]

/-- The first letter of what always stands. -/
theorem standing_first {action : String} (standing : action ∈ standingActions) :
    action.toList.head? ∈ [some 'R', some 'K'] := by
  rcases List.mem_pair.mp standing with rfl | rfl <;> decide

/-- An action which collects samples is none of those which always stand. -/
theorem collectAction_ne (missing : ℤ) : collectAction missing ∉ standingActions := by
  intro standing
  have first : (collectAction missing).toList.head? = some 'C' := by
    simp only [collectAction, String.toList_append, List.append_assoc]
    rfl
  have listed := standing_first standing
  rw [first] at listed
  simp at listed

theorem marketAction_ne (market : Market) (missing : ℤ) :
    marketAction market missing ∉ standingActions := by
  intro standing
  have first : (marketAction market missing).toList.head? = some 'C' := by
    simp only [marketAction, String.toList_append, List.append_assoc]
    rfl
  have listed := standing_first standing
  rw [first] at listed
  simp at listed

theorem rejectAction_ne : rejectAction ∉ standingActions ∧ coverageAction ∉ standingActions := by
  decide

/-- A calibrated report asks for nothing but repairs. -/
theorem nextActions_of_calibrated
    (met : Calibrated settings totalSamples trainableSamples coverage marketReports)
    (among : trainableSamples ≤ totalSamples) {action : String}
    (asked : action ∈ nextActions settings totalSamples trainableSamples coverage marketReports) :
    action = rejectAction ∨ action ∈ standingActions := by
  rcases mem_nextActions.mp asked with ⟨few, -⟩ | ⟨-, reject⟩ | ⟨uncovered, -⟩ | ⟨market, thin, -⟩ |
    standing
  · exact absurd (met.total.trans (Nat.cast_le.mpr among)) few.not_ge
  · exact .inl reject
  · exact absurd met.coverage uncovered.not_ge
  · exact absurd (met.markets market) thin.not_ge
  · exact .inr standing

/-- Where a threshold is positive, or there are samples, any other report asks for something. -/
theorem nextActions_of_not_calibrated (among : trainableSamples ≤ totalSamples)
    (empty : totalSamples = 0 →
      coverage = 0 ∧ ∀ market, (marketReports market).trainableSamples = 0)
    (unmet : ¬Calibrated settings totalSamples trainableSamples coverage marketReports) :
    (∃ action ∈ nextActions settings totalSamples trainableSamples coverage marketReports,
      action ∉ standingActions) ↔
      0 < totalSamples ∨ 0 < settings.minTotalSamples ∨ 0 < settings.minSamplesPerMarket ∨
        0 < settings.minStopLossCoverage := by
  constructor
  · rintro ⟨action, asked, demands⟩
    by_contra none
    obtain ⟨unsampled, total, perMarket, covered⟩ :
        totalSamples = 0 ∧ settings.minTotalSamples ≤ 0 ∧ settings.minSamplesPerMarket ≤ 0 ∧
          settings.minStopLossCoverage ≤ 0 := by
      simpa only [not_or, not_lt, Nat.le_zero] using none
    obtain ⟨zero, untrained⟩ := empty unsampled
    rcases mem_nextActions.mp asked with ⟨few, -⟩ | ⟨rejected, -⟩ | ⟨uncovered, -⟩ |
      ⟨market, thin, -⟩ | standing
    · rw [unsampled, Nat.cast_zero] at few
      exact few.not_ge total
    · omega
    · exact (zero ▸ uncovered).not_ge covered
    · rw [untrained market, Nat.cast_zero] at thin
      exact thin.not_ge perMarket
    · exact demands standing
  · intro given
    by_cases few : totalSamples < settings.minTotalSamples
    · exact ⟨_, mem_nextActions.mpr (.inl ⟨few, rfl⟩), collectAction_ne _⟩
    by_cases rejected : trainableSamples < totalSamples
    · exact ⟨_, mem_nextActions.mpr (.inr (.inl ⟨rejected, rfl⟩)), rejectAction_ne.1⟩
    by_cases uncovered : coverage < settings.minStopLossCoverage
    · exact ⟨_, mem_nextActions.mpr (.inr (.inr (.inl ⟨uncovered, rfl⟩))), rejectAction_ne.2⟩
    by_cases thin : ∃ market, (marketReports market).trainableSamples < settings.minSamplesPerMarket
    · obtain ⟨market, thin⟩ := thin
      exact ⟨_, mem_nextActions.mpr (.inr (.inr (.inr (.inl ⟨market, thin, rfl⟩)))),
        marketAction_ne _ _⟩
    -- Every threshold is met, so what is missing is a first sample.
    have filled : ∀ market,
        settings.minSamplesPerMarket ≤ (marketReports market).trainableSamples :=
      fun market => not_lt.mp fun few => thin ⟨market, few⟩
    by_cases sampled : 0 < totalSamples
    · exact absurd ⟨sampled, by omega, not_lt.mp uncovered, filled⟩ unmet
    · obtain ⟨zero, untrained⟩ := empty (by omega)
      have perMarket := filled .india
      rw [untrained .india, Nat.cast_zero] at perMarket
      rw [zero] at uncovered
      rcases given with some | total | positive | covered
      · exact absurd some sampled
      · omega
      · exact absurd positive perMarket.not_gt
      · exact absurd covered uncovered

end Actions

section Report

/-- A factor above one is a profit. -/
theorem profitFactor_iff {market : Market} {samples : List IntradayTrainingSample} {factor : ℚ}
    (known : (marketReport market samples).profitFactor = some factor) :
    1 < factor ↔ 0 < (marketReport market samples).hypotheticalPnlInr := by
  have parts := sum_gains_losses (·.hypotheticalPnlInr)
      ((ofMarket market samples).filter (·.trainable))
  simp only [marketReport] at known ⊢
  rw [← ofMarket, ← parts]
  rw [← ofMarket] at known
  split_ifs at known with flat
  obtain rfl := Option.some.inj known
  have losses : ((((ofMarket market samples).filter (·.trainable)).filter
      (·.hypotheticalPnlInr < 0)).map (·.hypotheticalPnlInr)).sum ≤ 0 := by
    refine (List.sum_le_card_nsmul _ 0 fun pnl member => ?_).trans_eq (nsmul_zero _)
    obtain ⟨sample, lost, rfl⟩ := List.mem_map.mp member
    exact (of_decide_eq_true (List.mem_filter.mp lost).2).le
  have positive := lt_of_le_of_ne (abs_nonneg _) (Ne.symm flat)
  rw [one_lt_div positive, abs_of_nonpos losses]
  constructor <;> intro <;> linarith

/-- A report is about its samples, and its parts agree. -/
structure TrainingReport.AddsUp (report : TrainingReport) (settings : TrainingSettings)
    (samples : List IntradayTrainingSample) : Prop where
  limit : report.totalSamples ≤ settings.maxSamples
  total : (report.markets .india).samples + (report.markets .us).samples = report.totalSamples
  trainable : (report.markets .india).trainableSamples + (report.markets .us).trainableSamples =
    report.trainableSamples
  trainable_le : report.trainableSamples ≤ report.totalSamples
  coverage : (report.markets .india).stopLossCoverage * (report.markets .india).samples +
    (report.markets .us).stopLossCoverage * (report.markets .us).samples =
      report.stopLossCoverage * report.totalSamples
  labels : report.labels = (report.markets .india).labels.merge (report.markets .us).labels
  signs : report.labels.positive + report.labels.negative + report.labels.flat =
    report.trainableSamples
  average : ∀ market, (report.markets market).avgHypotheticalPnlInr *
    (report.markets market).trainableSamples = (report.markets market).hypotheticalPnlInr
  profit : ∀ market factor, (report.markets market).profitFactor = some factor →
    (1 < factor ↔ 0 < (report.markets market).hypotheticalPnlInr)
  ideas : ∃ rows, report.outcomeSummary.Tallies (samples.filter (·.trainable)) rows
  diagnostics : List.Forall₂ (fun feature diagnostic => diagnostic.name = feature.1 ∧
    diagnostic.Describes (samples.filter (·.trainable)) feature.2) features
      report.featureDiagnostics
  calibrated : report.status = .calibratedShadowOnly ↔ Calibrated settings report.totalSamples
    report.trainableSamples report.stopLossCoverage report.markets
  calm : report.status = .calibratedShadowOnly →
    ∀ action ∈ report.nextActions, action = rejectAction ∨ action ∈ standingActions
  asks : report.status ≠ .calibratedShadowOnly →
    ((∃ action ∈ report.nextActions, action ∉ standingActions) ↔
      0 < report.totalSamples ∨ 0 < settings.minTotalSamples ∨
        0 < settings.minSamplesPerMarket ∨ 0 < settings.minStopLossCoverage)

/-- A report is always built, and it adds up: the markets to the whole, the rows of ideas
to the outcomes; and its status is calibrated exactly where it asks for no more samples. -/
theorem trainingReport (squareRoot : SquareRoot) (settings : TrainingSettings) (tables : Tables) :
    ∃ report, buildReport squareRoot settings tables = .ok report ∧
      report.AddsUp settings (reportSamples settings tables) := by
  generalize given : reportSamples settings tables = samples
  obtain ⟨summary, rows, read, tallies⟩ := outcomeSummary_tallies (samples.filter (·.trainable))
  obtain ⟨diagnostics, diagnosed, described⟩ :=
    featureDiagnostics_ok squareRoot (samples.filter (·.trainable))
  have among : (samples.filter (·.trainable)).length ≤ samples.length := List.length_filter_le _ _
  have calibrated : (reportOf settings samples summary diagnostics).status =
      .calibratedShadowOnly ↔ _ := trainingStatus_calibrated
  have empty : samples.length = 0 → stopLossCoverage samples = 0 ∧
      ∀ market, (marketReport market samples).trainableSamples = 0 := by
    intro none
    obtain rfl := List.eq_nil_of_length_eq_zero none
    exact ⟨by simp [stopLossCoverage], fun _ => rfl⟩
  refine ⟨reportOf settings samples summary diagnostics,
    by rw [buildReport, given, read, diagnosed]; rfl, {
    limit := ?_
    total := length_ofMarket samples
    trainable := ?_
    trainable_le := among
    coverage := ?_
    labels := ?_
    signs := labelCounts_signs _
    average := fun market => ?_
    profit := fun market factor known => profitFactor_iff known
    ideas := ⟨rows, tallies⟩
    diagnostics := described
    calibrated
    calm := fun met action => nextActions_of_calibrated (calibrated.mp met) among
    asks := fun unmet => nextActions_of_not_calibrated among empty (mt calibrated.mpr unmet) }⟩
  · rw [← given, reportSamples]
    exact (List.length_map _).trans_le (length_loadSamples_le _ _ _)
  · have split := length_ofMarket (samples.filter (·.trainable))
    rwa [← trainable_ofMarket, ← trainable_ofMarket] at split
  · have india := stopLossCoverage_mul (ofMarket .india samples)
    have us := stopLossCoverage_mul (ofMarket .us samples)
    have whole := stopLossCoverage_mul samples
    have split : (((ofMarket .india samples).filter (·.hasStopLoss)).length : ℚ) +
        ((ofMarket .us samples).filter (·.hasStopLoss)).length =
          (samples.filter (·.hasStopLoss)).length := mod_cast length_hasStopLoss samples
    rw [← india, ← us, ← whole] at split
    exact split
  · have split := labelCounts_perm (ofMarket_perm (samples.filter (·.trainable)))
    rw [labelCounts_append, ← trainable_ofMarket, ← trainable_ofMarket] at split
    exact split.symm
  · have mean := meanOf_mul (((ofMarket market samples).filter (·.trainable)).map
      (·.hypotheticalPnlInr))
    rwa [List.length_map] at mean

end Report
end AlphaAgent.ModelTraining
