import AlphaAgent.Shadow.ProtectionReport
import Mathlib.Algebra.Order.BigOperators.Group.List
import Mathlib.Order.Bounds.Basic

/-!
# What the summary of profit protection says

Each symbol of a market with samples on one of the latest days has one decision, which
is the one of its own samples. The summary is about the greatest day, adds its decisions
up to totals which agree with each other, and shows the most urgent alerts.
-/

namespace AlphaAgent.Shadow.ProfitProtection

open Foundation

section Groups

variable (settings : ShadowSettings) (days : MarketDays)

/-- A group has the samples of its key. -/
theorem mem_grouped_iff {samples group : List ShadowTrainingSample}
    {key : Day × Market × String} :
    (key, group) ∈ (grouped days samples).entries ↔
      group = groupOf days samples key ∧ group ≠ [] := by
  have bound : (grouped days samples).get? key =
      if groupOf days samples key = [] then none else some (groupOf days samples key) := by
    have folded := Dict.foldl_group id (groupOf days samples key)
    rw [List.map_id] at folded
    rw [grouped, Dict.get?_collect]
    exact folded
  constructor
  · intro member
    have read := Dict.get?_of_mem_entries member
    rw [bound] at read
    split_ifs at read with empty
    obtain rfl := Option.some.inj read
    exact ⟨rfl, empty⟩
  · rintro ⟨rfl, filled⟩
    apply Dict.mem_entries_of_get?
    rw [bound, if_neg filled]

/-- The key of a decision. -/
def decisionKey (decision : ProfitProtectionDecision) : Day × Market × String :=
  (decision.reviewDate, decision.market, decision.symbol)

variable {settings days} {day : Day} {market : Market} {symbol : String}
  {group : List ShadowTrainingSample} {decision : ProfitProtectionDecision}

/-- A decision is made of the samples of a group by time. -/
theorem decisionFromGroup_eq_some (made : decisionFromGroup settings day market symbol group =
    some decision) : ∃ first rest, byTime group = first :: rest ∧
      decision = decisionOf settings day market symbol first rest := by
  rw [decisionFromGroup] at made
  cases ordered : byTime group with
  | nil =>
    rw [ordered] at made
    cases made
  | cons first rest =>
    rw [ordered] at made
    exact ⟨first, rest, rfl, (Option.some.inj made).symm⟩

theorem decisionKey_of_made (made : decisionFromGroup settings day market symbol group =
    some decision) : decisionKey decision = (day, market, symbol) := by
  obtain ⟨first, rest, -, rfl⟩ := decisionFromGroup_eq_some made
  rfl

/-- A group of samples has a decision. -/
theorem exists_decision (settings : ShadowSettings) (day : Day) (market : Market) (symbol : String)
    (filled : group ≠ []) :
    ∃ decision, decisionFromGroup settings day market symbol group = some decision := by
  rw [decisionFromGroup]
  cases ordered : byTime group with
  | nil =>
    have same := byTime_perm group
    rw [ordered] at same
    exact absurd same.nil_eq.symm filled
  | cons first rest => exact ⟨_, rfl⟩

/-- The peak of a path is at least where it stands, and the giveback is the difference. -/
theorem giveback_eq (made : decisionFromGroup settings day market symbol group = some decision) :
    decision.currentPnlInr ≤ decision.peakPnlInr ∧
      decision.givebackInr = decision.peakPnlInr - decision.currentPnlInr := by
  obtain ⟨first, rest, -, rfl⟩ := decisionFromGroup_eq_some made
  have last : rest.getLastD first ∈ first :: rest := by
    rw [List.getLastD_eq_getLast?]
    cases found : rest.getLast? with
    | none => exact List.mem_cons_self
    | some latest => exact List.mem_cons_of_mem _ (List.mem_of_getLast? found)
  have above : (rest.getLastD first).hypotheticalPnlInr ≤
      (peakSample first rest).hypotheticalPnlInr := le_peakSample first rest _ last
  exact ⟨above, max_eq_left (sub_nonneg.mpr above)⟩

end Groups

section Decisions

variable (settings : ShadowSettings) (days : MarketDays) (samples : List ShadowTrainingSample)

/-- The decisions of all groups. -/
def allDecisions : List ProfitProtectionDecision :=
  (grouped days samples).entries.filterMap fun entry =>
    decisionFromGroup settings entry.1.1 entry.1.2.1 entry.1.2.2 entry.2

/-- A decision was made of the samples of its key. -/
def MadeOf (decision : ProfitProtectionDecision) : Prop :=
  decisionFromGroup settings decision.reviewDate decision.market decision.symbol
    (groupOf days samples (decisionKey decision)) = some decision

theorem mem_allDecisions_iff {decision : ProfitProtectionDecision} :
    decision ∈ allDecisions settings days samples ↔ MadeOf settings days samples decision := by
  rw [allDecisions, List.mem_filterMap]
  constructor
  · rintro ⟨⟨⟨day, market, symbol⟩, group⟩, member, made⟩
    obtain ⟨rfl, -⟩ := (mem_grouped_iff days).mp member
    have key := decisionKey_of_made made
    obtain ⟨rfl, rfl, rfl⟩ : decision.reviewDate = day ∧ decision.market = market ∧
        decision.symbol = symbol := by simpa [decisionKey] using key
    exact made
  · intro made
    refine ⟨(decisionKey decision, _), (mem_grouped_iff days).mpr ⟨rfl, ?_⟩, made⟩
    intro empty
    rw [MadeOf, empty] at made
    cases made

/-- Labels which agree with the keys of the rows are the keys. -/
theorem map_filterMap_of_label {α β κ : Type} {key : α → κ} {label : β → κ}
    {decide : α → Option β} {rows : List α}
    (each : ∀ row ∈ rows, ∃ made, decide row = some made ∧ label made = key row) :
    (rows.filterMap decide).map label = rows.map key := by
  induction rows with
  | nil => rfl
  | cons row rest ih =>
    obtain ⟨made, decided, same⟩ := each row List.mem_cons_self
    rw [List.filterMap_cons, decided, List.map_cons, List.map_cons, same,
      ih fun other member => each other (List.mem_cons_of_mem _ member)]

/-- No two decisions have one key. -/
theorem nodup_allDecisions : ((allDecisions settings days samples).map decisionKey).Nodup := by
  have keys : (allDecisions settings days samples).map decisionKey =
      (grouped days samples).entries.map Prod.fst := by
    apply map_filterMap_of_label
    rintro ⟨⟨day, market, symbol⟩, group⟩ member
    obtain ⟨-, filled⟩ := (mem_grouped_iff days).mp member
    obtain ⟨decision, made⟩ := exists_decision settings day market symbol filled
    exact ⟨decision, made, decisionKey_of_made made⟩
  rw [keys]
  exact (grouped days samples).distinct

end Decisions

section Latest

variable (settings : ShadowSettings) (days : MarketDays) (limitDays : ℕ)
  (samples : List ShadowTrainingSample)

/-- The local day of a sample. -/
def sampleDay (sample : ShadowTrainingSample) : Day := (groupKey days sample).1

theorem mem_reviewDates {decisions : List ProfitProtectionDecision} {day : Day} :
    day ∈ reviewDates decisions ↔ ∃ decision ∈ decisions, decision.reviewDate = day := by
  rw [reviewDates, mem_descending, List.mem_dedup, List.mem_map]

theorem reviewDates_descending (decisions : List ProfitProtectionDecision) :
    (reviewDates decisions).Pairwise (· > ·) := by
  have distinct : (reviewDates decisions).Nodup :=
    (descending_perm id _).nodup_iff.mpr (List.nodup_dedup _)
  exact (descending_sorted id _).imp₂ (fun first second notLess different =>
    lt_of_le_of_ne notLess (Ne.symm different)) distinct

variable {settings days samples}

variable (settings) in
/-- A day has decisions exactly when it has samples. -/
theorem exists_made_iff {day : Day} :
    (∃ decision, MadeOf settings days samples decision ∧ decision.reviewDate = day) ↔
      day ∈ samples.map (sampleDay days) := by
  constructor
  · rintro ⟨decision, made, rfl⟩
    obtain ⟨first, rest, ordered, -⟩ := decisionFromGroup_eq_some made
    have member : first ∈ groupOf days samples (decisionKey decision) :=
      (byTime_perm _).mem_iff.mp (ordered ▸ List.mem_cons_self)
    obtain ⟨stored, key⟩ := List.mem_filter.mp member
    exact List.mem_map.mpr ⟨first, stored, congrArg Prod.fst (of_decide_eq_true key)⟩
  · intro member
    obtain ⟨sample, stored, rfl⟩ := List.mem_map.mp member
    have filled : groupOf days samples (groupKey days sample) ≠ [] :=
      List.ne_nil_of_mem (List.mem_filter.mpr ⟨stored, decide_eq_true rfl⟩)
    obtain ⟨decision, made⟩ := exists_decision settings (groupKey days sample).1
      (groupKey days sample).2.1 (groupKey days sample).2.2 filled
    have key := decisionKey_of_made made
    refine ⟨decision, ?_, congrArg Prod.fst key⟩
    have day : decision.reviewDate = (groupKey days sample).1 := congrArg Prod.fst key
    have market : decision.market = (groupKey days sample).2.1 := congrArg (·.2.1) key
    have symbol : decision.symbol = (groupKey days sample).2.2 := congrArg (·.2.2) key
    rw [MadeOf, key, day, market, symbol]
    exact made

/-- The decisions which are kept are those of days with few later days of samples. -/
theorem mem_analyzeSamples_iff {decision : ProfitProtectionDecision} :
    decision ∈ analyzeSamples settings days limitDays samples ↔
      MadeOf settings days samples decision ∧
        IsAmongGreatest (sampleDay days) samples limitDays decision.reviewDate := by
  have ordered : ∀ other, other ∈ descending decisionOrder (allDecisions settings days samples) ↔
      MadeOf settings days samples other := fun other =>
    (mem_descending _).trans (mem_allDecisions_iff settings days samples)
  have dated : ∀ day, day ∈ reviewDates (descending decisionOrder
      (allDecisions settings days samples)) ↔ day ∈ samples.map (sampleDay days) := by
    intro day
    rw [mem_reviewDates, ← exists_made_iff settings]
    simp only [ordered]
  have same : (reviewDates (descending decisionOrder (allDecisions settings days samples))).Perm
      (samples.map (sampleDay days)).dedup := by
    refine (List.perm_ext_iff_of_nodup ?_ (List.nodup_dedup _)).mpr fun day => ?_
    · exact (reviewDates_descending _).imp ne_of_gt
    · rw [dated, List.mem_dedup]
  rw [analyzeSamples, ← allDecisions, List.mem_filter, ordered, decide_eq_true_eq,
    mem_take_descending (reviewDates_descending _), dated, (same.filter _).length_eq]
  rfl

end Latest

section Whole

variable {settings : ShadowSettings} {days : MarketDays} {limitDays : ℕ} {now : ℤ}
  {table : List ShadowTrainingSample}

theorem byTime_eq_descending (samples : List ShadowTrainingSample) :
    byTime samples = descending (fun sample => OrderDual.toDual sample.sampleAt) samples := rfl

theorem groupOf_byTime (samples : List ShadowTrainingSample) (key : Day × Market × String) :
    groupOf days (byTime samples) key = byTime (groupOf days samples key) := by
  rw [groupOf, byTime_eq_descending, filter_descending]
  rfl

theorem byTime_byTime (samples : List ShadowTrainingSample) :
    byTime (byTime samples) = byTime samples := (byTime_sorted samples).insertionSort_eq

/-- A decision on samples which the query all reads is the one on all stored samples. -/
theorem madeOf_table {decision : ProfitProtectionDecision}
    (made : MadeOf settings days (sampleRows limitDays now table) decision)
    (reached : ∀ sample ∈ groupOf days table (decisionKey decision),
      sampleCutoff limitDays now ≤ sample.sampleAt) : MadeOf settings days table decision := by
  have whole : groupOf days (table.filter (sampleCutoff limitDays now ≤ ·.sampleAt))
      (decisionKey decision) = groupOf days table (decisionKey decision) := by
    rw [groupOf, List.filter_filter]
    refine List.filter_congr fun sample stored => ?_
    by_cases own : groupKey days sample = decisionKey decision
    · have read := reached sample (List.mem_filter.mpr ⟨stored, decide_eq_true own⟩)
      simp [own, read]
    · simp [own]
  rw [MadeOf, sampleRows, groupOf_byTime, whole, decisionFromGroup, byTime_byTime] at made
  exact made

end Whole

section Totals

variable {settings : ShadowSettings} {days : MarketDays} {limitDays : ℕ}
  {samples : List ShadowTrainingSample} {decisions : List ProfitProtectionDecision}

/-- Peaks are what stands and what was given back. -/
theorem totals_of_made (made : ∀ decision ∈ decisions, MadeOf settings days samples decision) :
    (decisions.map fun decision => max decision.peakPnlInr decision.currentPnlInr).sum =
        (decisions.map (·.peakPnlInr)).sum ∧
      (decisions.map (·.currentPnlInr)).sum + (decisions.map (·.givebackInr)).sum =
        (decisions.map (·.peakPnlInr)).sum ∧ 0 ≤ (decisions.map (·.givebackInr)).sum := by
  induction decisions with
  | nil => simp
  | cons decision rest ih =>
    obtain ⟨best, total, rises⟩ := ih fun other member => made other (List.mem_cons_of_mem _ member)
    obtain ⟨below, giveback⟩ := giveback_eq (made decision List.mem_cons_self)
    simp only [List.map_cons, List.sum_cons]
    refine ⟨?_, ?_, ?_⟩
    · rw [best, max_eq_left below]
    · rw [giveback, ← total]
      ring
    · exact add_nonneg (giveback ▸ sub_nonneg.mpr below) rises

/-- An exit with high urgency books a profit, or a loss, or would have booked a profit. -/
theorem countP_high (decisions : List ProfitProtectionDecision) :
    decisions.countP (fun decision => decision.recommendedShadowExit.urgency = .high) =
      decisions.countP (fun decision =>
          decision.recommendedShadowExit.booksProfit && decide (0 < decision.currentPnlInr)) +
        decisions.countP (fun decision => decision.recommendedShadowExit = .exitStopLoss) +
        decisions.countP (fun decision =>
          decision.recommendedShadowExit.booksProfit && decide (decision.currentPnlInr ≤ 0)) := by
  induction decisions with
  | nil => rfl
  | cons decision rest ih =>
    simp only [List.countP_cons, ih]
    rcases lt_or_ge 0 decision.currentPnlInr with gains | loses
    · have noLoss := not_le.mpr gains
      cases decision.recommendedShadowExit <;>
        simp [RecommendedExit.urgency, RecommendedExit.booksProfit, gains, noLoss] <;> omega
    · have noGain := not_lt.mpr loses
      cases decision.recommendedShadowExit <;>
        simp [RecommendedExit.urgency, RecommendedExit.booksProfit, loses, noGain] <;> omega

/-- What has high urgency is an alert. -/
theorem isAlert_of_high {recommended : RecommendedExit} (high : recommended.urgency = .high) :
    recommended.isAlert = true := by
  cases recommended <;> first | rfl | cases high

theorem countP_high_alerts (decisions : List ProfitProtectionDecision) :
    decisions.countP (fun decision => decide (decision.recommendedShadowExit.urgency = .high) &&
        decision.recommendedShadowExit.isAlert) =
      decisions.countP fun decision => decision.recommendedShadowExit.urgency = .high := by
  refine List.countP_congr fun decision _ => ?_
  rw [Bool.and_eq_true, decide_eq_true_eq]
  exact ⟨fun both => both.1, fun isHigh => ⟨isHigh, isAlert_of_high isHigh⟩⟩

theorem length_descending_filter {α τ : Type} [LinearOrder τ] (time : α → τ) (keeps : α → Bool)
    (rows : List α) : (descending time (rows.filter keeps)).length = rows.countP keeps := by
  rw [(descending_perm _ _).length_eq, List.countP_eq_length_filter]

/-- Of sorted rows, the first are at least what is not among them. -/
theorem le_of_mem_take {α τ : Type} [LinearOrder τ] (time : α → τ) (rows : List α) (limit : ℕ)
    {kept other : α} (member : kept ∈ (descending time rows).take limit)
    (later : other ∈ (descending time rows).drop limit) : time other ≤ time kept := by
  have sorted := descending_sorted time rows
  rw [← List.take_append_drop limit (descending time rows)] at sorted
  exact (List.pairwise_append.mp sorted).2.2 kept member other later

end Totals

section Latest

variable {settings : ShadowSettings} {days : MarketDays} {limitDays : ℕ}
  {samples : List ShadowTrainingSample}

/-- A day with later samples than a kept one is kept. -/
theorem IsAmongGreatest.of_lt {day other : Day}
    (among : IsAmongGreatest (sampleDay days) samples limitDays day)
    (member : other ∈ samples.map (sampleDay days)) (later : day < other) :
    IsAmongGreatest (sampleDay days) samples limitDays other := by
  refine ⟨member, lt_of_le_of_lt ?_ among.2⟩
  rw [← List.countP_eq_length_filter, ← List.countP_eq_length_filter]
  refine List.countP_mono_left fun third _ above => ?_
  exact decide_eq_true (later.trans (of_decide_eq_true above))

theorem latestDate_eq_some_iff {decisions : List ProfitProtectionDecision} {day : Day} :
    latestDate decisions = some day ↔ (∃ decision ∈ decisions, decision.reviewDate = day) ∧
      ∀ decision ∈ decisions, decision.reviewDate ≤ day := by
  have descends := reviewDates_descending decisions
  have dated : ∀ other, other ∈ reviewDates decisions ↔
      ∃ decision ∈ decisions, decision.reviewDate = other := fun _ => mem_reviewDates
  rw [latestDate, ← dated]
  constructor
  · intro head
    obtain ⟨rest, shape⟩ := List.head?_eq_some_iff.mp head
    rw [shape] at descends dated ⊢
    refine ⟨List.mem_cons_self, fun decision member => ?_⟩
    rcases List.mem_cons.mp ((dated _).mpr ⟨decision, member, rfl⟩) with same | later
    · exact same.le
    · exact ((List.pairwise_cons.mp descends).1 _ later).le
  · rintro ⟨member, greatest⟩
    cases shape : reviewDates decisions with
    | nil =>
      rw [shape] at member
      cases member
    | cons first rest =>
      rw [shape] at member descends dated
      rcases List.mem_cons.mp member with rfl | later
      · rfl
      · obtain ⟨decision, stored, rfl⟩ := (dated first).mp List.mem_cons_self
        exact absurd ((List.pairwise_cons.mp descends).1 day later)
          (not_lt.mpr (greatest decision stored))

/-- The day of the summary is the last one with samples. -/
theorem latestDate_analyzeSamples {day : Day} :
    latestDate (analyzeSamples settings days limitDays samples) = some day ↔
      0 < limitDays ∧ IsGreatest {day | day ∈ samples.map (sampleDay days)} day := by
  rw [latestDate_eq_some_iff]
  simp only [mem_analyzeSamples_iff]
  constructor
  · rintro ⟨⟨decision, ⟨made, among⟩, rfl⟩, greatest⟩
    refine ⟨(Nat.zero_le _).trans_lt among.2, among.1, fun other member => ?_⟩
    by_contra notLess
    have later := not_le.mp notLess
    obtain ⟨last, lastMade, rfl⟩ := (exists_made_iff settings).mpr member
    exact notLess (greatest last ⟨lastMade, IsAmongGreatest.of_lt among member later⟩)
  · rintro ⟨positive, member, greatest⟩
    have among : IsAmongGreatest (sampleDay days) samples limitDays day := by
      refine ⟨member, ?_⟩
      rw [List.filter_eq_nil_iff.mpr]
      · exact positive
      · intro other stored later
        exact absurd (of_decide_eq_true later) (not_lt.mpr (greatest (List.mem_dedup.mp stored)))
    obtain ⟨decision, made, rfl⟩ := (exists_made_iff settings).mpr member
    exact ⟨⟨decision, ⟨made, among⟩, rfl⟩, fun other kept => greatest kept.2.1⟩

end Latest

section Summary

/-- What a summary says about the samples of a query and the stored ones. -/
structure SummaryOf (settings : ShadowSettings) (days : MarketDays) (limitDays : ℕ) (now : ℤ)
    (table : List ShadowTrainingSample) (report : ProtectionSummary) : Prop where
  latest : ∀ day, report.latestDay = some day ↔ 0 < limitDays ∧
    IsGreatest {day | day ∈ (sampleRows limitDays now table).map (sampleDay days)} day
  distinct : (report.decisionsToday.map decisionKey).Nodup
  today : ∀ decision, decision ∈ report.decisionsToday ↔
    MadeOf settings days (sampleRows limitDays now table) decision ∧
      report.latestDay = some decision.reviewDate
  whole : ∀ decision ∈ report.decisionsToday,
    (∀ sample ∈ groupOf days table (decisionKey decision),
      sampleCutoff limitDays now ≤ sample.sampleAt) → MadeOf settings days table decision
  current : report.currentTotalPnlInr = (report.decisionsToday.map (·.currentPnlInr)).sum
  best : report.bestObservedTotalPnlInr = (report.decisionsToday.map (·.peakPnlInr)).sum
  giveback : report.givebackFromBestObservedInr = (report.decisionsToday.map (·.givebackInr)).sum
  total : report.currentTotalPnlInr + report.givebackFromBestObservedInr =
    report.bestObservedTotalPnlInr
  rises : 0 ≤ report.givebackFromBestObservedInr
  alertsCount : report.alertsCount =
    report.decisionsToday.countP (·.recommendedShadowExit.isAlert)
  alerts : report.alerts.length = min 20 report.alertsCount
  urgent : ∀ alert ∈ report.alerts, ∀ other ∈ report.decisionsToday,
    other.recommendedShadowExit.isAlert = true → other ∉ report.alerts →
      alertOrder other ≤ alertOrder alert
  highUrgency : report.highUrgencyCount = report.shadowProfitBooking.bookedProfitCount +
    report.shadowProfitBooking.bookedLossCount + report.decisionsToday.countP fun decision =>
      decision.recommendedShadowExit.booksProfit && decide (decision.currentPnlInr ≤ 0)
  bookedProfit : 0 ≤ report.shadowProfitBooking.bookedProfitPnlInr

theorem summary_of (settings : ShadowSettings) (days : MarketDays) (limitDays : ℕ) (now : ℤ)
    (table : List ShadowTrainingSample) :
    SummaryOf settings days limitDays now table (summary settings days limitDays now table) := by
  let samples := sampleRows limitDays now table
  let decisions := analyzeSamples settings days limitDays samples
  let today := decisions.filter fun decision => some decision.reviewDate = latestDate decisions
  have made : ∀ decision ∈ today, MadeOf settings days samples decision := fun decision member =>
    ((mem_analyzeSamples_iff limitDays).mp (List.mem_of_mem_filter member)).1
  obtain ⟨best, total, rises⟩ := totals_of_made made
  have giveback : max ((today.map fun decision =>
      max decision.peakPnlInr decision.currentPnlInr).sum - (today.map (·.currentPnlInr)).sum) 0 =
      (today.map (·.givebackInr)).sum := by
    rw [best, ← total, add_sub_cancel_left, max_eq_left rises]
  let alerts := descending alertOrder (today.filter (·.recommendedShadowExit.isAlert))
  have alertsCount : alerts.length = today.countP (·.recommendedShadowExit.isAlert) :=
    length_descending_filter _ _ today
  refine ⟨fun _ => latestDate_analyzeSamples, ?_, ?_, ?_, rfl, best, giveback, ?_,
    le_max_right _ _, alertsCount, List.length_take, ?_, ?_, ?_⟩
  · have all : (decisions.map decisionKey).Nodup := by
      have kept : decisions.Sublist
          (descending decisionOrder (allDecisions settings days samples)) := List.filter_sublist
      refine (kept.map decisionKey).nodup ?_
      exact ((descending_perm _ _).map _).nodup_iff.mpr (nodup_allDecisions settings days samples)
    exact (List.filter_sublist.map decisionKey).nodup all
  · intro decision
    change decision ∈ today ↔ _ ∧ latestDate decisions = some decision.reviewDate
    rw [List.mem_filter, mem_analyzeSamples_iff, decide_eq_true_eq, eq_comm]
    constructor
    · exact fun ⟨⟨isMade, _⟩, latest⟩ => ⟨isMade, latest⟩
    · rintro ⟨isMade, latest⟩
      obtain ⟨⟨other, kept, same⟩, -⟩ := latestDate_eq_some_iff.mp latest
      have among := ((mem_analyzeSamples_iff limitDays).mp kept).2
      exact ⟨⟨isMade, same ▸ among⟩, latest⟩
  · exact fun decision member reached => madeOf_table (made decision member) reached
  · change (today.map (·.currentPnlInr)).sum + max _ 0 = _
    rw [giveback, total]
    exact best.symm
  · intro alert shown other member isAlert hidden
    have stored : other ∈ alerts :=
      (mem_descending _).mpr (List.mem_filter.mpr ⟨member, isAlert⟩)
    rw [← List.take_append_drop 20 alerts] at stored
    exact le_of_mem_take alertOrder _ 20 shown
      ((List.mem_append.mp stored).resolve_left hidden)
  · change (alerts.filter (·.recommendedShadowExit.urgency = .high)).length = _
    rw [← List.countP_eq_length_filter, (descending_perm _ _).countP_eq, List.countP_filter]
    rw [countP_high_alerts, countP_high]
    refine congrArg₂ _ (congrArg₂ _ ?_ ?_) rfl
    · exact (length_descending_filter (·.currentPnlInr) _ today).symm
    · exact (length_descending_filter (fun decision => -decision.currentPnlInr) _ today).symm
  · refine List.sum_nonneg fun pnl member => ?_
    obtain ⟨decision, stored, rfl⟩ := List.mem_map.mp member
    have books := List.of_mem_filter ((mem_descending _).mp stored)
    exact (of_decide_eq_true (Bool.and_eq_true_iff.mp books).2).le

end Summary
end AlphaAgent.Shadow.ProfitProtection
