import AlphaAgent.Risk.RiskEngine

/-!
# The quote gate where metrics are required

Where quote metrics are required, the liquidity and slippage checks accept only
a map which knows a spread, a volume and a notional within their limits, and a
map with worse figures is never accepted in place of a better one. The exception
is a figure which becomes negative: it reads as missing, and a missing volume or
notional can be made up for by another figure.
-/

namespace AlphaAgent.Risk

open Foundation

/-- The figure supplied under a name; a name bound to no value supplies none. -/
def figure (quoteMetrics : QuoteMetrics) (name : String) : Option ℚ :=
  (quoteMetrics.get? name).join

def volumeNames : List String := ["volume", "intraday_volume"]

def averageVolumeNames : List String := ["average_daily_volume", "avg_daily_volume"]

def notionalNames : List String :=
  ["average_daily_notional_inr", "avg_daily_notional_inr", "notional_inr"]

def spreadPctNames : List String := ["spread_pct", "bid_ask_spread_pct"]

def spreadBpsNames : List String := ["spread_bps", "bid_ask_spread_bps"]

def slippageNames : List String :=
  ["estimated_slippage_pct", "expected_slippage_pct", "slippage_pct"]

/-- The names of the figures of which less is worse. -/
def liquidityNames : List String := volumeNames ++ averageVolumeNames ++ notionalNames

/-- The names of the figures of which more is worse. -/
def costNames : List String := spreadPctNames ++ spreadBpsNames ++ slippageNames

/-- Both checks accept the metrics, which are required. -/
def AcceptsQuotes (candidate : TradeCandidate) (settings : Settings)
    (quoteMetrics : Option QuoteMetrics) : Prop :=
  liquidityRejectionReason candidate settings quoteMetrics true = none ∧
    slippageRejectionReason candidate settings quoteMetrics true = none

/-- The metrics know a spread, a volume and a notional, and the spread and the
notional are within their limits. -/
def KnowsQuotes (candidate : TradeCandidate) (settings : Settings)
    (quoteMetrics : Option QuoteMetrics) : Prop :=
  ∃ known, quoteMetrics = some known ∧
    (∃ spread, spreadPct known = some spread ∧ spread ≤ settings.maxLiveBidAskSpreadPct.val) ∧
    (metric known volumeNames ≠ none ∨ metric known averageVolumeNames ≠ none) ∧
    ∃ notional, notionalInr candidate known (metric known averageVolumeNames) = some notional ∧
      settings.minLiveAverageDailyNotionalInr.val ≤ notional

/-- The same figures, some of them worse: supplied volumes and notionals are no
larger, and supplied spreads and slippages which are not negative no smaller. -/
structure Worse (quoteMetrics worse : QuoteMetrics) : Prop where
  lowered : ∀ name ∈ liquidityNames,
    Option.Rel (fun value lower => lower ≤ value) (figure quoteMetrics name) (figure worse name)
  raised : ∀ name ∈ costNames,
    Option.Rel (fun value higher => higher = value ∨ 0 ≤ value ∧ value ≤ higher)
      (figure quoteMetrics name) (figure worse name)
  kept : ∀ name, name ∉ liquidityNames → name ∉ costNames →
    figure worse name = figure quoteMetrics name

/-- No worse map is accepted in place of a better one. -/
def GateMonotone (candidate : TradeCandidate) (settings : Settings) : Prop :=
  ∀ quoteMetrics worse, Worse quoteMetrics worse →
    AcceptsQuotes candidate settings (some worse) →
      AcceptsQuotes candidate settings (some quoteMetrics)

/-- Every volume and notional which was known is still known: the figure which
decides it has not become negative. -/
def StillKnown (quoteMetrics worse : QuoteMetrics) : Prop :=
  ∀ names ∈ [volumeNames, averageVolumeNames, notionalNames],
    metric worse names = none → metric quoteMetrics names = none

instance (quoteMetrics worse : QuoteMetrics) : Decidable (StillKnown quoteMetrics worse) :=
  inferInstanceAs (Decidable (∀ names ∈ _, _))

section Related

variable {α β : Type} {related : α → β → Prop}

/-- What is related to a value is a value. -/
theorem rel_some_left {value : α} {other : Option β}
    (holds : Option.Rel related (some value) other) :
    ∃ partner, other = some partner ∧ related value partner := by
  cases holds with
  | some pair => exact ⟨_, rfl, pair⟩

theorem rel_some_right {value : Option α} {other : β}
    (holds : Option.Rel related value (some other)) :
    ∃ partner, value = some partner ∧ related partner other := by
  cases holds with
  | some pair => exact ⟨_, rfl, pair⟩

theorem rel_none_left {other : Option β} (holds : Option.Rel related none other) :
    other = none := by
  cases holds
  rfl

theorem rel_le_refl (value : Option ℚ) :
    Option.Rel (fun value higher => value ≤ higher) value value := by
  cases value with
  | none => exact .none
  | some value => exact .some le_rfl

/-- The first values found under related readings are related. -/
theorem findSome?_rel {κ : Type} {first : κ → Option α} {second : κ → Option β} {names : List κ}
    (each : ∀ name ∈ names, Option.Rel related (first name) (second name)) :
    Option.Rel related (names.findSome? first) (names.findSome? second) := by
  induction names with
  | nil => exact .none
  | cons name rest ih =>
    have head := each name List.mem_cons_self
    have tail := ih fun other member => each other (List.mem_cons_of_mem name member)
    rw [List.findSome?_cons, List.findSome?_cons]
    cases found : first name with
    | none =>
      cases other : second name with
      | none => exact tail
      | some value => simp [found, other] at head
    | some value =>
      cases other : second name with
      | none => simp [found, other] at head
      | some value => simpa [found, other] using head

end Related

section Metrics

variable {quoteMetrics worse : QuoteMetrics} {names : List String}

/-- A metric is the first figure supplied under its names, if that is not negative. -/
theorem metric_eq_filter (quoteMetrics : QuoteMetrics) (names : List String) :
    metric quoteMetrics names =
      (names.findSome? (figure quoteMetrics)).filter fun value => 0 ≤ value := by
  unfold metric figure
  cases names.findSome? fun name => (quoteMetrics.get? name).join with
  | none => rfl
  | some value =>
    by_cases nonneg : 0 ≤ value
    · simp [Option.filter_some, nonneg, not_lt.mpr nonneg]
    · simp [Option.filter_some, nonneg, not_le.mp nonneg]

/-- A metric of lowered figures is lower, unless it has become negative. -/
theorem metric_lowered
    (lowered : ∀ name ∈ names, Option.Rel (fun value lower => lower ≤ value)
      (figure quoteMetrics name) (figure worse name))
    (known : metric worse names = none → metric quoteMetrics names = none) :
    Option.Rel (fun value lower => lower ≤ value) (metric quoteMetrics names)
      (metric worse names) := by
  have found := findSome?_rel lowered
  rw [metric_eq_filter, metric_eq_filter] at known ⊢
  generalize names.findSome? (figure quoteMetrics) = first at found known ⊢
  generalize names.findSome? (figure worse) = second at found known ⊢
  cases found with
  | none => exact .none
  | @some value lower below =>
    by_cases nonneg : 0 ≤ lower
    · simp [Option.filter_some, nonneg, nonneg.trans below, below]
    · simp only [Option.filter_some, decide_eq_true_eq, nonneg, if_false, true_implies] at known ⊢
      rw [known]
      exact .none

/-- A metric of raised figures is higher. -/
theorem metric_raised
    (raised : ∀ name ∈ names,
      Option.Rel (fun value higher => higher = value ∨ 0 ≤ value ∧ value ≤ higher)
        (figure quoteMetrics name) (figure worse name)) :
    Option.Rel (fun value higher => value ≤ higher) (metric quoteMetrics names)
      (metric worse names) := by
  have found := findSome?_rel raised
  rw [metric_eq_filter, metric_eq_filter]
  generalize names.findSome? (figure quoteMetrics) = first at found ⊢
  generalize names.findSome? (figure worse) = second at found ⊢
  cases found with
  | none => exact .none
  | @some value higher moved =>
    rcases moved with rfl | ⟨nonneg, above⟩
    · by_cases nonneg : 0 ≤ higher <;> simp [Option.filter_some, nonneg]
    · simp [Option.filter_some, nonneg, nonneg.trans above, above]

/-- A metric of other figures stays as it is. -/
theorem metric_kept (kept : ∀ name ∈ names, figure worse name = figure quoteMetrics name) :
    metric worse names = metric quoteMetrics names := by
  rw [metric_eq_filter, metric_eq_filter]
  congr 1
  induction names with
  | nil => rfl
  | cons name rest ih =>
    rw [List.findSome?_cons, List.findSome?_cons, kept name List.mem_cons_self,
      ih fun other member => kept other (List.mem_cons_of_mem name member)]

end Metrics

section Worse

variable {quoteMetrics worse : QuoteMetrics}

theorem Worse.metric_kept (worsened : Worse quoteMetrics worse) {names : List String}
    (other : ∀ name ∈ names, name ∉ liquidityNames ∧ name ∉ costNames) :
    metric worse names = metric quoteMetrics names :=
  Risk.metric_kept fun name member =>
    worsened.kept name (other name member).1 (other name member).2

/-- A volume or a notional does not become larger, as long as it is still known. -/
theorem Worse.metric_lowered (worsened : Worse quoteMetrics worse)
    (known : StillKnown quoteMetrics worse) {names : List String}
    (liquid : names ∈ [volumeNames, averageVolumeNames, notionalNames]) :
    Option.Rel (fun value lower => lower ≤ value) (metric quoteMetrics names)
      (metric worse names) := by
  have among : ∀ name ∈ names, name ∈ liquidityNames := by
    intro name member
    simp only [List.mem_cons, List.not_mem_nil, or_false] at liquid
    rcases liquid with rfl | rfl | rfl <;> simp [liquidityNames, member]
  exact Risk.metric_lowered (fun name member => worsened.lowered name (among name member))
    (known names liquid)

/-- The spread does not become smaller. -/
theorem Worse.spread_raised (worsened : Worse quoteMetrics worse) :
    Option.Rel (fun value higher => value ≤ higher) (spreadPct quoteMetrics) (spreadPct worse) := by
  have pct := metric_raised fun name (member : name ∈ spreadPctNames) =>
    worsened.raised name (List.mem_append_left _ (List.mem_append_left _ member))
  have bps := metric_raised fun name (member : name ∈ spreadBpsNames) =>
    worsened.raised name (List.mem_append_left _ (List.mem_append_right _ member))
  have bid : metric worse ["bid", "best_bid"] = metric quoteMetrics ["bid", "best_bid"] :=
    worsened.metric_kept (by decide)
  have ask : metric worse ["ask", "best_ask"] = metric quoteMetrics ["ask", "best_ask"] :=
    worsened.metric_kept (by decide)
  unfold spreadPctNames at pct
  unfold spreadBpsNames at bps
  unfold spreadPct
  rw [bid, ask]
  generalize metric quoteMetrics ["spread_pct", "bid_ask_spread_pct"] = first at pct ⊢
  generalize metric worse ["spread_pct", "bid_ask_spread_pct"] = second at pct ⊢
  generalize metric quoteMetrics ["spread_bps", "bid_ask_spread_bps"] = firstBps at bps ⊢
  generalize metric worse ["spread_bps", "bid_ask_spread_bps"] = secondBps at bps ⊢
  cases pct with
  | some above => exact .some above
  | none =>
    cases bps with
    | some above => exact .some (div_le_div_of_nonneg_right above (by norm_num))
    | none =>
      -- The spread of the best bid and ask, which are the same.
      exact rel_le_refl _

/-- The notional does not become larger, as long as its figures are still known. -/
theorem Worse.notional_lowered (worsened : Worse quoteMetrics worse)
    (known : StillKnown quoteMetrics worse) (candidate : TradeCandidate) :
    Option.Rel (fun value lower => lower ≤ value)
      (notionalInr candidate quoteMetrics (metric quoteMetrics averageVolumeNames))
      (notionalInr candidate worse (metric worse averageVolumeNames)) := by
  have configured := worsened.metric_lowered known
    (show notionalNames ∈ [volumeNames, averageVolumeNames, notionalNames] by simp)
  have volume := worsened.metric_lowered known
    (show averageVolumeNames ∈ [volumeNames, averageVolumeNames, notionalNames] by simp)
  have price : metric worse ["last_price", "close", "mid_price"] =
      metric quoteMetrics ["last_price", "close", "mid_price"] :=
    worsened.metric_kept (by decide)
  have rate : metric worse ["fx_rate", "usd_inr"] = metric quoteMetrics ["fx_rate", "usd_inr"] :=
    worsened.metric_kept (by decide)
  unfold notionalNames at configured
  unfold notionalInr
  rw [price, rate]
  generalize metric quoteMetrics ["average_daily_notional_inr", "avg_daily_notional_inr",
    "notional_inr"] = first at configured ⊢
  generalize metric worse ["average_daily_notional_inr", "avg_daily_notional_inr",
    "notional_inr"] = second at configured ⊢
  generalize metric quoteMetrics averageVolumeNames = firstVolume at volume ⊢
  generalize metric worse averageVolumeNames = secondVolume at volume ⊢
  cases configured with
  | some below => exact .some below
  | none =>
    cases volume with
    | none => exact .none
    | some below =>
      simp only
      generalize orElse (metric quoteMetrics ["last_price", "close", "mid_price"])
        candidate.entryPrice.val = price
      generalize (if candidate.market = Market.us then
        orElse (metric quoteMetrics ["fx_rate", "usd_inr"]) 0 else 1) = fxRate
      by_cases unusable : price ≤ 0 ∨ fxRate ≤ 0
      · rw [if_pos unusable, if_pos unusable]
        exact .none
      · rw [if_neg unusable, if_neg unusable]
        rw [not_or, not_le, not_le] at unusable
        exact .some (mul_le_mul_of_nonneg_right (mul_le_mul_of_nonneg_left below unusable.1.le)
          unusable.2.le)

end Worse

section Checks

variable {candidate : TradeCandidate} {settings : Settings} {quoteMetrics worse : QuoteMetrics}

/-- When required metrics pass the liquidity check. -/
theorem liquidityRejectionReason_eq_none :
    liquidityRejectionReason candidate settings (some quoteMetrics) true = none ↔
      hasFlag candidate "illiquid" = false ∧
      (metric quoteMetrics volumeNames ≠ none ∨ metric quoteMetrics averageVolumeNames ≠ none) ∧
      (∀ volume, metric quoteMetrics volumeNames = some volume →
        (settings.minLiveIntradayVolume : ℚ) ≤ volume) ∧
      (∀ volume, metric quoteMetrics averageVolumeNames = some volume →
        (settings.minLiveAverageDailyVolume : ℚ) ≤ volume) ∧
      ∃ notional, notionalInr candidate quoteMetrics (metric quoteMetrics averageVolumeNames) =
          some notional ∧
        settings.minLiveAverageDailyNotionalInr.val ≤ notional := by
  unfold liquidityRejectionReason volumeNames averageVolumeNames
  cases hasFlag candidate "illiquid" with
  | true => simp
  | false =>
    simp only [Bool.false_eq_true, if_false, if_true, true_and]
    generalize metric quoteMetrics ["average_daily_volume", "avg_daily_volume"] = average
    cases metric quoteMetrics ["volume", "intraday_volume"] with
    | none =>
      cases average with
      | none => simp
      | some average =>
        by_cases low : average < settings.minLiveAverageDailyVolume
        · simp [low]
        · cases notionalInr candidate quoteMetrics (some average) with
          | none => simp [low]
          | some notional => simp [low, not_lt.mp low]
    | some volume =>
      by_cases quiet : volume < settings.minLiveIntradayVolume
      · simp [quiet]
      · cases average with
        | none =>
          cases notionalInr candidate quoteMetrics none with
          | none => simp [quiet]
          | some notional => simp [quiet, not_lt.mp quiet]
        | some average =>
          by_cases low : average < settings.minLiveAverageDailyVolume
          · simp [quiet, low]
          · cases notionalInr candidate quoteMetrics (some average) with
            | none => simp [quiet, low]
            | some notional => simp [quiet, low, not_lt.mp quiet, not_lt.mp low]

/-- When required metrics pass the slippage check. -/
theorem slippageRejectionReason_eq_none :
    slippageRejectionReason candidate settings (some quoteMetrics) true = none ↔
      hasFlag candidate "high_slippage" = false ∧
      (∃ spread, spreadPct quoteMetrics = some spread ∧
        spread ≤ settings.maxLiveBidAskSpreadPct.val) ∧
      ∀ slippage, metric quoteMetrics slippageNames = some slippage →
        slippage ≤ settings.maxLiveEstimatedSlippagePct.val := by
  unfold slippageRejectionReason slippageNames
  cases hasFlag candidate "high_slippage" with
  | true => simp
  | false =>
    simp only [Bool.false_eq_true, if_false, if_true, true_and]
    cases spreadPct quoteMetrics with
    | none => simp
    | some spread =>
      by_cases wide : spread > settings.maxLiveBidAskSpreadPct.val
      · simp [wide]
      · cases metric quoteMetrics
            ["estimated_slippage_pct", "expected_slippage_pct", "slippage_pct"] with
        | none => simp [wide, not_lt.mp wide]
        | some slippage => simp [wide, not_lt.mp wide]

/-- Where no volume or notional is lost, worse metrics are not accepted in place
of better ones. -/
theorem Worse.accepts (worsened : Worse quoteMetrics worse) (known : StillKnown quoteMetrics worse)
    (accepted : AcceptsQuotes candidate settings (some worse)) :
    AcceptsQuotes candidate settings (some quoteMetrics) := by
  obtain ⟨liquid, cheap⟩ := accepted
  rw [liquidityRejectionReason_eq_none] at liquid
  rw [slippageRejectionReason_eq_none] at cheap
  obtain ⟨unflagged, present, enough, enoughAverage, lowest, least, worth⟩ := liquid
  obtain ⟨unmarked, ⟨widest, spread, narrow⟩, slips⟩ := cheap
  have volume := worsened.metric_lowered known
    (show volumeNames ∈ [volumeNames, averageVolumeNames, notionalNames] by simp)
  have average := worsened.metric_lowered known
    (show averageVolumeNames ∈ [volumeNames, averageVolumeNames, notionalNames] by simp)
  have notional := worsened.notional_lowered known candidate
  have slippage := metric_raised fun name (member : name ∈ slippageNames) =>
    worsened.raised name (List.mem_append_right _ member)
  have widened := worsened.spread_raised
  rw [AcceptsQuotes, liquidityRejectionReason_eq_none, slippageRejectionReason_eq_none]
  refine ⟨⟨unflagged, ?_, ?_, ?_, ?_⟩, unmarked, ?_, ?_⟩
  · refine present.imp (mt fun absent => ?_) (mt fun absent => ?_)
    · rw [absent] at volume
      exact rel_none_left volume
    · rw [absent] at average
      exact rel_none_left average
  · intro value decided
    rw [decided] at volume
    obtain ⟨lower, lowered, below⟩ := rel_some_left volume
    exact (enough lower lowered).trans below
  · intro value decided
    rw [decided] at average
    obtain ⟨lower, lowered, below⟩ := rel_some_left average
    exact (enoughAverage lower lowered).trans below
  · rw [least] at notional
    obtain ⟨better, traded, below⟩ := rel_some_right notional
    exact ⟨better, traded, worth.trans below⟩
  · rw [spread] at widened
    obtain ⟨better, quoted, above⟩ := rel_some_right widened
    exact ⟨better, quoted, above.trans narrow⟩
  · intro value decided
    rw [decided] at slippage
    obtain ⟨higher, raised, above⟩ := rel_some_left slippage
    exact above.trans (slips higher raised)

/-- What accepted metrics know. -/
theorem AcceptsQuotes.knows {quotes : Option QuoteMetrics}
    (accepted : AcceptsQuotes candidate settings quotes) :
    KnowsQuotes candidate settings quotes := by
  obtain ⟨liquid, cheap⟩ := accepted
  cases quotes with
  | none =>
    unfold liquidityRejectionReason at liquid
    split at liquid <;> simp at liquid
  | some known =>
    rw [liquidityRejectionReason_eq_none] at liquid
    rw [slippageRejectionReason_eq_none] at cheap
    exact ⟨known, rfl, cheap.2.1, liquid.2.1, liquid.2.2.2.2⟩

end Checks

section OneFigure

variable {quoteMetrics : QuoteMetrics} {name : String} {value changed : ℚ}

theorem figure_set (quoteMetrics : QuoteMetrics) (name other : String) (value : ℚ) :
    figure (quoteMetrics.set name (some value)) other =
      if other = name then some value else figure quoteMetrics other := by
  unfold figure
  rw [Dict.get?_set]
  split <;> rfl

theorem not_mem_costNames {name : String} (listed : name ∈ liquidityNames) : name ∉ costNames := by
  have disjoint : ∀ name ∈ liquidityNames, name ∉ costNames := by decide
  exact disjoint name listed

/-- One supplied figure changes within a reflexive relation, and no other one changes. -/
theorem figure_set_rel (related : ℚ → ℚ → Prop) (refl : ∀ value, related value value)
    (supplied : figure quoteMetrics name = some value) (changes : related value changed)
    (other : String) :
    Option.Rel related (figure quoteMetrics other)
      (figure (quoteMetrics.set name (some changed)) other) := by
  rw [figure_set]
  by_cases same : other = name
  · rw [same, supplied, if_pos rfl]
    exact .some changes
  · rw [if_neg same]
    cases figure quoteMetrics other with
    | none => exact .none
    | some figure => exact .some (refl figure)

theorem figure_set_other {other : String} (different : other ≠ name) :
    figure (quoteMetrics.set name (some changed)) other = figure quoteMetrics other := by
  rw [figure_set, if_neg different]

/-- Lowering one supplied volume or notional makes the metrics worse. -/
theorem worse_lower (listed : name ∈ liquidityNames)
    (supplied : figure quoteMetrics name = some value)
    (below : changed ≤ value) : Worse quoteMetrics (quoteMetrics.set name (some changed)) where
  lowered other _ :=
    figure_set_rel (fun value lower => lower ≤ value) (fun _ => le_rfl) supplied below other
  raised other member := by
    have different : other ≠ name := fun same => not_mem_costNames listed (same ▸ member)
    rw [figure_set_other different]
    cases figure quoteMetrics other with
    | none => exact .none
    | some figure => exact .some (.inl rfl)
  kept other unlisted _ := figure_set_other fun same => unlisted (same ▸ listed)

/-- Raising one supplied spread or slippage makes the metrics worse. -/
theorem worse_raise (listed : name ∈ costNames) (supplied : figure quoteMetrics name = some value)
    (nonneg : 0 ≤ value) (above : value ≤ changed) :
    Worse quoteMetrics (quoteMetrics.set name (some changed)) where
  lowered other member := by
    have different : other ≠ name := fun same => not_mem_costNames member (same ▸ listed)
    rw [figure_set_other different]
    cases figure quoteMetrics other with
    | none => exact .none
    | some figure => exact .some le_rfl
  raised other _ :=
    figure_set_rel (fun value higher => higher = value ∨ 0 ≤ value ∧ value ≤ higher)
      (fun _ => .inl rfl) supplied (.inr ⟨nonneg, above⟩) other
  kept other _ unlisted := figure_set_other fun same => unlisted (same ▸ listed)

end OneFigure

/-- Accepted metrics know a spread, a volume and a notional within their limits,
and no worse metrics are accepted in place of better ones unless a volume or
notional has become negative and with it unknown. -/
theorem quoteGate (candidate : TradeCandidate) (settings : Settings) :
    (∀ quoteMetrics, AcceptsQuotes candidate settings quoteMetrics →
      KnowsQuotes candidate settings quoteMetrics) ∧
    ∀ quoteMetrics worse, Worse quoteMetrics worse → StillKnown quoteMetrics worse →
      AcceptsQuotes candidate settings (some worse) →
        AcceptsQuotes candidate settings (some quoteMetrics) :=
  ⟨fun _ accepted => accepted.knows, fun _ _ worsened known accepted =>
    worsened.accepts known accepted⟩

/-- Quotes well within every limit. -/
def liquidQuotes : QuoteMetrics :=
  ((((Dict.empty.set "bid" (some (9995 / 100))).set "ask" (some 100)).set
    "volume" (some 200000)).set "average_daily_volume" (some 1000000)).set
    "estimated_slippage_pct" (some (1 / 2000))

/-- With less volume they are accepted, so they are accepted as they are. -/
theorem quoteGate_liquidQuotes :
    KnowsQuotes relianceBuy.candidate liveSettings
        (some (liquidQuotes.set "volume" (some 60000))) ∧
      AcceptsQuotes relianceBuy.candidate liveSettings (some liquidQuotes) := by
  have accepted : AcceptsQuotes relianceBuy.candidate liveSettings
      (some (liquidQuotes.set "volume" (some 60000))) := ⟨by decide +kernel, by decide +kernel⟩
  have lower : Worse liquidQuotes (liquidQuotes.set "volume" (some 60000)) :=
    worse_lower (by decide) (by decide +kernel) (by norm_num : (60000 : ℚ) ≤ 200000)
  exact ⟨(quoteGate relianceBuy.candidate liveSettings).1 _ accepted,
    (quoteGate relianceBuy.candidate liveSettings).2 _ _ lower (by decide +kernel) accepted⟩

/-- Quotes with a thin volume of the day and a good average. -/
def thinQuotes : QuoteMetrics :=
  ((((Dict.empty.set "spread_pct" (some (1 / 1000))).set "volume" (some 40000)).set
    "average_daily_volume" (some 1000000)).set "average_daily_notional_inr" (some 100000000))

/-- Thin quotes are rejected, and accepted once their volume is negative. -/
theorem thinQuotes_negative_volume : ¬GateMonotone relianceBuy.candidate liveSettings := by
  intro monotone
  have accepted := monotone thinQuotes (thinQuotes.set "volume" (some (-1)))
    (worse_lower (by decide) (by decide +kernel) (by norm_num : (-1 : ℚ) ≤ 40000))
    ⟨by decide +kernel, by decide +kernel⟩
  exact absurd accepted.1 (by decide +kernel)

end AlphaAgent.Risk
