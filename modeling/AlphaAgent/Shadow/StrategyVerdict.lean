import AlphaAgent.Intraday.Rounding
import AlphaAgent.Shadow.Strategy

/-!
# When the conservative strategy buys

The strategy adds weights to a score, compares the score with a threshold and asks
for flags which block. Every criterion but the volume and a missing average leaves
a flag which blocks, and the other weights alone pass the threshold: the score
decides nothing. What is bought has its stop below and its target above the price.
-/

namespace AlphaAgent.Shadow.ConservativeShadowStrategy

open Intraday (roundTo abs_roundTo_sub_le lt_roundTo_iff)

/-- The quote of the first instrument, or nothing. -/
def quotePayload (quote : Mapping) : Mapping := (firstQuotePayload quote).getD []

/-- The session prices of a quote, where they are a mapping. -/
def quoteOhlc (quote : Mapping) : Mapping :=
  match (quotePayload quote).get "ohlc" with
  | .object fields => fields
  | _ => []

/-- How far below the price the stop is put, as a share of it. -/
def stopPctAt (lastPrice highPrice lowPrice closePrice : ℚ) : ℚ :=
  let sessionRange := max (highPrice - lowPrice) 0
  let trueRangeProxy :=
    max (max (max sessionRange |highPrice - closePrice|) |lowPrice - closePrice|)
      (lastPrice * minStopPct)
  min (max (trueRangeProxy * stopRangeMultiplier / lastPrice) minStopPct) maxStopPct

/-- The rounded ratio of reward to risk at some prices. -/
def rewardRiskRatioAt (lastPrice highPrice lowPrice closePrice : ℚ) : ℚ :=
  let stopLoss := roundTo 2 (lastPrice * (1 - stopPctAt lastPrice highPrice lowPrice closePrice))
  let expectedRisk := roundTo 4 (lastPrice - stopLoss)
  let takeProfit := roundTo 2 (lastPrice + expectedRisk * rewardMultiple)
  let expectedReward := roundTo 4 (takeProfit - lastPrice)
  if 0 < expectedRisk then roundTo 4 (expectedReward / expectedRisk) else 0

/-- The criteria whose failure blocks, for parsed prices. -/
structure Clears (lastPrice openPrice highPrice lowPrice closePrice : ℚ)
    (averagePrice : Option ℚ) : Prop where
  aboveOpen : openPrice < lastPrice
  aboveClose : closePrice < lastPrice
  aboveAverage : ∀ average, averagePrice = some average → average ≤ lastPrice
  inBand : minRangePct ≤ max (highPrice - lowPrice) 0 / lastPrice ∧
    max (highPrice - lowPrice) 0 / lastPrice ≤ maxRangePct
  gap : maxAdverseGapPct ≤ (openPrice - closePrice) / closePrice
  rewarded : minRewardRiskRatio ≤ rewardRiskRatioAt lastPrice highPrice lowPrice closePrice

section Verdict

/-- No flag of a failed criterion blocks. -/
theorem noBlocker_iff (criteria : List Criterion) :
    (!("observation_only_no_order_intent" ::
        (criteria.filter (!·.passes)).map (·.flag)).any (· ∈ hardBlockers)) = true ↔
      ∀ criterion ∈ criteria, criterion.flag ∈ hardBlockers → criterion.passes = true := by
  have first : ("observation_only_no_order_intent" ∈ hardBlockers) = False := by decide
  simp only [List.any_cons, first, decide_false, Bool.false_or, Bool.not_eq_eq_eq_not,
    Bool.not_true, List.any_eq_false, List.mem_map, List.mem_filter, decide_eq_true_eq,
    forall_exists_index, and_imp]
  constructor
  · intro none criterion member blocks
    by_contra fails
    exact none _ criterion member (Bool.not_eq_true _ ▸ fails) rfl blocks
  · rintro passes _ criterion member fails rfl blocks
    rw [passes criterion member blocks] at fails
    cases fails

/-- The average price blocks only where it is known. -/
theorem averageFlag_blocks (averagePrice : Option ℚ) :
    averageFlag averagePrice ∈ hardBlockers ↔ averagePrice.isSome = true := by
  cases averagePrice with
  | none => decide
  | some average => exact iff_of_true (by simp [averageFlag, hardBlockers]) rfl

variable (lastPrice openPrice highPrice lowPrice closePrice : ℚ) (averagePrice volume : Option ℚ)

/-- The strategy buys what clears every criterion which blocks. The score passes its
threshold without the criteria which do not block. -/
theorem assessPrices_buy_iff :
    (assessPrices lastPrice openPrice highPrice lowPrice closePrice averagePrice volume).action =
        .buy ↔
      Clears lastPrice openPrice highPrice lowPrice closePrice averagePrice := by
  unfold assessPrices
  extract_lets sessionRange trueRangeProxy rangePct gapPct stopPct stopLoss expectedRisk takeProfit
    expectedReward rewardRiskRatio criteria score reasons riskFlags confidence buys
  have ratioAt : rewardRiskRatioAt lastPrice highPrice lowPrice closePrice = rewardRiskRatio :=
    rfl
  have unblocked : (!riskFlags.any (· ∈ hardBlockers)) = true ↔
      Clears lastPrice openPrice highPrice lowPrice closePrice averagePrice := by
    rw [noBlocker_iff criteria]
    have volumeFlag : "volume_missing" ∉ hardBlockers := by decide
    have average : (averagePrice.isSome = true → averagePrice.any (· ≤ lastPrice) = true) ↔
        ∀ average, averagePrice = some average → average ≤ lastPrice := by
      cases averagePrice <;> simp
    simp only [criteria, List.forall_mem_cons, averageFlag_blocks, average, volumeFlag]
    simp [hardBlockers]
    constructor
    · rintro ⟨opened, closed, known, band, gap, ratio⟩
      exact ⟨opened, closed, known, band, gap, ratioAt ▸ ratio⟩
    · rintro ⟨opened, closed, known, band, gap, ratio⟩
      exact ⟨opened, closed, known, band, gap, ratioAt ▸ ratio⟩
  have scored : Clears lastPrice openPrice highPrice lowPrice closePrice averagePrice →
      minConfidence ≤ confidence := by
    intro clears
    obtain ⟨opened, closed, -, ⟨wide, narrow⟩, gap, ratio⟩ := clears
    change minRangePct ≤ rangePct at wide
    change rangePct ≤ maxRangePct at narrow
    change maxAdverseGapPct ≤ gapPct at gap
    rw [ratioAt] at ratio
    have full : 82 / 100 ≤ score := by
      simp only [score, criteria, List.filter_cons, opened, closed, wide, narrow, gap, ratio,
        decide_true, Bool.and_self, if_true, List.filter_nil]
      split_ifs <;> norm_num
    have rounded : confidence = 82 / 100 := by
      simp only [confidence, min_eq_right full]
      decide +kernel
    rw [rounded, minConfidence]
    norm_num
  have bought : buys = true ↔ minConfidence ≤ confidence ∧ minRewardRiskRatio ≤ rewardRiskRatio ∧
      (!riskFlags.any (· ∈ hardBlockers)) = true := by
    simp only [buys, Bool.and_eq_true, decide_eq_true_eq, and_assoc]
  have action : (if buys then TradeAction.buy else .noTrade) = .buy ↔ buys = true := by
    cases buys <;> decide
  refine action.trans (bought.trans ?_)
  exact ⟨fun both => unblocked.mp both.2.2,
    fun clears => ⟨scored clears, ratioAt ▸ clears.rewarded, unblocked.mpr clears⟩⟩

/-- A rounded value is positive from beyond the half of its last digit. -/
theorem roundTo_pos_iff (digits : ℕ) (value : ℚ) :
    0 < roundTo digits value ↔ 1 / 2 < value * 10 ^ digits := by
  rw [lt_roundTo_iff]
  norm_num

theorem pos_of_roundTo_pos {digits : ℕ} {value : ℚ} (rounded : 0 < roundTo digits value) :
    0 < value := by
  have half : 1 / 2 < value * 10 ^ digits := (roundTo_pos_iff digits value).mp rounded
  have scaled : 0 < value * 10 ^ digits := lt_trans (by norm_num) half
  exact pos_of_mul_pos_left scaled (by positivity)

variable {lastPrice openPrice highPrice lowPrice closePrice averagePrice volume}

/-- The levels of a positive ratio of reward to risk lie around the price. -/
theorem assessPrices_levels (priced : 1 / 100 ≤ lastPrice)
    (rewarded : 0 < rewardRiskRatioAt lastPrice highPrice lowPrice closePrice) :
    ∃ stopLoss takeProfit,
      (assessPrices lastPrice openPrice highPrice lowPrice closePrice averagePrice
          volume).stopLoss = some stopLoss ∧
        (assessPrices lastPrice openPrice highPrice lowPrice closePrice averagePrice
          volume).takeProfit = some takeProfit ∧
          0 < stopLoss ∧ stopLoss < lastPrice ∧ lastPrice < takeProfit := by
  unfold assessPrices
  extract_lets sessionRange trueRangeProxy rangePct gapPct stopPct stopLoss expectedRisk takeProfit
    expectedReward rewardRiskRatio
  refine ⟨stopLoss, takeProfit, rfl, rfl, ?_⟩
  change 0 < rewardRiskRatio at rewarded
  have risked : 0 < expectedRisk := by
    by_contra none
    simp only [rewardRiskRatio, if_neg none, lt_self_iff_false] at rewarded
  have ratio : 0 < expectedReward / expectedRisk := by
    simp only [rewardRiskRatio, if_pos risked] at rewarded
    exact pos_of_roundTo_pos rewarded
  have reward : 0 < expectedReward := (div_pos_iff_of_pos_right risked).mp ratio
  have narrow : stopPct ≤ 3 / 100 := min_le_right _ _
  -- A stop of at most three percent leaves more than half a cent of any whole cent.
  have kept : 1 / 100 * (97 / 100) ≤ lastPrice * (1 - stopPct) :=
    mul_le_mul priced (by linarith) (by norm_num) (le_trans (by norm_num) priced)
  have stopPositive : 0 < stopLoss := by
    rw [roundTo_pos_iff]
    norm_num at kept ⊢
    linarith
  exact ⟨stopPositive, sub_pos.mp (pos_of_roundTo_pos risked),
    sub_pos.mp (pos_of_roundTo_pos reward)⟩

end Verdict

section Assess

variable {quote : Mapping} {lastPrice : ℚ}

/-- The session prices of a quote, all of them positive. -/
structure HasPrices (quote : Mapping) (openPrice highPrice lowPrice closePrice : ℚ) : Prop where
  openPrice : positiveFloat ((quoteOhlc quote).get "open") = some openPrice
  highPrice : positiveFloat ((quoteOhlc quote).get "high") = some highPrice
  lowPrice : positiveFloat ((quoteOhlc quote).get "low") = some lowPrice
  closePrice : positiveFloat ((quoteOhlc quote).get "close") = some closePrice

theorem assess_some (priced : 0 < lastPrice) : assess quote (some lastPrice) =
    match positiveFloat ((quoteOhlc quote).get "open"),
        positiveFloat ((quoteOhlc quote).get "high"), positiveFloat ((quoteOhlc quote).get "low"),
        positiveFloat ((quoteOhlc quote).get "close") with
    | some openPrice, some highPrice, some lowPrice, some closePrice =>
      assessPrices lastPrice openPrice highPrice lowPrice closePrice
        (positiveFloat ((quotePayload quote).get "average_price"))
        (positiveFloat ((quotePayload quote).get "volume"))
    | _, _, _, _ => noTrade
      ["observation_only_no_order_intent", "insufficient_ohlc_for_strategy"] :=
  if_neg (not_le.mpr priced)

theorem assess_of_hasPrices (priced : 0 < lastPrice) {openPrice highPrice lowPrice closePrice : ℚ}
    (has : HasPrices quote openPrice highPrice lowPrice closePrice) :
    assess quote (some lastPrice) = assessPrices lastPrice openPrice highPrice lowPrice closePrice
      (positiveFloat ((quotePayload quote).get "average_price"))
      (positiveFloat ((quotePayload quote).get "volume")) := by
  rw [assess_some priced, has.openPrice, has.highPrice, has.lowPrice, has.closePrice]

/-- Without its session prices a quote is not bought. -/
theorem hasPrices_of_buy (priced : 0 < lastPrice)
    (buys : (assess quote (some lastPrice)).action = .buy) :
    ∃ openPrice highPrice lowPrice closePrice,
      HasPrices quote openPrice highPrice lowPrice closePrice := by
  rw [assess_some priced] at buys
  split at buys
  · next opens highs lows closes => exact ⟨_, _, _, _, opens, highs, lows, closes⟩
  · cases buys

/-- The strategy buys exactly where the prices clear every criterion which blocks, and
the levels of what it buys lie around the price. -/
theorem assess_buys_iff (quote : Mapping) (lastPrice : ℚ) (priced : 1 / 100 ≤ lastPrice) :
    ((assess quote (some lastPrice)).action = .buy ↔
        ∃ openPrice highPrice lowPrice closePrice,
          HasPrices quote openPrice highPrice lowPrice closePrice ∧
            Clears lastPrice openPrice highPrice lowPrice closePrice
              (positiveFloat ((quotePayload quote).get "average_price"))) ∧
      ((assess quote (some lastPrice)).action = .buy →
        ∃ stopLoss takeProfit, (assess quote (some lastPrice)).stopLoss = some stopLoss ∧
          (assess quote (some lastPrice)).takeProfit = some takeProfit ∧
            0 < stopLoss ∧ stopLoss < lastPrice ∧ lastPrice < takeProfit) := by
  have positive : 0 < lastPrice := lt_of_lt_of_le (by norm_num) priced
  refine ⟨⟨fun buys => ?_, ?_⟩, fun buys => ?_⟩
  · obtain ⟨openPrice, highPrice, lowPrice, closePrice, has⟩ := hasPrices_of_buy positive buys
    refine ⟨openPrice, highPrice, lowPrice, closePrice, has, ?_⟩
    rw [assess_of_hasPrices positive has] at buys
    exact (assessPrices_buy_iff _ _ _ _ _ _ _).mp buys
  · rintro ⟨openPrice, highPrice, lowPrice, closePrice, has, clears⟩
    rw [assess_of_hasPrices positive has]
    exact (assessPrices_buy_iff _ _ _ _ _ _ _).mpr clears
  · obtain ⟨openPrice, highPrice, lowPrice, closePrice, has⟩ := hasPrices_of_buy positive buys
    rw [assess_of_hasPrices positive has] at buys ⊢
    have clears := (assessPrices_buy_iff _ _ _ _ _ _ _).mp buys
    exact assessPrices_levels priced (lt_of_lt_of_le (by decide +kernel) clears.rewarded)

/-- A quote at 102 in a session from 100 to 103, above the close of 99. -/
def risingQuote : Mapping :=
  [("data", .object [("NSE:TCS", .object [("last_price", .number 102), ("ohlc", .object
    [("open", .number 100), ("high", .number 103), ("low", .number 100),
      ("close", .number 99)])])])]

/-- It is bought without volume and average price. -/
theorem assess_buys_iff_rising :
    (assess risingQuote (some 102)).action = .buy ∧
      ((assess risingQuote (some 102)).action = .buy ↔
        ∃ openPrice highPrice lowPrice closePrice,
          HasPrices risingQuote openPrice highPrice lowPrice closePrice ∧
            Clears 102 openPrice highPrice lowPrice closePrice
              (positiveFloat ((quotePayload risingQuote).get "average_price"))) ∧
      ((assess risingQuote (some 102)).action = .buy →
        ∃ stopLoss takeProfit, (assess risingQuote (some 102)).stopLoss = some stopLoss ∧
          (assess risingQuote (some 102)).takeProfit = some takeProfit ∧
            0 < stopLoss ∧ stopLoss < 102 ∧ 102 < takeProfit) :=
  ⟨by decide +kernel, assess_buys_iff risingQuote 102 (by norm_num)⟩

end Assess

end AlphaAgent.Shadow.ConservativeShadowStrategy
