import AlphaAgent.Core.IsoFormat
import AlphaAgent.Foundation.Newest
import AlphaAgent.Intraday.Models
import AlphaAgent.News.Ingestion
import Mathlib.Data.List.MinMax

/-!
# The news guard

`NewsSentimentService.assess`. The hundred newest items of the window are read before
it is asked which of them are about the market or the symbol. So a new item which
does not block can push the only one which does out of what is read.
-/

namespace AlphaAgent.News

open Foundation
open Risk (isSpace)
open Intraday (roundHalfEven)

/-- `str.lower` and `str.upper`. -/
structure CaseTexts where
  lower : String → String
  upper : String → String

/-- The settings which the guard reads, with their bounds. -/
structure NewsSettings where
  newsSentimentGuardEnabled : Bool := true
  newsNegativeScoreThreshold : {value : ℚ // -1 ≤ value ∧ value ≤ 0} := ⟨-15 / 100, by norm_num⟩
  newsSentimentRiskWindowHours : {value : ℤ // 1 ≤ value ∧ value ≤ 168} := ⟨36, by decide⟩

inductive NewsAction where
  | allow
  | caution
  | blockNewEntries
deriving DecidableEq, Repr

inductive NewsSeverity where
  | info
  | warn
deriving DecidableEq, Repr

structure NewsSentimentRisk where
  market : Market
  symbol : Option String
  action : NewsAction
  severity : NewsSeverity
  reason : String
  headlineCount : ℕ
  matchedHeadlines : List String
  sentimentScore : Option ℚ := none
  provider : Option String := none
  shadowOnly : Bool := true
  noOrderPlacement : Bool := true
deriving DecidableEq

/-- `blocks_new_entries`. -/
def NewsSentimentRisk.blocksNewEntries (risk : NewsSentimentRisk) : Bool :=
  risk.action = .blockNewEntries

def marketNegativeKeywords : List String :=
  ["crash", "selloff", "sell-off", "panic", "war", "attack", "conflict", "sanction", "inflation",
    "recession", "downgrade", "default", "rate hike", "currency crisis", "rupee falls", "oil shock",
    "tariff", "ban", "curb", "avoid buying", "stop buying", "do not buy", "unstable"]

def goldRiskKeywords : List String :=
  ["gold", "bullion", "jewellery", "jewelry", "import duty", "gold import", "stop buying gold"]

def goldSensitiveSymbols : List String :=
  ["TITAN", "KALYANKJIL", "SENCO", "TBZ", "THANGAMAYL", "RAJESHEXPO", "GOLD", "GOLDBEES"]

section Keyword

/-- What can follow one or more blanks at the start of a text. -/
def afterBlanks : List Char → List (List Char)
  | [] => []
  | char :: rest => if isSpace char then rest :: afterBlanks rest else []

/-- What can follow a keyword at the start of a text; a blank of the keyword stands
for one or more. -/
def afterKeyword : List Char → List Char → List (List Char)
  | [], text => [text]
  | ' ' :: keyword, text => (afterBlanks text).flatMap (afterKeyword keyword)
  | _ :: _, [] => []
  | char :: keyword, first :: rest => if char = first then afterKeyword keyword rest else []

/-- A character of `[a-z0-9]`. -/
def isWordChar (char : Char) : Bool := char.isLower || char.isDigit

/-- The keyword occurs, neither preceded nor followed by a word character. -/
def occursAfter (keyword : List Char) (previous : Option Char) : List Char → Bool
  | [] => !previous.any isWordChar &&
      (afterKeyword keyword []).any fun rest => !rest.head?.any isWordChar
  | char :: text =>
    (!previous.any isWordChar &&
      (afterKeyword keyword (char :: text)).any fun rest => !rest.head?.any isWordChar) ||
        occursAfter keyword (some char) text

/-- `_contains_keyword`. -/
def containsKeyword (texts : CaseTexts) (text keyword : String) : Bool :=
  occursAfter (texts.lower keyword).toList none (texts.lower text).toList

end Keyword

/-- `value:.3f`. -/
def threeDecimals (value : ℚ) : String :=
  let units := roundHalfEven (|value| * 1000)
  (if value < 0 then "-" else "") ++ toString (units / 1000) ++ "." ++
    String.ofList (Day.padded 3 (units % 1000).toNat)

namespace NewsSentimentService

section Rules

variable (texts : CaseTexts) (settings : NewsSettings) (market : Market) (symbol : Option String)

/-- `_headline_applies`. -/
def headlineApplies (item : NewsItem) : Bool :=
  match item.symbol.filter (· ≠ ""), symbol.filter (· ≠ "") with
  | some itemSymbol, some wanted => texts.upper itemSymbol = texts.upper wanted
  | _, _ => item.market.all (· = market)

/-- `_sentiment_score`. -/
def sentimentScore (item : NewsItem) : Option ℚ :=
  (item.rawPayload.get "overall_sentiment_score").toFloat.toOption

/-- The score of an item which is negative enough and applies. -/
def negativeScore (item : NewsItem) : Option ℚ :=
  (sentimentScore item).filter fun score =>
    score ≤ settings.newsNegativeScoreThreshold.val && headlineApplies texts market symbol item

/-- `_score_based_risk`. -/
def scoreBasedRisk (items : List NewsItem) : Option NewsSentimentRisk :=
  let scored := items.filterMap fun item =>
    (negativeScore texts settings market symbol item).map fun score => (item, score)
  (scored.argmin Prod.snd).map fun (worstItem, worstScore) =>
    { market
      symbol
      action := .blockNewEntries
      severity := .warn
      reason := "negative_news_sentiment_score:" ++ threeDecimals worstScore
      headlineCount := items.length
      matchedHeadlines := (scored.take 5).map (·.1.headline)
      sentimentScore := some worstScore
      provider := some worstItem.provider }

/-- The headline of an item matches a keyword of the market, of gold or of the symbol. -/
def keywordMatches (item : NewsItem) : Bool :=
  let symbolUpper := texts.upper (symbol.getD "")
  let headline := texts.lower item.headline
  let marketHit := marketNegativeKeywords.any (containsKeyword texts headline)
  let goldHit := goldRiskKeywords.any (containsKeyword texts headline)
  let symbolHit := symbolUpper ≠ "" && containsKeyword texts headline symbolUpper
  (marketHit && headlineApplies texts market symbol item) || symbolHit ||
    (goldHit && symbolUpper ∈ goldSensitiveSymbols)

/-- `_keyword_based_risk`. -/
def keywordBasedRisk (items : List NewsItem) : Option NewsSentimentRisk :=
  match (items.filter (keywordMatches texts market symbol)).map (·.headline) with
  | [] => none
  | headlines => some
    { market
      symbol
      action := .blockNewEntries
      severity := .warn
      reason := "negative_news_keyword_risk"
      headlineCount := items.length
      matchedHeadlines := headlines.take 5 }

/-- `_clear`. -/
def clear (reason : String) (headlineCount : ℕ) : NewsSentimentRisk where
  market
  symbol
  action := .allow
  severity := .info
  reason
  headlineCount
  matchedHeadlines := []

/-- The instant from which on the guard reads items. -/
def windowStart (now : ℤ) : ℤ := now - settings.newsSentimentRiskWindowHours.val * 3600000000

/-- The rows of the window which ends now. -/
def riskWindow (now : ℤ) (table : List NewsItem) : List NewsItem :=
  table.filter (windowStart settings now ≤ ·.publishedAt)

/-- `assess`. -/
def assess (now : ℤ) (table : List NewsItem) : NewsSentimentRisk :=
  if !settings.newsSentimentGuardEnabled then
    clear market symbol "news_sentiment_guard_disabled" 0
  else
    let items := newest (·.publishedAt) 100 (riskWindow settings now table)
    if items = [] then
      { market
        symbol
        action := .caution
        severity := .warn
        reason := "fresh_news_sentiment_unavailable"
        headlineCount := 0
        matchedHeadlines := [] }
    else
      match scoreBasedRisk texts settings market symbol items,
          keywordBasedRisk texts market symbol items with
      | some risk, _ => risk
      | none, some risk => risk
      | none, none => clear market symbol "no_blocking_news_sentiment_detected" items.length

/-- A rule of the guard blocks for the item. -/
def blocking (item : NewsItem) : Bool :=
  (negativeScore texts settings market symbol item).isSome ||
    keywordMatches texts market symbol item

theorem scoreBasedRisk_cases (items : List NewsItem) :
    (scoreBasedRisk texts settings market symbol items = none ∧
        ∀ item ∈ items, (negativeScore texts settings market symbol item).isSome = false) ∨
      ∃ risk, scoreBasedRisk texts settings market symbol items = some risk ∧
        risk.blocksNewEntries = true ∧
          ∃ item ∈ items, (negativeScore texts settings market symbol item).isSome = true := by
  unfold scoreBasedRisk
  extract_lets scored
  cases worst : scored.argmin Prod.snd with
  | none =>
    have empty : scored = [] := List.argmin_eq_none.mp worst
    refine .inl ⟨rfl, fun item member => ?_⟩
    have unscored := List.filterMap_eq_nil_iff.mp empty item member
    rw [Option.isSome_eq_false_iff, Option.isNone_iff_eq_none]
    exact Option.map_eq_none_iff.mp unscored
  | some found =>
    obtain ⟨item, member, scores⟩ := List.mem_filterMap.mp (List.argmin_mem worst)
    obtain ⟨score, negative, -⟩ := Option.map_eq_some_iff.mp scores
    exact .inr ⟨_, rfl, rfl, item, member, negative ▸ rfl⟩

theorem keywordBasedRisk_cases (items : List NewsItem) :
    (keywordBasedRisk texts market symbol items = none ∧
        ∀ item ∈ items, keywordMatches texts market symbol item = false) ∨
      ∃ risk, keywordBasedRisk texts market symbol items = some risk ∧
        risk.blocksNewEntries = true ∧
          ∃ item ∈ items, keywordMatches texts market symbol item = true := by
  unfold keywordBasedRisk
  cases matched : items.filter (keywordMatches texts market symbol) with
  | nil =>
    refine .inl ⟨rfl, fun item member => ?_⟩
    exact Bool.eq_false_iff.mpr (List.filter_eq_nil_iff.mp matched item member)
  | cons item rest =>
    have found : item ∈ items.filter (keywordMatches texts market symbol) := by
      rw [matched]
      exact List.mem_cons_self
    exact .inr ⟨_, rfl, rfl, item, List.mem_filter.mp found⟩

/-- The guard blocks for an item among the newest ones of the window. -/
theorem assess_blocks (now : ℤ) (table : List NewsItem) :
    (assess texts settings market symbol now table).blocksNewEntries =
      (settings.newsSentimentGuardEnabled &&
        (newest (·.publishedAt) 100 (riskWindow settings now table)).any
          (blocking texts settings market symbol)) := by
  unfold assess
  extract_lets items
  cases settings.newsSentimentGuardEnabled with
  | false => rfl
  | true =>
    rw [Bool.true_and]
    change NewsSentimentRisk.blocksNewEntries (if items = [] then _ else _) = items.any _
    split_ifs with empty
    · rw [empty]
      rfl
    · rcases scoreBasedRisk_cases texts settings market symbol items with
        ⟨none, unscored⟩ | ⟨risk, some, blocks, item, member, scored⟩
      · rw [none]
        rcases keywordBasedRisk_cases texts market symbol items with
          ⟨none, unmatched⟩ | ⟨risk, some, blocks, item, member, hits⟩
        · rw [none]
          refine (List.any_eq_false.mpr fun item member => ?_).symm
          rw [blocking, unscored item member, unmatched item member]
          decide
        · rw [some]
          refine blocks.trans (List.any_eq_true.mpr ⟨item, member, ?_⟩).symm
          rw [blocking, hits, Bool.or_true]
      · rw [some]
        refine blocks.trans (List.any_eq_true.mpr ⟨item, member, ?_⟩).symm
        rw [blocking, scored, Bool.true_or]

/-- A new item keeps a block unless the guard reads it in the place of the hundredth
item, which alone blocks. -/
theorem newsGuard_keeps_iff (texts : CaseTexts) (settings : NewsSettings) (market : Market)
    (symbol : Option String) (now : ℤ) (table : List NewsItem) (item : NewsItem) :
    ((assess texts settings market symbol now table).blocksNewEntries = true →
        (assess texts settings market symbol now (table ++ [item])).blocksNewEntries = true) ↔
      ¬(settings.newsSentimentGuardEnabled = true ∧
        windowStart settings now ≤ item.publishedAt ∧
          Displaces (·.publishedAt) (blocking texts settings market symbol) 99
            (riskWindow settings now table) item) := by
  rw [assess_blocks, assess_blocks]
  cases settings.newsSentimentGuardEnabled with
  | false => simp
  | true =>
    have window : riskWindow settings now (table ++ [item]) = riskWindow settings now table ++
        if windowStart settings now ≤ item.publishedAt then [item] else [] := by
      simp only [riskWindow, List.filter_append, List.filter_cons, List.filter_nil,
        decide_eq_true_eq]
    rw [window]
    simp only [Bool.true_and, true_and]
    split_ifs with inside
    · rw [and_iff_right inside]
      exact keeps_hit_iff _ _ 99 _ item
    · rw [List.append_nil]
      exact iff_of_true id fun both => inside both.1

/-- A headline of a market, so many microseconds after the start of a day. -/
def headlineAt (market : Market) (headline : String) (since : ℤ) : NewsItem where
  market := some market
  symbol := none
  provider := "ALPHA_VANTAGE_NEWS"
  headline
  url := ""
  publishedAt := 1778630400000000 + since
  rawPayload := []

/-- One item blocks for India, and 99 later ones are about the US. -/
def busyTable : List NewsItem :=
  headlineAt .india "ban" 0 :: List.replicate 99 (headlineAt .us "calm" 1)

/-- The next item about the US ends the block for India. -/
theorem newsGuard_unblocks : ¬∀ (texts : CaseTexts) (settings : NewsSettings) (market : Market)
    (symbol : Option String) (now : ℤ) (table : List NewsItem) (item : NewsItem),
    (assess texts settings market symbol now table).blocksNewEntries = true →
      (assess texts settings market symbol now (table ++ [item])).blocksNewEntries = true := by
  intro keeps
  have blocked : (assess ⟨id, id⟩ {} .india none 1778630400000001 busyTable).blocksNewEntries =
      true := by decide +kernel
  have unblocked : (assess ⟨id, id⟩ {} .india none 1778630400000001
      (busyTable ++ [headlineAt .us "calm" 1])).blocksNewEntries = false := by decide +kernel
  have kept := keeps ⟨id, id⟩ {} .india none 1778630400000001 busyTable
    (headlineAt .us "calm" 1) blocked
  rw [unblocked] at kept
  cases kept

end Rules
end NewsSentimentService
end AlphaAgent.News
