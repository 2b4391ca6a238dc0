import AlphaAgent.Core.Enums
import AlphaAgent.Core.Json
import AlphaAgent.Foundation.Calls
import AlphaAgent.Foundation.Fallible
import AlphaAgent.Risk.MarketCalendar

/-!
# News ingestion

A feed is stored by one session and committed at its end. The session asks the
database whether an item is there before it adds its row; the query does not see
the rows which the session has not flushed, and the sessions of the platform flush
nothing before a query. So two alike items of one feed are both stored.
-/

namespace AlphaAgent.News

open Foundation
open Risk (strip)

/-- A row of the table `news`. -/
structure NewsItem where
  market : Option Market
  symbol : Option String
  provider : String
  headline : String
  url : String
  publishedAt : ℤ
  rawPayload : Mapping

/-- What the interpreter makes of a value which is no text (`str`), and of a time in
the format of the feeds (`strptime`). -/
structure FeedTexts where
  str : Json → String
  strptime : String → Option ℤ

/-- An item of a feed, and the clock when it is read. -/
structure FeedItem where
  fields : Mapping
  readAt : ℤ

/-- `text[:length]`. -/
def truncated (length : ℕ) (text : String) : String := String.ofList (text.toList.take length)

/-- The pair by which ingestion knows a row. -/
def NewsItem.key (row : NewsItem) : String × String := (row.headline, row.url)

namespace FeedTexts

variable (texts : FeedTexts)

/-- `str(value or "")`. -/
def text (value : Json) : String :=
  match value.orElse (.text "") with
  | .text written => written
  | other => texts.str other

/-- `parse_news_time`. -/
def parseNewsTime (readAt : ℤ) (value : Json) : Except RaisedError ℤ :=
  if value.isFalsy then .ok readAt
  else
    match value with
    | .text written => .ok ((texts.strptime written).getD readAt)
    | _ => .error (.typeError "strptime() argument 1 must be str")

end FeedTexts

namespace FeedItem

variable (texts : FeedTexts) (item : FeedItem)

def title : String := String.ofList (strip (texts.text (item.fields.get "title")).toList)

def url : String := texts.text (item.fields.get "url")

/-- The symbol of the first ticker of an item. -/
def symbol : Option String :=
  match item.fields.get "ticker_sentiment" with
  | .list (.object first :: _) =>
    let ticker := truncated 64 (texts.text (Mapping.get first "ticker"))
    if ticker = "" then none else some ticker
  | _ => none

/-- The pair which the row of an item has. -/
def key : String × String := (truncated 500 (item.title texts), truncated 1000 (item.url texts))

end FeedItem

/-- `_infer_market`. -/
def inferMarket : Option String → Option Market
  | none => none
  | some symbol =>
    if symbol = "" then none else if '.' ∈ symbol.toList then some .india else some .us

/-- The rows which a session has: the committed ones, and those which it has added. -/
structure NewsSession where
  stored : List NewsItem
  pending : List NewsItem := []
  autoflush : Bool

namespace NewsSession

/-- A session of `SessionLocal`. -/
def sessionLocal (stored : List NewsItem) : NewsSession := { stored, autoflush := false }

/-- The rows which a query of the session sees. -/
def visible (session : NewsSession) : List NewsItem :=
  if session.autoflush then session.stored ++ session.pending else session.stored

/-- The rows after a commit. -/
def committed (session : NewsSession) : List NewsItem := session.stored ++ session.pending

/-- `_news_exists`. -/
def newsExists (session : NewsSession) (headline url : String) : Bool :=
  session.visible.any fun row =>
    row.headline = truncated 500 headline && row.url = truncated 1000 url

end NewsSession

section Store

variable (texts : FeedTexts)

/-- The row of an item which was published at an instant. -/
def FeedItem.row (item : FeedItem) (publishedAt : ℤ) : NewsItem where
  market := inferMarket (item.symbol texts)
  symbol := item.symbol texts
  provider := "ALPHA_VANTAGE_NEWS"
  headline := truncated 500 (item.title texts)
  url := truncated 1000 (item.url texts)
  publishedAt
  rawPayload := item.fields

/-- One turn of the loop in `_store_alpha_vantage_feed`. -/
def storeItem (session : NewsSession) (item : FeedItem) : Except RaisedError NewsSession :=
  if item.title texts = "" then .ok session
  else if session.newsExists (item.title texts) (item.url texts) then .ok session
  else do
    let publishedAt ← texts.parseNewsTime item.readAt (item.fields.get "time_published")
    return { session with pending := session.pending ++ [item.row texts publishedAt] }

/-- `_store_alpha_vantage_feed`, which counts what it adds. -/
def storeAlphaVantageFeed (session : NewsSession) (feed : List FeedItem) :
    Except RaisedError (NewsSession × ℕ) := do
  let after ← feed.foldlM (storeItem texts) session
  return (after, after.pending.length - session.pending.length)

/-- The rows after the ingestion of a feed, which a raised error rolls back. -/
def ingest (stored : List NewsItem) (feed : List FeedItem) : List NewsItem :=
  match storeAlphaVantageFeed texts (.sessionLocal stored) feed with
  | .ok (session, _) => session.committed
  | .error _ => stored

/-- The time of the item is a text, or missing. -/
def FeedItem.readable (item : FeedItem) : Bool :=
  match item.fields.get "time_published" with
  | .text _ => true
  | value => value.isFalsy

/-- The item has a title and is not among the stored rows. -/
def FeedItem.isNew (stored : List NewsItem) (item : FeedItem) : Bool :=
  item.title texts ≠ "" && item.key texts ∉ stored.map NewsItem.key

def newItems (stored : List NewsItem) (feed : List FeedItem) : List FeedItem :=
  feed.filter fun item => item.isNew texts stored

theorem newsExists_iff {session : NewsSession} (manual : session.autoflush = false)
    (item : FeedItem) : session.newsExists (item.title texts) (item.url texts) = true ↔
      item.key texts ∈ session.stored.map NewsItem.key := by
  simp only [NewsSession.newsExists, NewsSession.visible, manual, Bool.false_eq_true, if_false,
    List.any_eq_true, Bool.and_eq_true, decide_eq_true_eq, List.mem_map, NewsItem.key,
    FeedItem.key, Prod.mk.injEq]

theorem parseNewsTime_cases (item : FeedItem) :
    (item.readable = true ∧ ∃ publishedAt,
        texts.parseNewsTime item.readAt (item.fields.get "time_published") = .ok publishedAt) ∨
      (item.readable = false ∧ ∃ raised,
        texts.parseNewsTime item.readAt (item.fields.get "time_published") = .error raised) := by
  unfold FeedItem.readable FeedTexts.parseNewsTime
  by_cases missing : (item.fields.get "time_published").isFalsy = true
  · refine .inl ⟨?_, item.readAt, if_pos missing⟩
    split
    · rfl
    · exact missing
  · rw [if_neg missing]
    split
    · exact .inl ⟨rfl, _, rfl⟩
    · exact .inr ⟨Bool.eq_false_iff.mpr missing, _, rfl⟩

/-- What one item does to a session which does not flush. -/
theorem storeItem_cases {session : NewsSession} (manual : session.autoflush = false)
    (item : FeedItem) :
    (item.isNew texts session.stored = false ∧ storeItem texts session item = .ok session) ∨
      (item.isNew texts session.stored = true ∧
        ((item.readable = true ∧ ∃ publishedAt, storeItem texts session item =
            .ok { session with pending := session.pending ++ [item.row texts publishedAt] }) ∨
          (item.readable = false ∧ ∃ raised, storeItem texts session item = .error raised))) := by
  have known := newsExists_iff texts manual item
  unfold storeItem FeedItem.isNew
  by_cases untitled : item.title texts = ""
  · exact .inl ⟨by simp [untitled], if_pos untitled⟩
  · rw [if_neg untitled]
    by_cases stored : session.newsExists (item.title texts) (item.url texts) = true
    · exact .inl ⟨by simp [known.mp stored], if_pos stored⟩
    · rw [if_neg stored]
      refine .inr ⟨by simp [untitled, mt known.mpr stored], ?_⟩
      rcases parseNewsTime_cases texts item with ⟨readable, publishedAt, read⟩ |
        ⟨unreadable, raised, failed⟩
      · rw [read]
        exact .inl ⟨readable, publishedAt, rfl⟩
      · rw [failed]
        exact .inr ⟨unreadable, raised, rfl⟩

/-- A session which does not flush adds a row for each new item, in order, unless the
time of one cannot be read. -/
theorem foldlM_storeItem {session : NewsSession} (manual : session.autoflush = false)
    (feed : List FeedItem) :
    ((newItems texts session.stored feed).all (·.readable) = true ∧
        ∃ rows, feed.foldlM (storeItem texts) session =
            .ok { session with pending := session.pending ++ rows } ∧
          rows.map NewsItem.key = (newItems texts session.stored feed).map (·.key texts)) ∨
      ((newItems texts session.stored feed).all (·.readable) = false ∧
        ∃ raised, feed.foldlM (storeItem texts) session = .error raised) := by
  induction feed generalizing session with
  | nil =>
    refine .inl ⟨rfl, [], ?_, rfl⟩
    rw [List.append_nil]
    rfl
  | cons item rest ih =>
    rw [List.foldlM_cons, newItems, List.filter_cons]
    rcases storeItem_cases texts manual item with ⟨known, kept⟩ |
      ⟨isNew, ⟨readable, publishedAt, added⟩ | ⟨unreadable, raised, failed⟩⟩
    · rw [kept, if_neg (Bool.eq_false_iff.mp known)]
      exact ih manual
    · rw [added, if_pos isNew, List.all_cons, readable, Bool.true_and]
      have manual : NewsSession.autoflush { session with
        pending := session.pending ++ [item.row texts publishedAt] } = false := manual
      refine (ih manual).imp_left ?_
      rintro ⟨all, rows, stores, keys⟩
      refine ⟨all, item.row texts publishedAt :: rows, ?_, ?_⟩
      · rw [List.append_assoc] at stores
        exact stores
      · rw [List.map_cons, List.map_cons, keys]
        rfl
    · rw [failed, if_pos isNew, List.all_cons, unreadable, Bool.false_and]
      exact .inr ⟨rfl, raised, rfl⟩

/-- The keys which the ingestion of a feed appends. -/
def newKeys (texts : FeedTexts) (stored : List NewsItem) (feed : List FeedItem) :
    List (String × String) :=
  if (newItems texts stored feed).all (·.readable) then
    (newItems texts stored feed).map (·.key texts)
  else []

/-- The ingestion of a feed appends rows with the new keys. -/
theorem ingest_appends (stored : List NewsItem) (feed : List FeedItem) :
    ∃ rows, ingest texts stored feed = stored ++ rows ∧
      rows.map NewsItem.key = newKeys texts stored feed := by
  have manual : (NewsSession.sessionLocal stored).autoflush = false := rfl
  have stores := foldlM_storeItem texts manual feed
  have items : newItems texts (NewsSession.sessionLocal stored).stored feed =
      newItems texts stored feed := rfl
  rw [items] at stores
  unfold ingest storeAlphaVantageFeed newKeys
  rcases stores with ⟨readable, rows, added, keys⟩ | ⟨unreadable, raised, failed⟩
  · rw [added, if_pos readable]
    exact ⟨rows, rfl, keys⟩
  · rw [failed, unreadable]
    exact ⟨[], (List.append_nil stored).symm, rfl⟩

theorem ingest_keys (stored : List NewsItem) (feed : List FeedItem) :
    (ingest texts stored feed).map NewsItem.key =
      stored.map NewsItem.key ++ newKeys texts stored feed := by
  obtain ⟨rows, appended, keys⟩ := ingest_appends texts stored feed
  rw [appended, List.map_append, keys]

theorem ingest_eq_self {stored : List NewsItem} {feed : List FeedItem}
    (none : newKeys texts stored feed = []) : ingest texts stored feed = stored := by
  obtain ⟨rows, appended, keys⟩ := ingest_appends texts stored feed
  rw [none, List.map_eq_nil_iff] at keys
  rw [appended, keys, List.append_nil]

/-- The new keys of a feed do not depend on the clock. -/
theorem newKeys_congr (stored : List NewsItem) {feed again : List FeedItem}
    (same : again.map FeedItem.fields = feed.map FeedItem.fields) :
    newKeys texts stored again = newKeys texts stored feed := by
  have isNew : ∀ item : FeedItem, FeedItem.isNew texts stored ⟨item.fields, 0⟩ =
      item.isNew texts stored := fun _ => rfl
  have readable : ∀ item : FeedItem, FeedItem.readable ⟨item.fields, 0⟩ = item.readable :=
    fun _ => rfl
  have key : ∀ item : FeedItem, FeedItem.key texts ⟨item.fields, 0⟩ = item.key texts :=
    fun _ => rfl
  have fieldsOf : ∀ feed : List FeedItem, newKeys texts stored feed =
      let news := (feed.map FeedItem.fields).filter fun fields =>
        FeedItem.isNew texts stored ⟨fields, 0⟩
      if news.all fun fields => FeedItem.readable ⟨fields, 0⟩ then
        news.map fun fields => FeedItem.key texts ⟨fields, 0⟩
      else [] := by
    intro feed
    simp only [List.filter_map, List.all_map, List.map_map, Function.comp_def, isNew, readable,
      key, newKeys, newItems]
    rfl
  rw [fieldsOf, fieldsOf, same]

theorem newKeys_unknown (stored : List NewsItem) (feed : List FeedItem) :
    ∀ key ∈ newKeys texts stored feed, key ∉ stored.map NewsItem.key := by
  intro key member
  unfold newKeys at member
  split_ifs at member
  · obtain ⟨item, isNew, rfl⟩ := List.mem_map.mp member
    have fresh := (List.mem_filter.mp isNew).2
    simp only [FeedItem.isNew, Bool.and_eq_true, decide_eq_true_eq] at fresh
    exact fresh.2
  · exact absurd member List.not_mem_nil

/-- A feed which has been ingested has no new keys. -/
theorem newKeys_ingest (stored : List NewsItem) (feed : List FeedItem) :
    newKeys texts (ingest texts stored feed) feed = [] := by
  by_cases readable : (newItems texts stored feed).all (·.readable) = true
  · have known : newItems texts (ingest texts stored feed) feed = [] := by
      refine List.filter_eq_nil_iff.mpr fun item member isNew => ?_
      simp only [FeedItem.isNew, Bool.and_eq_true, decide_eq_true_eq, ingest_keys,
        List.mem_append, not_or] at isNew
      obtain ⟨titled, unstored, unadded⟩ := isNew
      rw [newKeys, if_pos readable] at unadded
      refine unadded (List.mem_map_of_mem (List.mem_filter.mpr ⟨member, ?_⟩))
      simp [FeedItem.isNew, titled, unstored]
    rw [newKeys, known]
    rfl
  · have none : newKeys texts stored feed = [] := if_neg readable
    rw [ingest_eq_self texts none, none]

/-- The rows which are ingested have different headlines or links exactly when each
feed has, among its items which are not stored yet, no two of one headline and link,
or cannot be stored. A feed which is ingested again adds nothing. -/
theorem ingestion_distinct_iff (texts : FeedTexts) (feeds : List (List FeedItem)) :
    (((feeds.foldl (ingest texts) []).map NewsItem.key).Nodup ∧
        ∀ stored feed again, again.map FeedItem.fields = feed.map FeedItem.fields →
          ingest texts (ingest texts stored feed) again = ingest texts stored feed) ↔
      AtEachCall (ingest texts) (fun stored feed =>
        (newItems texts stored feed).all (·.readable) = true →
          ((newItems texts stored feed).map (·.key texts)).Nodup) [] feeds := by
  have again : ∀ stored feed again, again.map FeedItem.fields = feed.map FeedItem.fields →
      ingest texts (ingest texts stored feed) again = ingest texts stored feed := by
    intro stored feed again same
    apply ingest_eq_self
    rw [newKeys_congr _ _ same, newKeys_ingest]
  rw [and_iff_left again, nodup_foldl_iff (ingest_keys texts) (newKeys_unknown texts),
    List.map_nil, and_iff_right List.nodup_nil]
  refine atEachCall_congr fun stored feed => ?_
  unfold newKeys
  split_ifs with readable
  · exact (imp_iff_right readable).symm
  · exact iff_of_true List.nodup_nil fun all => absurd all readable

/-- A feed which has one item twice. -/
def repeatedFeed : List FeedItem :=
  List.replicate 2 ⟨[("title", .text "Rate hike expected"), ("url", .text "news/1"),
    ("time_published", .text "20260513T101500")], 1778667300000000⟩

/-- Both items are stored. -/
theorem ingestion_repeats : ¬∀ (texts : FeedTexts) (feeds : List (List FeedItem)),
    ((feeds.foldl (ingest texts) []).map NewsItem.key).Nodup ∧
      ∀ stored feed again, again.map FeedItem.fields = feed.map FeedItem.fields →
        ingest texts (ingest texts stored feed) again = ingest texts stored feed := by
  intro always
  have distinct := (always ⟨fun _ => "", fun _ => some 1778667300000000⟩ [repeatedFeed]).1
  have stored : (([repeatedFeed].foldl
      (ingest ⟨fun _ => "", fun _ => some 1778667300000000⟩) []).map NewsItem.key) =
        List.replicate 2 ("Rate hike expected", "news/1") := by decide +kernel
  rw [stored] at distinct
  exact absurd distinct (by decide)

end Store
end AlphaAgent.News
