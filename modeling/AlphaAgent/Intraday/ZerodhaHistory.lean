import AlphaAgent.Core.DateTimeText
import AlphaAgent.Core.Json
import AlphaAgent.Intraday.MarketData

/-!
# The candles of a broker's history

`MarketDataBuilder.candles_from_zerodha_history` and `_parse_kite_datetime`, and what they make
of the rows which the broker documents: each becomes its candle in UTC, whichever way its offset
is written, and of the candles it is told whether one is missing. A row which cannot be read is
left out without a word.
-/

namespace AlphaAgent.Intraday

/-- The text of `_parse_kite_datetime` with a colon in its offset. -/
def withColon (raw : List Char) : List Char :=
  let sign := raw[raw.length - 5]?
  if 5 ≤ raw.length ∧ (sign = some '+' ∨ sign = some '-') ∧ raw[raw.length - 3]? ≠ some ':' then
    raw.take (raw.length - 2) ++ ':' :: raw.drop (raw.length - 2)
  else raw

/-- `_parse_kite_datetime`; `str` is how Python writes what is no text. -/
def parseKiteDatetime (str : Json → String) (value : Json) : Except RaisedError DateTime :=
  let raw := match value with
    | .text raw => raw
    | other => str other
  DateTime.fromisoformat (String.ofList (withColon raw.toList))

/-- `except (TypeError, ValueError): continue`. -/
def unlessUnreadable {α : Type} : Except RaisedError α → Except RaisedError (Option α)
  | .ok value => .ok (some value)
  | .error raised =>
    if raised.errorType = "TypeError" ∨ raised.errorType = "ValueError" then .ok none
    else .error raised

/-- `ensure_utc(_parse_kite_datetime(value))`. -/
def readStamp (str : Json → String) (value : Json) : Except RaisedError DateTime := do
  (← parseKiteDatetime str value).toUtc

/-- The candle of a row. Its opening price has to be a number and is not kept: nothing reads it. -/
def readCandle (str : Json → String) (stamp «open» high low close volume : Json) :
    Except RaisedError Candle := do
  let timestamp ← readStamp str stamp
  let _ ← «open».toFloat
  return ⟨timestamp, ← high.toFloat, ← low.toFloat, ← close.toFloat, ← volume.toFloat⟩

/-- One turn of the loop over the rows. -/
def readRow (str : Json → String) : Json → Except RaisedError (Option Candle)
  | .list (stamp :: «open» :: high :: low :: close :: volume :: _) =>
    unlessUnreadable (readCandle str stamp «open» high low close volume)
  | _ => .ok none

/-- The rows of an answer, of which there are none where it has another shape. -/
def historyRows (history : Json) : List Json :=
  let data := match history with
    | .object fields => Mapping.get fields "data"
    | _ => .object []
  match data with
  | .object fields =>
    match Mapping.get fields "candles" with
    | .list rows => rows
    | _ => []
  | _ => []

/-- `MarketDataBuilder.candles_from_zerodha_history`. -/
def MarketDataBuilder.candlesFromZerodhaHistory (str : Json → String) (history : Json) :
    Except RaisedError (List Candle) :=
  ((historyRows history).mapM (readRow str)).map fun candles => candles.filterMap id

section Stamps

/-- A time as the broker writes it, with its distance from UTC in minutes and with or without
a colon there. -/
structure KiteStamp where
  wallClock : ℤ
  offsetMinutes : ℤ
  colon : Bool

namespace KiteStamp

def dateTime (stamp : KiteStamp) : DateTime :=
  ⟨stamp.wallClock, some (stamp.offsetMinutes * 60000000)⟩

/-- What is written before the hours and minutes of the offset. -/
def front (stamp : KiteStamp) : List Char :=
  IsoFormat.dayText stamp.dateTime.date ++
    'T' :: IsoFormat.clockText true stamp.dateTime.time.toNat

/-- The offset: its sign, its hours and its minutes. -/
def offsetDigits (stamp : KiteStamp) : List Char :=
  let minutes := stamp.offsetMinutes.natAbs
  (if stamp.offsetMinutes < 0 then '-' else '+') :: Day.padded 2 (minutes / 60) ++
    (if stamp.colon then [':'] else []) ++ Day.padded 2 (minutes % 60)

def text (stamp : KiteStamp) : String := String.ofList (stamp.front ++ stamp.offsetDigits)

example : (⟨1778663700000000, 330, false⟩ : KiteStamp).text.toList =
    "2026-05-13T09:15:00+0530".toList := by
  decide +kernel

/-- A time of the calendar, there and in UTC, less than a day from it. -/
structure Valid (stamp : KiteStamp) : Prop where
  inRange : DateTime.inRange stamp.wallClock = true
  utcInRange : DateTime.inRange stamp.dateTime.instant = true
  offset : stamp.offsetMinutes.natAbs < 1440

end KiteStamp

/-- Only the last five characters say where the colon goes. -/
theorem withColon_append (front : List Char) {last : List Char} (five : last.length = 5) :
    withColon (front ++ last) = front ++ withColon last := by
  have size : (front ++ last).length = front.length + 5 := by rw [List.length_append, five]
  rw [withColon, withColon, size, five]
  have sign : (front ++ last)[front.length + 5 - 5]? = last[5 - 5]? := by
    rw [List.getElem?_append_right (by omega)]
    congr 1
    omega
  have colon : (front ++ last)[front.length + 5 - 3]? = last[5 - 3]? := by
    rw [List.getElem?_append_right (by omega)]
    congr 1
    omega
  rw [sign, colon]
  split <;> split <;> rename_i first second
  · rw [List.take_append, List.drop_append]
    have cut : front.length + 5 - 2 - front.length = 5 - 2 := by omega
    rw [cut, List.take_of_length_le (by omega), List.drop_eq_nil_of_le (by omega),
      List.append_assoc, List.nil_append]
  · exact absurd ⟨le_refl 5, first.2⟩ second
  · exact absurd ⟨Nat.le_add_left 5 _, second.2⟩ first
  · rfl

namespace KiteStamp

theorem natAbs_offset (stamp : KiteStamp) :
    (stamp.offsetMinutes * 60000000).natAbs = stamp.offsetMinutes.natAbs * 60000000 :=
  Int.natAbs_mul _ _

/-- Either way of writing the offset becomes that of `isoformat`. -/
theorem withColon_text (stamp : KiteStamp) :
    withColon stamp.text.toList = stamp.dateTime.isoformat.toList := by
  have sizes := stamp.natAbs_offset
  have seconds : (stamp.offsetMinutes * 60000000).natAbs / 1000000 =
      stamp.offsetMinutes.natAbs * 60 := by omega
  have fraction : (stamp.offsetMinutes * 60000000).natAbs % 1000000 = 0 := by omega
  have hours : stamp.offsetMinutes.natAbs * 60 / 3600 = stamp.offsetMinutes.natAbs / 60 := by omega
  have negative : stamp.offsetMinutes * 60000000 < 0 ↔ stamp.offsetMinutes < 0 := by omega
  have iso : stamp.dateTime.isoformat.toList =
      stamp.front ++ offsetDigits { stamp with colon := true } := by
    rw [DateTime.isoformat, String.toList_ofList, IsoFormat.toList_isoformat, front]
    simp [IsoFormat.offsetText, dateTime, IsoFormat.clockText, offsetDigits, seconds, fraction,
      hours, negative]
  rw [text, String.toList_ofList, iso]
  -- with a colon the text stays as it is, and without one the last five characters get it
  cases written : stamp.colon
  · rw [withColon_append _ (by simp [offsetDigits, written, Day.length_padded])]
    by_cases behind : stamp.offsetMinutes < 0
    · simp [withColon, offsetDigits, written, Day.padded, behind]
    · simp [withColon, offsetDigits, written, Day.padded, behind]
  · have parts : stamp.front ++ stamp.offsetDigits =
        (stamp.front ++ stamp.offsetDigits.take 1) ++ stamp.offsetDigits.drop 1 := by
      rw [List.append_assoc, List.take_append_drop]
    rw [parts, withColon_append _ (by simp [offsetDigits, written, Day.length_padded])]
    simp [withColon, offsetDigits, written, Day.padded]

theorem utcOffset_lt {stamp : KiteStamp} (valid : stamp.Valid) :
    ∀ offset ∈ stamp.dateTime.utcOffset, offset.natAbs < 86400000000 := by
  intro offset member
  have minutes : stamp.offsetMinutes * 60000000 = offset := Option.some.inj member
  rw [← minutes, stamp.natAbs_offset]
  have less := valid.offset
  omega

/-- The time which was written is read. -/
theorem parse_text {stamp : KiteStamp} (valid : stamp.Valid) (str : Json → String) :
    parseKiteDatetime str (.text stamp.text) = .ok stamp.dateTime := by
  have text : String.ofList (withColon stamp.text.toList) = stamp.dateTime.isoformat := by
    rw [withColon_text, String.ofList_toList]
  have whole : IsoFormat.wholeOffset (stamp.offsetMinutes * 60000000) =
      stamp.offsetMinutes * 60000000 := by
    rw [IsoFormat.wholeOffset]
    split <;> omega
  have read : DateTime.fromisoformat stamp.dateTime.isoformat =
      .ok ⟨stamp.wallClock, some (IsoFormat.wholeOffset (stamp.offsetMinutes * 60000000))⟩ :=
    DateTime.fromisoformat_isoformat ⟨valid.inRange, utcOffset_lt valid⟩
  rw [whole] at read
  change DateTime.fromisoformat (String.ofList (withColon stamp.text.toList)) = _
  rw [text, read]
  rfl

end KiteStamp

end Stamps

section Rows

/-- A row as the broker documents it; what follows the volume, such as the open interest, is
not read. -/
structure KiteCandle where
  stamp : KiteStamp
  «open» : ℚ
  high : ℚ
  low : ℚ
  close : ℚ
  volume : ℚ
  more : List Json

def KiteCandle.json (row : KiteCandle) : Json :=
  .list (.text row.stamp.text :: .number row.open :: .number row.high :: .number row.low ::
    .number row.close :: .number row.volume :: row.more)

/-- What a documented row says. -/
def KiteCandle.candle (row : KiteCandle) : Candle :=
  ⟨.utc row.stamp.dateTime.instant, row.high, row.low, row.close, row.volume⟩

/-- A row of which no candle can be made. -/
inductive Unreadable (str : Json → String) : Json → Prop
  | shape {row : Json} (other : ∀ items, row ≠ .list items) : Unreadable str row
  | short {items : List Json} (few : items.length < 6) : Unreadable str (.list items)
  | stamp {stamp : Json} {rest : List Json} {raised : RaisedError}
      (failed : parseKiteDatetime str stamp = .error raised) :
      Unreadable str (.list (stamp :: rest))
  | field {stamp «open» high low close volume field : Json} {more : List Json}
      {timestamp : DateTime} {raised : RaisedError}
      (read : readStamp str stamp = .ok timestamp)
      (member : field ∈ [«open», high, low, close, volume])
      (failed : field.toFloat = .error raised) :
      Unreadable str (.list (stamp :: «open» :: high :: low :: close :: volume :: more))

/-- A row of an answer. -/
inductive AnswerRow (str : Json → String)
  | candle (row : KiteCandle) (valid : row.stamp.Valid)
  | other (row : Json) (unreadable : Unreadable str row)

variable {str : Json → String}

namespace AnswerRow

def json : AnswerRow str → Json
  | .candle row _ => row.json
  | .other row _ => row

def candle? : AnswerRow str → Option Candle
  | .candle row _ => some row.candle
  | .other _ _ => none

end AnswerRow

/-- The row is left out. -/
def Skipped {α : Type} (read : Except RaisedError α) : Prop := unlessUnreadable read = .ok none

theorem Skipped.bind {α β : Type} {read : Except RaisedError α} (skipped : Skipped read)
    (next : α → Except RaisedError β) : Skipped (read >>= next) := by
  cases read with
  | ok value => cases skipped
  | error raised =>
    change (if _ then _ else _) = _ at skipped
    change (if _ then _ else _) = _
    split_ifs at skipped ⊢
    rfl

theorem skipped_of_toFloat {field : Json} {raised : RaisedError}
    (failed : field.toFloat = .error raised) : Skipped field.toFloat := by
  cases field with
  | null => rfl
  | bool value => cases failed
  | number value => cases failed
  | text value =>
    rw [Json.toFloat] at failed ⊢
    split at failed
    · cases failed
    · rfl
  | list items => rfl
  | object fields => rfl

/-- A number which cannot be read has the row left out, and so has whatever follows one
which can. -/
theorem Skipped.number {α : Type} (field : Json) {next : ℚ → Except RaisedError α}
    (follows : ∀ number, field.toFloat = .ok number → Skipped (next number)) :
    Skipped (field.toFloat >>= next) := by
  cases read : field.toFloat with
  | ok number => exact follows number read
  | error raised => exact read ▸ (skipped_of_toFloat read).bind next

theorem parseKiteDatetime_reads (str : Json → String) (value : Json) :
    ∃ text, parseKiteDatetime str value = DateTime.fromisoformat text := by
  unfold parseKiteDatetime
  exact ⟨_, rfl⟩

theorem skipped_fromisoformat {text : String} {raised : RaisedError}
    (failed : DateTime.fromisoformat text = .error raised) :
    Skipped (DateTime.fromisoformat text) := by
  rw [DateTime.fromisoformat] at failed ⊢
  split at failed
  · cases failed
  · rfl

theorem readRow_unreadable {row : Json} (unreadable : Unreadable str row) :
    readRow str row = .ok none := by
  cases unreadable with
  | shape other =>
    cases row with
    | list items => exact absurd rfl (other items)
    | _ => rfl
  | short few =>
    rename_i items
    rcases items with _ | ⟨_, _ | ⟨_, _ | ⟨_, _ | ⟨_, _ | ⟨_, _ | ⟨_, rest⟩⟩⟩⟩⟩⟩
    case cons.cons.cons.cons.cons.cons =>
      simp only [List.length_cons] at few
      omega
    all_goals rfl
  | stamp failed =>
    rename_i stamp rest raised
    rcases rest with _ | ⟨_, _ | ⟨_, _ | ⟨_, _ | ⟨_, _ | ⟨_, rest⟩⟩⟩⟩⟩
    case cons.cons.cons.cons.cons =>
      have parsed : Skipped (parseKiteDatetime str stamp) := by
        obtain ⟨text, same⟩ := parseKiteDatetime_reads str stamp
        rw [same] at failed ⊢
        exact skipped_fromisoformat failed
      have stamped : Skipped (readStamp str stamp) := parsed.bind _
      rw [readRow, readCandle]
      exact stamped.bind _
    all_goals rfl
  | field read member failed =>
    rename_i stamp «open» high low close volume field more timestamp raised
    have fails : ∀ {number : ℚ}, field.toFloat ≠ .ok number := by simp [failed]
    rw [readRow, readCandle, read]
    refine Skipped.number «open» fun _ first => .number high fun _ second =>
      .number low fun _ third => .number close fun _ fourth => .number volume fun _ fifth => ?_
    simp only [List.mem_cons, List.not_mem_nil, or_false] at member
    rcases member with rfl | rfl | rfl | rfl | rfl
    · exact absurd first fails
    · exact absurd second fails
    · exact absurd third fails
    · exact absurd fourth fails
    · exact absurd fifth fails

theorem readRow_json {row : KiteCandle} (valid : row.stamp.Valid) :
    readRow str row.json = .ok (some row.candle) := by
  have utc : row.stamp.dateTime.toUtc = .ok (.utc row.stamp.dateTime.instant) := by
    rw [DateTime.toUtc]
    exact if_pos valid.utcInRange
  have stamp : readStamp str (.text row.stamp.text) = .ok (.utc row.stamp.dateTime.instant) := by
    rw [readStamp, KiteStamp.parse_text valid]
    exact utc
  rw [KiteCandle.json, readRow, readCandle, stamp]
  rfl

/-- Row by row, the documented candles are read and the others left out. -/
theorem readRow_row (row : AnswerRow str) : readRow str row.json = .ok row.candle? := by
  cases row with
  | candle row valid => exact readRow_json valid
  | other row unreadable => exact readRow_unreadable unreadable

theorem mapM_readRow (rows : List (AnswerRow str)) :
    (rows.map AnswerRow.json).mapM (readRow str) = .ok (rows.map AnswerRow.candle?) := by
  induction rows with
  | nil => rfl
  | cons row rest ih => rw [List.map_cons, List.mapM_cons, readRow_row, List.map_cons, ih]; rfl

end Rows

section Gaps

/-- One candle and the next later one are further apart than one and a half candles. -/
def Hole (expectedSeconds : ℤ) (candles : List Candle) : Prop :=
  ∃ previous ∈ candles,
    (∃ later ∈ candles, previous.timestamp.instant < later.timestamp.instant) ∧
      ∀ later ∈ candles, previous.timestamp.instant < later.timestamp.instant →
        previous.timestamp.instant + expectedSeconds * 1500000 < later.timestamp.instant

/-- In order of time it is enough to look at neighbours. -/
theorem hasGap_iff {expectedSeconds : ℤ} (positive : 0 ≤ expectedSeconds) {candles : List Candle}
    (sorted : candles.Pairwise earlier) :
    hasGap expectedSeconds candles = true ↔ Hole expectedSeconds candles := by
  induction candles with
  | nil => simp [hasGap, Hole]
  | cons previous rest ih =>
    obtain ⟨first, tail⟩ := List.pairwise_cons.mp sorted
    cases rest with
    | nil => simp [hasGap, Hole]
    | cons current rest =>
      have next : previous.timestamp.instant ≤ current.timestamp.instant :=
        first current List.mem_cons_self
      have onwards : ∀ later ∈ current :: rest,
          current.timestamp.instant ≤ later.timestamp.instant := by
        intro later member
        rcases List.mem_cons.mp member with rfl | member
        · exact le_refl _
        · exact (List.pairwise_cons.mp tail).1 later member
      rw [hasGap, Bool.or_eq_true, decide_eq_true_iff, ih tail]
      constructor
      · rintro (apart | ⟨candle, member, ⟨later, isLater, after⟩, alone⟩)
        · refine ⟨previous, List.mem_cons_self, ⟨current, by simp, by omega⟩, ?_⟩
          intro later member after
          rcases List.mem_cons.mp member with rfl | member
          · omega
          · have order := onwards later member
            omega
        · refine ⟨candle, List.mem_cons_of_mem _ member,
            ⟨later, List.mem_cons_of_mem _ isLater, after⟩, ?_⟩
          intro later isLater after
          rcases List.mem_cons.mp isLater with rfl | isLater
          · exact absurd (first candle member) (not_le.mpr after)
          · exact alone later isLater after
      · rintro ⟨candle, member, ⟨later, isLater, after⟩, alone⟩
        rcases List.mem_cons.mp member with rfl | inRest
        · by_cases same : candle.timestamp.instant = current.timestamp.instant
          -- of two candles at one time the second is next to the later one
          · right
            rcases List.mem_cons.mp isLater with rfl | isLater
            · omega
            · refine ⟨current, List.mem_cons_self, ⟨later, isLater, by omega⟩, ?_⟩
              intro later isLater after
              rw [← same] at after ⊢
              exact alone later (List.mem_cons_of_mem _ isLater) after
          · left
            have apart := alone current (by simp) (by omega)
            omega
        · right
          rcases List.mem_cons.mp isLater with rfl | isLater
          · exact absurd (first candle inRest) (not_le.mpr after)
          · exact ⟨candle, inRest, ⟨later, isLater, after⟩, fun later isLater =>
              alone later (List.mem_cons_of_mem _ isLater)⟩

instance : IsTrans Candle earlier := ⟨fun _ _ _ => le_trans⟩

instance : Std.Total earlier := ⟨fun first _ => le_total first.timestamp.instant _⟩

/-- Among aware candles a missing one is found exactly where the instants have a hole. -/
theorem hasMissingCandles_iff (expectedSeconds : ℤ) (positive : 0 ≤ expectedSeconds)
    {candles : List Candle} (aware : ∀ candle ∈ candles, candle.timestamp.isAware = true) :
    ∃ missing, hasMissingCandles candles expectedSeconds = .ok missing ∧
      (missing = true ↔ Hole expectedSeconds candles) := by
  have all : candles.all (·.timestamp.isAware) = true := List.all_eq_true.mpr aware
  refine ⟨hasGap expectedSeconds (candles.insertionSort earlier), ?_, ?_⟩
  · rw [hasMissingCandles, if_neg (by simp [all])]
  · rw [hasGap_iff positive (List.pairwise_insertionSort earlier candles)]
    simp only [Hole, List.mem_insertionSort]

end Gaps

section Histories

theorem candle?_aware (rows : List (AnswerRow str)) :
    ∀ candle ∈ rows.filterMap AnswerRow.candle?, candle.timestamp.isAware = true := by
  intro candle member
  obtain ⟨row, -, read⟩ := List.mem_filterMap.mp member
  cases row with
  | candle row valid =>
    cases read
    rfl
  | other row unreadable => cases read

theorem missing_mem_reasons (config : IntradayShadowConfig) {snapshot : MarketDataSnapshot}
    (checkedAt : DateTime) {missing : Bool} (aware : snapshot.timestamp.isAware = true)
    (read : hasMissingCandles snapshot.candles1m 60 = .ok missing) :
    ∃ report, DataQualityMonitor.check config snapshot checkedAt = .ok report ∧
      ("missing_1m_candle" ∈ report.reasons ↔ missing = true) := by
  rw [DataQualityMonitor.check, read]
  simp only [aware]
  refine ⟨_, rfl, ?_⟩
  simp [Risk.rejectIf]

/-- The rows of a documented answer become their candles in UTC, in their order, and the other
rows are left out. Of these candles the monitor says that one is missing exactly where two of
them, with none between, are more than a minute and a half apart. -/
theorem candlesFromZerodhaHistory_documented (str : Json → String) (answer data : Mapping)
    (rows : List (AnswerRow str)) (hasData : answer.get "data" = .object data)
    (hasCandles : data.get "candles" = .list (rows.map AnswerRow.json)) :
    ∃ candles, MarketDataBuilder.candlesFromZerodhaHistory str (.object answer) = .ok candles ∧
      candles = rows.filterMap AnswerRow.candle? ∧
        ∀ (config : IntradayShadowConfig) (snapshot : MarketDataSnapshot) (checkedAt : ℤ),
          snapshot.timestamp.isAware = true → snapshot.candles1m = candles →
            ∃ report, DataQualityMonitor.check config snapshot (.utc checkedAt) = .ok report ∧
              ("missing_1m_candle" ∈ report.reasons ↔ Hole 60 candles) := by
  refine ⟨rows.filterMap AnswerRow.candle?, ?_, rfl, ?_⟩
  · have found : historyRows (.object answer) = rows.map AnswerRow.json := by
      simp only [historyRows, hasData, hasCandles]
    have candles : (rows.map AnswerRow.candle?).filterMap id =
        rows.filterMap AnswerRow.candle? := by
      rw [List.filterMap_map, Function.id_comp]
    rw [MarketDataBuilder.candlesFromZerodhaHistory, found, mapM_readRow]
    exact congrArg Except.ok candles
  · intro config snapshot checkedAt aware same
    obtain ⟨missing, read, holes⟩ :=
      hasMissingCandles_iff 60 (by decide) (candle?_aware rows)
    obtain ⟨report, checked, reason⟩ :=
      missing_mem_reasons config (.utc checkedAt) aware (same ▸ read)
    exact ⟨report, checked, reason.trans holes⟩

/-- Two candles of a quarter past nine in Mumbai and of two minutes later, written both ways,
and an empty row between them. -/
def quarterPastNine : List (AnswerRow fun _ => "None") :=
  [.candle ⟨⟨1778663700000000, 330, false⟩, 99, 100, 98, 199 / 2, 1000, []⟩
      ⟨by decide, by decide, by decide⟩,
    .other .null (.shape nofun),
    .candle ⟨⟨1778663820000000, 330, true⟩, 199 / 2, 201 / 2, 99, 100, 1200, [.number 7]⟩
      ⟨by decide, by decide, by decide⟩]

def quarterPastNineCandles : List Candle :=
  [⟨.utc 1778643900000000, 100, 98, 199 / 2, 1000⟩,
    ⟨.utc 1778644020000000, 201 / 2, 99, 100, 1200⟩]

def quarterPastNineSnapshot : MarketDataSnapshot where
  market := .india
  symbol := "TCS"
  timestamp := .utc 1778644080000000
  lastPrice := 100
  vwap := none
  volume := 1200
  candles1m := quarterPastNineCandles

theorem candlesFromZerodhaHistory_quarterPastNine :
    MarketDataBuilder.candlesFromZerodhaHistory (fun _ => "None")
        (.object [("data", .object [("candles", .list (quarterPastNine.map AnswerRow.json))])]) =
      .ok quarterPastNineCandles ∧
      ∃ report, DataQualityMonitor.check {} quarterPastNineSnapshot (.utc 1778644081000000) =
        .ok report ∧ "missing_1m_candle" ∈ report.reasons := by
  obtain ⟨candles, read, rows, judged⟩ := candlesFromZerodhaHistory_documented (fun _ => "None")
    [("data", .object [("candles", .list (quarterPastNine.map AnswerRow.json))])]
    [("candles", .list (quarterPastNine.map AnswerRow.json))] quarterPastNine rfl rfl
  have same : candles = quarterPastNineCandles := rows
  subst same
  have hole : Hole 60 quarterPastNineCandles :=
    ⟨⟨.utc 1778643900000000, 100, 98, 199 / 2, 1000⟩, by simp [quarterPastNineCandles],
      by simp [quarterPastNineCandles], by simp [quarterPastNineCandles]⟩
  obtain ⟨report, checked, missing⟩ :=
    judged {} quarterPastNineSnapshot 1778644081000000 rfl rfl
  exact ⟨read, report, checked, missing.mpr hole⟩

end Histories

end AlphaAgent.Intraday
