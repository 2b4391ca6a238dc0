import AlphaAgent.Core.CivilDays

/-!
# Datetimes in ISO format

`datetime.isoformat` and `datetime.fromisoformat`, and what is read back of a datetime which
was written. Every datetime of the calendar is, but for an offset which is a fraction of a
second: it is read as UTC.
-/

namespace AlphaAgent

namespace IsoFormat

/-- Where the day of a text ends, which has a year and a week without dashes and then so many
digits: the weekday is one of them where the others come in pairs. -/
def weekSeparator (digits : ℕ) : ℕ :=
  if digits < 2 then 7 + digits else if digits % 2 = 1 then 7 else 8

/-- `_find_isoformat_datetime_separator`: how long the day of a text is. -/
def separatorLocation (text : List Char) : Option ℕ :=
  if text.length = 7 then some 7
  else if text[4]? = some '-' then
    if text[5]? ≠ some 'W' then some 10
    else if text[8]? ≠ some '-' then some 8
    else if text.length = 9 then none
    else if (text[10]?.map Char.isDigit).getD false then some 8
    else some 10
  else if text[4]? = some 'W' then
    some (weekSeparator ((text.drop 7).takeWhile Char.isDigit).length)
  else some 8

/-- `datetime.fromisoformat`. A character beyond ASCII is refused within the day, so it can
only be the separator or follow it; a `T` is skipped once. -/
def readDateTime (text : List Char) : Option DateTime := do
  let length ← separatorLocation (bytes text)
  let day ← readDate (text.take length)
  let rest := text.drop length
  let time ← if rest = [] then some (ClockTime.naive 0)
    else if rest.tail.head? = some 'T' then none
    else readTime rest.tail
  return ⟨day * microsecondsPerDay + time.sinceMidnight, time.utcOffset⟩

/-- The digits of a clock: the seconds where they are asked for or are not nought, and the
microseconds where they are not nought. -/
def clockText (withSeconds : Bool) (microseconds : ℕ) : List Char :=
  let seconds := microseconds / 1000000
  let fraction := microseconds % 1000000
  Day.padded 2 (seconds / 3600) ++ ':' :: Day.padded 2 (seconds / 60 % 60) ++
    if withSeconds ∨ seconds % 60 ≠ 0 ∨ fraction ≠ 0 then
      ':' :: Day.padded 2 (seconds % 60) ++
        if fraction = 0 then [] else '.' :: Day.padded 6 fraction
    else []

/-- `_format_offset`. -/
def offsetText : Option ℤ → List Char
  | none => []
  | some offset => (if offset < 0 then '-' else '+') :: clockText false offset.natAbs

end IsoFormat

open IsoFormat

/-- `datetime.isoformat()`. -/
def DateTime.isoformat (value : DateTime) : String :=
  String.ofList (value.date.isoformat.toList ++ 'T' :: clockText true value.time.toNat ++
    offsetText value.utcOffset)

/-- `datetime.fromisoformat(text)`. -/
def DateTime.fromisoformat (text : String) : Except RaisedError DateTime :=
  match readDateTime text.toList with
  | some value => .ok value
  | none => .error (.valueError ("Invalid isoformat string: '" ++ text ++ "'"))

/-- A datetime which the standard library can hold. -/
structure DateTime.Valid (value : DateTime) : Prop where
  inRange : DateTime.inRange value.wallClock = true
  offset : ∀ offset ∈ value.utcOffset, offset.natAbs < 86400000000

namespace IsoFormat

section Digits

theorem digitChar_spec {digit : ℕ} (small : digit < 10) :
    (Nat.digitChar digit).isDigit = true ∧ (Nat.digitChar digit).toNat - '0'.toNat = digit ∧
      (Nat.digitChar digit).utf8Size = 1 := by
  have all : ∀ digit : Fin 10, (Nat.digitChar digit).isDigit = true ∧
      (Nat.digitChar digit).toNat - '0'.toNat = digit ∧ (Nat.digitChar digit).utf8Size = 1 := by
    decide
  exact all ⟨digit, small⟩

/-- Digits are read one after the other. -/
theorem readDigits_add (value first second : ℕ) (text : List Char) :
    readDigits value (first + second) text =
      (readDigits value first text).bind fun read => readDigits read.1 second read.2 := by
  induction first generalizing value text with
  | zero => simp [readDigits]
  | succ first ih =>
    rw [Nat.succ_add]
    cases text with
    | nil => rfl
    | cons digit rest =>
      rw [readDigits, readDigits]
      split
      · exact ih _ rest
      · rfl

/-- The last digits of a number are read back. -/
theorem readDigits_padded (value width number : ℕ) (rest : List Char) :
    readDigits value width (Day.padded width number ++ rest) =
      some (value * 10 ^ width + number % 10 ^ width, rest) := by
  induction width generalizing value number rest with
  | zero => simp [readDigits, Day.padded, Nat.mod_one]
  | succ width ih =>
    obtain ⟨isDigit, reads, -⟩ := digitChar_spec (Nat.mod_lt number (by decide : 0 < 10))
    rw [readDigits_add, Day.padded, List.append_assoc, ih, Option.bind_some, List.singleton_append,
      readDigits, if_pos isDigit, reads, readDigits]
    have parts : number % 10 ^ (width + 1) = 10 * (number / 10 % 10 ^ width) + number % 10 := by
      rw [Nat.pow_succ', Nat.mod_mul]
      omega
    have value' : value * 10 ^ (width + 1) = value * 10 ^ width * 10 := by
      rw [Nat.pow_succ, Nat.mul_assoc]
    rw [parts, value']
    congr 2
    dsimp only
    omega

theorem readDigits_small {width number : ℕ} (small : number < 10 ^ width) (rest : List Char) :
    readDigits 0 width (Day.padded width number ++ rest) = some (number, rest) := by
  rw [readDigits_padded, Nat.zero_mul, Nat.zero_add, Nat.mod_eq_of_lt small]

theorem isDigit_of_mem_padded {width number : ℕ} {char : Char}
    (member : char ∈ Day.padded width number) : char.isDigit = true := by
  induction width generalizing number with
  | zero => cases member
  | succ width ih =>
    rcases List.mem_append.mp member with front | last
    · exact ih front
    · rw [List.mem_singleton.mp last]
      exact (digitChar_spec (Nat.mod_lt number (by decide))).1

end Digits

section Days

theorem bytes_eq_self {text : List Char} (ascii : ∀ c ∈ text, c.utf8Size = 1) :
    bytes text = text := by
  induction text with
  | nil => rfl
  | cons c rest ih =>
    have first : List.replicate c.utf8Size c = [c] := by
      rw [ascii c List.mem_cons_self]
      rfl
    rw [bytes, List.flatMap_cons, first, ← bytes, ih fun d member =>
      ascii d (List.mem_cons_of_mem c member)]
    rfl

theorem utf8Size_of_isDigit {c : Char} (digit : c.isDigit = true) : c.utf8Size = 1 := by
  simp only [Char.isDigit, Bool.and_eq_true, decide_eq_true_eq] at digit
  exact Char.utf8Size_eq_one_iff.mpr (UInt32.le_trans digit.2 (by decide))

theorem ascii_padded {width number : ℕ} {c : Char} (member : c ∈ Day.padded width number) :
    c.utf8Size = 1 := utf8Size_of_isDigit (isDigit_of_mem_padded member)

/-- The characters of the text of a day. -/
def dayText (day : Day) : List Char :=
  Day.padded 4 day.civil.1.toNat ++ '-' :: Day.padded 2 day.civil.2.1.toNat ++
    '-' :: Day.padded 2 day.civil.2.2.toNat

theorem toList_isoformat (day : Day) : day.isoformat.toList = dayText day := String.toList_ofList

theorem ascii_dayText {day : Day} {c : Char} (member : c ∈ dayText day) : c.utf8Size = 1 := by
  simp only [dayText, List.mem_append, List.mem_cons] at member
  rcases member with (digit | rfl | digit) | rfl | digit
  · exact ascii_padded digit
  · rfl
  · exact ascii_padded digit
  · rfl
  · exact ascii_padded digit

@[simp] theorem length_dayText (day : Day) : (dayText day).length = 10 := by
  simp [dayText, Day.length_padded]

/-- A day of the calendar is read back. -/
theorem readDate_dayText {day : Day} (starts : firstDay ≤ day) (ends : day ≤ lastDay) :
    readDate (dayText day) = some day := by
  obtain ⟨made, month, dayOfMonth⟩ := Day.ofCivil_civil day
  have year := Day.year_bounds starts ends
  have longest := Day.daysInMonth_le day.civil.1 day.civil.2.1
  have fourDigits : day.civil.1.toNat < 10 ^ 4 := by omega
  have twoDigits : day.civil.2.1.toNat < 10 ^ 2 := by omega
  have lastDigits : day.civil.2.2.toNat < 10 ^ 2 := by omega
  have civil : Day.make day.civil.1 day.civil.2.1 day.civil.2.2 = some day := by
    rw [Day.make, if_pos (by omega), made]
  have casts : ((day.civil.1.toNat : ℤ) = day.civil.1 ∧ (day.civil.2.1.toNat : ℤ) = day.civil.2.1) ∧
      (day.civil.2.2.toNat : ℤ) = day.civil.2.2 := by omega
  have notWeek : (Day.padded 2 day.civil.2.1.toNat).head? ≠ some 'W' := by
    intro starts
    have digit := isDigit_of_mem_padded (List.mem_of_mem_head? starts)
    exact absurd digit (by decide)
  unfold readDate
  rw [bytes_eq_self fun c => ascii_dayText]
  rw [if_pos (by simp), dayText, List.append_assoc, readDigits_small fourDigits]
  simp only [Option.bind_eq_bind, Option.bind_some, List.cons_append, List.head?_cons,
    decide_true, if_true, List.tail_cons]
  rw [if_neg (by rwa [List.head?_append_of_ne_nil _ (by simp [Day.padded])]),
    readDigits_small twoDigits]
  have last := readDigits_small lastDigits []
  rw [List.append_nil] at last
  simp only [Option.bind_some, afterDash, if_true, List.head?_cons, List.tail_cons, last,
    casts.1.1, casts.1.2, casts.2, civil]

end Days

section Clocks

/-- The clock of so many microseconds of a day. -/
structure Reads (clock : Clock) (microseconds : ℕ) : Prop where
  seconds : clock.seconds = microseconds / 1000000
  microsecond : clock.microsecond = microseconds % 1000000
  hour : clock.hour ≤ 23
  minute : clock.minute ≤ 59
  second : clock.second ≤ 59

section Fields

variable (next : Char) {colons : Option Bool} (fields : List ℕ) (more : ℕ) {value : ℕ}

/-- A field after which the text ends. -/
theorem readClock_last (small : value < 10 ^ 2) :
    readClock next colons fields (more + 1) (Day.padded 2 value) =
      some ⟨fields ++ [value], 0, next ≠ terminator⟩ := by
  have read := readDigits_small small []
  rw [List.append_nil] at read
  rw [readClock, read]
  rfl

/-- A field which a colon follows. -/
theorem readClock_colon (separated : colons = none ∨ colons = some true)
    (small : value < 10 ^ 2) {rest : List Char} (filled : rest ≠ []) :
    readClock next colons fields (more + 1) (Day.padded 2 value ++ ':' :: rest) =
      readClock next (some true) (fields ++ [value]) more rest := by
  have longer : ¬(':' :: rest).length ≤ 1 := by
    have positive := List.length_pos_of_ne_nil filled
    rw [List.length_cons]
    omega
  have colon : colons.getD (decide ((':' :: rest).head?.getD next = ':')) = true := by
    rcases separated with rfl | rfl <;> simp
  rw [readClock, readDigits_small small]
  simp only [Option.bind_eq_bind, Option.bind_some, if_neg longer, colon]
  rfl

/-- A field which a fraction of a second follows. -/
theorem readClock_fraction {fraction : ℕ} (small : value < 10 ^ 2) (part : fraction < 10 ^ 6) :
    readClock next (some true) fields (more + 1)
        (Day.padded 2 value ++ '.' :: Day.padded 6 fraction) =
      some ⟨fields ++ [value], fraction, next ≠ terminator⟩ := by
  have longer : ¬('.' :: Day.padded 6 fraction).length ≤ 1 := by
    simp [Day.length_padded]
  have read := readDigits_small part []
  rw [List.append_nil] at read
  rw [readClock, readDigits_small small]
  simp only [Option.bind_eq_bind, Option.bind_some, if_neg longer]
  rw [if_neg (by simp), if_pos (by simp)]
  simp only [readFraction, List.tail_cons, Day.length_padded, min_self, read, Option.bind_eq_bind,
    Option.bind_some, Nat.sub_self, Nat.pow_zero, Nat.mul_one]
  rfl

end Fields

/-- The text of a clock is read back, whatever follows it. -/
theorem readClock_clockText (next : Char) (withSeconds : Bool) {microseconds : ℕ}
    (inDay : microseconds < 86400000000) :
    ∃ clock, readClock next none [] 3 (clockText withSeconds microseconds) = some clock ∧
      Reads clock microseconds ∧ clock.leftOver = decide (next ≠ terminator) := by
  have hours : microseconds / 1000000 / 3600 < 10 ^ 2 := by omega
  have minutes : microseconds / 1000000 / 60 % 60 < 10 ^ 2 := by omega
  have seconds : microseconds / 1000000 % 60 < 10 ^ 2 := by omega
  have fraction : microseconds % 1000000 < 10 ^ 6 := by omega
  unfold clockText
  dsimp only
  rw [List.append_assoc, List.cons_append,
    readClock_colon next [] 2 (.inl rfl) hours (by simp [Day.padded])]
  split_ifs with shown whole
  · rw [List.append_nil, readClock_colon next _ 1 (.inr rfl) minutes (by simp [Day.padded]),
      readClock_last next _ 0 seconds]
    refine ⟨_, rfl, ⟨?_, whole.symm, ?_, ?_, ?_⟩, rfl⟩
    all_goals simp [Clock.seconds, Clock.hour, Clock.minute, Clock.second]
    all_goals omega
  · rw [List.cons_append, readClock_colon next _ 1 (.inr rfl) minutes (by simp),
      readClock_fraction next _ 0 seconds fraction]
    refine ⟨_, rfl, ⟨?_, rfl, ?_, ?_, ?_⟩, rfl⟩
    all_goals simp [Clock.seconds, Clock.hour, Clock.minute, Clock.second]
    all_goals omega
  · rw [List.append_nil, readClock_last next _ 1 minutes]
    simp only [not_or, not_not] at shown
    refine ⟨_, rfl, ⟨?_, shown.2.2.symm, ?_, ?_, ?_⟩, rfl⟩
    all_goals simp [Clock.seconds, Clock.hour, Clock.minute, Clock.second]
    all_goals omega

end Clocks

section Times

theorem mem_clockText {withSeconds : Bool} {microseconds : ℕ} {c : Char}
    (member : c ∈ clockText withSeconds microseconds) : c.isDigit = true ∨ c = ':' ∨ c = '.' := by
  simp only [clockText, List.mem_append, List.mem_cons] at member
  rcases member with (digit | rfl | digit) | rest
  · exact .inl (isDigit_of_mem_padded digit)
  · exact .inr (.inl rfl)
  · exact .inl (isDigit_of_mem_padded digit)
  · split_ifs at rest
    · simp only [List.append_nil, List.mem_cons] at rest
      exact rest.elim (fun colon => .inr (.inl colon)) fun digit =>
        .inl (isDigit_of_mem_padded digit)
    · simp only [List.cons_append, List.mem_cons, List.mem_append] at rest
      rcases rest with rfl | digit | rfl | digit
      · exact .inr (.inl rfl)
      · exact .inl (isDigit_of_mem_padded digit)
      · exact .inr (.inr rfl)
      · exact .inl (isDigit_of_mem_padded digit)
    · cases rest

theorem ascii_clockText {withSeconds : Bool} {microseconds : ℕ} {c : Char}
    (member : c ∈ clockText withSeconds microseconds) : c.utf8Size = 1 := by
  rcases mem_clockText member with digit | rfl | rfl
  · exact utf8Size_of_isDigit digit
  · rfl
  · rfl

theorem startsOffset_clockText {withSeconds : Bool} {microseconds : ℕ} {c : Char}
    (member : c ∈ clockText withSeconds microseconds) : startsOffset c = false := by
  rcases mem_clockText member with digit | rfl | rfl
  · simp only [startsOffset, Bool.or_eq_false_iff, decide_eq_false_iff_not]
    refine ⟨⟨?_, ?_⟩, ?_⟩ <;> rintro rfl <;> exact absurd digit (by decide)
  · rfl
  · rfl

theorem ascii_offsetText {offset : Option ℤ} {c : Char} (member : c ∈ offsetText offset) :
    c.utf8Size = 1 := by
  cases offset with
  | none => cases member
  | some offset =>
    rcases List.mem_cons.mp member with rfl | clock
    · split <;> rfl
    · exact ascii_clockText clock

/-- An offset which is read: nought where it is less than a second. -/
def wholeOffset (offset : ℤ) : ℤ := if offset.natAbs < 1000000 then 0 else offset

/-- The offset of a datetime is read back, unless it is a fraction of a second. -/
theorem readOffset_clockText {offset : ℤ} (inDay : offset.natAbs < 86400000000) :
    readOffset (if offset < 0 then -1 else 1) (clockText false offset.natAbs) =
      some (wholeOffset offset) := by
  obtain ⟨clock, read, reads, ended⟩ := readClock_clockText terminator false inDay
  have seconds := reads.seconds
  have microsecond := reads.microsecond
  have size : (clock.seconds * 1000000 + clock.microsecond : ℤ) = offset.natAbs := by omega
  have sized : (offset.natAbs : ℤ) < microsecondsPerDay := by
    rw [microsecondsPerDay]
    omega
  have signed : (if offset < 0 then -1 else 1) * (offset.natAbs : ℤ) = offset := by
    split_ifs <;> omega
  simp only [readOffset, read, Option.bind_eq_bind, Option.bind_some, ended, ne_eq, not_true,
    decide_false, Bool.false_eq_true, if_false, wholeOffset, size, signed]
  by_cases fraction : offset.natAbs < 1000000
  · rw [if_pos fraction, if_pos (by omega)]
  · rw [if_neg fraction, if_neg (by omega), if_pos sized]

/-- The time and the offset of a datetime are read back. -/
theorem readTime_clockText {microseconds : ℕ} (inDay : microseconds < 86400000000)
    {offset : Option ℤ} (valid : ∀ some ∈ offset, some.natAbs < 86400000000) :
    readTime (clockText true microseconds ++ offsetText offset) =
      some ⟨microseconds, offset.map wholeOffset⟩ := by
  have ascii : ∀ c ∈ clockText true microseconds ++ offsetText offset, c.utf8Size = 1 := by
    intro c member
    exact (List.mem_append.mp member).elim ascii_clockText ascii_offsetText
  have starts : (clockText true microseconds ++ offsetText offset).head? ≠ some 'T' := by
    simp [clockText, Day.padded]
  have clockPart : ∀ c ∈ clockText true microseconds, (!startsOffset c) = true := by
    intro c member
    rw [startsOffset_clockText member]
    rfl
  have offsetPart : (offsetText offset).takeWhile (!startsOffset ·) = [] ∧
      (offsetText offset).dropWhile (!startsOffset ·) = offsetText offset := by
    cases offset with
    | none => exact ⟨rfl, rfl⟩
    | some offset =>
      have sign : startsOffset (if offset < 0 then '-' else '+') = true := by
        split <;> rfl
      simp [offsetText, sign]
  unfold readTime
  dsimp only
  rw [bytes_eq_self ascii, if_neg starts, List.takeWhile_append_of_pos clockPart, offsetPart.1,
    List.append_nil, List.dropWhile_append_of_pos clockPart, offsetPart.2]
  obtain ⟨clock, read, reads, ended⟩ := readClock_clockText
    ((offsetText offset).head?.getD terminator) true inDay
  have made : ∀ utcOffset, ClockTime.make clock utcOffset = some ⟨microseconds, utcOffset⟩ := by
    intro utcOffset
    rw [ClockTime.make, if_pos ⟨reads.hour, reads.minute, reads.second⟩, reads.seconds,
      reads.microsecond]
    congr 2
    omega
  rw [read]
  cases offset with
  | none => simp [offsetText, ended, made]
  | some offset =>
    have sizes := readOffset_clockText (valid offset rfl)
    by_cases behind : offset < 0
    · rw [if_pos behind] at sizes
      simp [offsetText, behind, sizes, made]
    · rw [if_neg behind] at sizes
      simp [offsetText, behind, sizes, made]

end Times

section DateTimes

theorem separatorLocation_dayText (day : Day) (rest : List Char) :
    separatorLocation (dayText day ++ 'T' :: rest) = some 10 := by
  have week : (Nat.digitChar (day.civil.2.1.toNat / 10 % 10)) ≠ 'W' := by
    intro same
    have digit := (digitChar_spec (Nat.mod_lt (day.civil.2.1.toNat / 10) (by decide : 0 < 10))).1
    rw [same] at digit
    exact absurd digit (by decide)
  rw [separatorLocation, if_neg (by simp; omega)]
  simp [dayText, Day.padded, week]

end DateTimes

end IsoFormat

/-- What is read of a datetime which was written: itself, with the offset as it is read. -/
theorem DateTime.fromisoformat_isoformat {value : DateTime} (valid : value.Valid) :
    fromisoformat value.isoformat = .ok ⟨value.wallClock, value.utcOffset.map wholeOffset⟩ := by
  obtain ⟨inRange, offset⟩ := valid
  rw [DateTime.inRange, Bool.and_eq_true, decide_eq_true_iff, decide_eq_true_iff,
    microsecondsPerDay] at inRange
  have calendar : firstDay ≤ value.date ∧ value.date ≤ lastDay := by
    rw [DateTime.date, firstDay, lastDay, microsecondsPerDay]
    change (-719162 : ℤ) ≤ _ ∧ (_ : ℤ) ≤ 2932896
    omega
  have clock : (0 ≤ value.time ∧ value.time.toNat < 86400000000) ∧
      value.date * microsecondsPerDay + value.time = value.wallClock := by
    refine ⟨?_, Int.ediv_mul_add_emod _ _⟩
    rw [DateTime.time, microsecondsPerDay]
    omega
  have text : value.isoformat.toList =
      dayText value.date ++
        'T' :: (clockText true value.time.toNat ++ offsetText value.utcOffset) := by
    rw [isoformat, String.toList_ofList, toList_isoformat, List.append_assoc, List.cons_append]
  have ascii : ∀ c ∈ value.isoformat.toList, c.utf8Size = 1 := by
    rw [text]
    intro c member
    simp only [List.mem_append, List.mem_cons] at member
    rcases member with day | rfl | clock | offset
    · exact ascii_dayText day
    · rfl
    · exact ascii_clockText clock
    · exact ascii_offsetText offset
  have starts : ('T' :: (clockText true value.time.toNat ++
      offsetText value.utcOffset)).tail.head? ≠ some 'T' := by
    simp [clockText, Day.padded]
  have read : readDateTime value.isoformat.toList =
      some ⟨value.wallClock, value.utcOffset.map wholeOffset⟩ := by
    rw [readDateTime, bytes_eq_self ascii, text, separatorLocation_dayText]
    simp only [Option.bind_eq_bind, Option.bind_some]
    rw [List.take_left' (length_dayText _), List.drop_left' (length_dayText _),
      readDate_dayText calendar.1 calendar.2]
    rw [Option.bind_some, if_neg (List.cons_ne_nil _ _), if_neg starts, List.tail_cons,
      readTime_clockText clock.1.2 offset]
    simp only [Option.bind_some, Int.toNat_of_nonneg clock.1.1, clock.2]
    rfl
  rw [fromisoformat, read]

end AlphaAgent
