import AlphaAgent.Core.JsonText
import AlphaAgent.Foundation.Grouping
import Mathlib.Data.List.Sort
import Mathlib.Data.List.TakeWhile
import Mathlib.Data.String.Basic

/-!
# Values of JSON as texts

`json.dumps` with its default separators, and the scanner of `json.loads`. What a float
writes and reads is given from outside; the scanner finds the texts of numbers itself.
Of the constants which are no JSON, not-a-number and the infinities, none is modelled.
-/

namespace AlphaAgent.JsonText

open Foundation

section Numbers

/-- Digits in front, and what follows them. -/
def digits (text : List Char) : List Char × List Char :=
  (text.takeWhile Char.isDigit, text.dropWhile Char.isDigit)

/-- One character which can be left out. -/
def optional (accepts : Char → Bool) : List Char → List Char × List Char
  | [] => ([], [])
  | char :: rest => if accepts char then ([char], rest) else ([], char :: rest)

/-- `0|[1-9][0-9]*`. -/
def integer : List Char → List Char × List Char
  | [] => ([], [])
  | char :: rest => if char = '0' then ([char], rest) else digits (char :: rest)

/-- `(\.[0-9]+)?`. -/
def fraction : List Char → List Char × List Char
  | [] => ([], [])
  | char :: rest =>
    let (places, later) := digits rest
    if char = '.' ∧ places ≠ [] then (char :: places, later) else ([], char :: rest)

/-- `([eE][-+]?[0-9]+)?`. -/
def exponent : List Char → List Char × List Char
  | [] => ([], [])
  | char :: rest =>
    let (signed, unsigned) := optional (· ∈ ['-', '+']) rest
    let (power, later) := digits unsigned
    if char ∈ ['e', 'E'] ∧ power ≠ [] then (char :: signed ++ power, later) else ([], char :: rest)

/-- `NUMBER_RE`, in front of a text. -/
def matchNumber (text : List Char) : Option (List Char × List Char) :=
  let (minus, unsigned) := optional (· = '-') text
  let (whole, later) := integer unsigned
  let (decimals, later) := fraction later
  let (power, later) := exponent later
  if whole = [] then none else some (minus ++ whole ++ decimals ++ power, later)

/-- A text with which no number goes on. -/
def EndsNumber (text : List Char) : Prop :=
  ∀ char ∈ text.head?, char.isDigit = false ∧ char ∉ ['.', 'e', 'E', '-', '+']

/-- A scanner which finds the same in front of a longer text. -/
def Stops (scan : List Char → List Char × List Char) : Prop :=
  ∀ text later, EndsNumber later →
    scan (text ++ later) = ((scan text).1, (scan text).2 ++ later)

theorem stops_digits : Stops digits := by
  intro text later ends
  induction text with
  | nil =>
    cases later with
    | nil => rfl
    | cons char rest =>
      have noDigit := (ends char rfl).1
      simp [digits, noDigit]
  | cons char rest ih =>
    simp only [digits, Prod.mk.injEq] at ih
    cases isDigit : char.isDigit <;> simp [digits, isDigit, ih]

theorem stops_optional (accepts : Char → Bool)
    (signs : ∀ char, accepts char = true → char ∈ ['.', 'e', 'E', '-', '+']) :
    Stops (optional accepts) := by
  intro text later ends
  cases text with
  | nil =>
    cases later with
    | nil => rfl
    | cons char rest =>
      have refused : ¬accepts char = true := fun accepted => (ends char rfl).2 (signs char accepted)
      simp [optional, refused]
  | cons char rest =>
    rw [List.cons_append, optional, optional]
    split_ifs <;> rfl

theorem stops_integer : Stops integer := by
  intro text later ends
  cases text with
  | nil =>
    cases later with
    | nil => rfl
    | cons char rest =>
      have noDigit := (ends char rfl).1
      have noZero : char ≠ '0' := by
        rintro rfl
        cases noDigit
      simp [integer, noZero, digits, noDigit]
  | cons char rest =>
    rw [List.cons_append, integer, integer]
    split_ifs
    · rfl
    · exact stops_digits (char :: rest) later ends

theorem stops_fraction : Stops fraction := by
  intro text later ends
  cases text with
  | nil =>
    cases later with
    | nil => rfl
    | cons char rest =>
      have noPoint : char ≠ '.' := fun same => (ends char rfl).2 (by simp [same])
      simp [fraction, noPoint]
  | cons char rest =>
    rw [List.cons_append, fraction, fraction, stops_digits rest later ends]
    dsimp only
    split_ifs <;> rfl

theorem stops_exponent : Stops exponent := by
  intro text later ends
  cases text with
  | nil =>
    cases later with
    | nil => rfl
    | cons char rest =>
      have noMark : char ∉ ['e', 'E'] := fun member => (ends char rfl).2 (by
        rcases List.mem_cons.mp member with rfl | member
        · simp
        · simp [List.mem_singleton.mp member])
      simp only [List.nil_append, exponent, noMark, false_and, if_false]
  | cons char rest =>
    have signed := stops_optional (· ∈ ['-', '+']) (fun char member => by
      simp at member ⊢
      exact .inr (.inr (.inr member))) rest later ends
    rw [List.cons_append, exponent, exponent, signed]
    dsimp only
    rw [stops_digits _ later ends]
    dsimp only
    split_ifs <;> rfl

/-- A number is found in front of what ends it. -/
theorem matchNumber_append {number later : List Char}
    (isNumber : matchNumber number = some (number, [])) (ends : EndsNumber later) :
    matchNumber (number ++ later) = some (number, later) := by
  unfold matchNumber at isNumber ⊢
  have minus :=
    stops_optional (· = '-') (fun char same => by simp at same; simp [same]) number later ends
  simp only [minus, stops_integer _ later ends, stops_fraction _ later ends,
    stops_exponent _ later ends] at isNumber ⊢
  split_ifs at isNumber ⊢
  simp only [Option.some.injEq, Prod.mk.injEq] at isNumber ⊢
  rw [isNumber.1, isNumber.2]
  exact ⟨rfl, rfl⟩

end Numbers

/-- How a number is written, and what `float(...)` or `int(...)` make of the text of one. -/
structure NumberText where
  write : ℚ → List Char
  read : List Char → ℚ

/-- A number which is written as a number and read as it was. -/
def NumberText.Exact (numbers : NumberText) (value : ℚ) : Prop :=
  matchNumber (numbers.write value) = some (numbers.write value, []) ∧
    numbers.read (numbers.write value) = value

section Writing

variable (numbers : NumberText)

mutual

/-- `json.dumps`. -/
def encode : Json → List Char
  | .null => ['n', 'u', 'l', 'l']
  | .bool true => ['t', 'r', 'u', 'e']
  | .bool false => ['f', 'a', 'l', 's', 'e']
  | .number value => numbers.write value
  | .text value => encodeString value
  | .list [] => ['[', ']']
  | .list (first :: items) => '[' :: encode first ++ encodeItems items ++ [']']
  | .object [] => ['{', '}']
  | .object ((key, first) :: fields) =>
    '{' :: encodeString key ++ ':' :: ' ' :: encode first ++ encodeFields fields ++ ['}']

/-- The items after the first. -/
def encodeItems : List Json → List Char
  | [] => []
  | item :: items => ',' :: ' ' :: encode item ++ encodeItems items

/-- The fields after the first. -/
def encodeFields : List (String × Json) → List Char
  | [] => []
  | (key, value) :: fields =>
    ',' :: ' ' :: encodeString key ++ ':' :: ' ' :: encode value ++ encodeFields fields

end

mutual

/-- No object binds a key twice, and the numbers are read as they are written. -/
def Writable : Json → Prop
  | .null => True
  | .bool _ => True
  | .number value => numbers.Exact value
  | .text _ => True
  | .list items => WritableItems items
  | .object fields => (fields.map Prod.fst).Nodup ∧ WritableFields fields

def WritableItems : List Json → Prop
  | [] => True
  | item :: items => Writable item ∧ WritableItems items

def WritableFields : List (String × Json) → Prop
  | [] => True
  | (_, value) :: fields => Writable value ∧ WritableFields fields

end

end Writing

section Reading

variable (numbers : NumberText)

/-- `WHITESPACE`. -/
def isBlank (char : Char) : Bool := char ∈ [' ', '\t', '\n', '\r']

def skipBlanks (text : List Char) : List Char := text.dropWhile isBlank

/-- `dict(pairs)`: a later value of a key replaces the earlier one. -/
def ofPairs (pairs : List (String × Json)) : Mapping :=
  (pairs.foldl (fun fields pair => fields.set pair.1 pair.2)
    (Dict.empty : Dict String Json)).entries

mutual

/-- `scan_once`. -/
def scanValue : ℕ → List Char → Option (Json × List Char)
  | 0, _ => none
  | fuel + 1, text =>
    match text with
    | '"' :: rest => do
      let (value, rest) ← scanString rest
      return (.text value, rest)
    | '{' :: rest =>
      match skipBlanks rest with
      | '}' :: rest => some (.object [], rest)
      | start => do
        let (pairs, rest) ← scanFields fuel start
        return (.object (ofPairs pairs), rest)
    | '[' :: rest =>
      match skipBlanks rest with
      | ']' :: rest => some (.list [], rest)
      | start => do
        let (items, rest) ← scanItems fuel start
        return (.list items, rest)
    | 'n' :: 'u' :: 'l' :: 'l' :: rest => some (.null, rest)
    | 't' :: 'r' :: 'u' :: 'e' :: rest => some (.bool true, rest)
    | 'f' :: 'a' :: 'l' :: 's' :: 'e' :: rest => some (.bool false, rest)
    | _ => do
      let (number, rest) ← matchNumber text
      return (.number (numbers.read number), rest)

/-- The items of a list from the first one on, and its closing bracket. -/
def scanItems : ℕ → List Char → Option (List Json × List Char)
  | 0, _ => none
  | fuel + 1, text => do
    let (item, rest) ← scanValue fuel text
    match skipBlanks rest with
    | ',' :: rest => do
      let (items, rest) ← scanItems fuel (skipBlanks rest)
      return (item :: items, rest)
    | ']' :: rest => some ([item], rest)
    | _ => none

/-- The fields of an object from the quote of the first key on, and its closing brace. -/
def scanFields : ℕ → List Char → Option (List (String × Json) × List Char)
  | 0, _ => none
  | fuel + 1, text =>
    match text with
    | '"' :: rest => do
      let (key, rest) ← scanString rest
      match skipBlanks rest with
      | ':' :: rest => do
        let (value, rest) ← scanValue fuel (skipBlanks rest)
        match skipBlanks rest with
        | ',' :: rest => do
          let (fields, rest) ← scanFields fuel (skipBlanks rest)
          return ((key, value) :: fields, rest)
        | '}' :: rest => some ([(key, value)], rest)
        | _ => none
      | _ => none
    | _ => none

end

/-- `json.loads`. A value takes a character for every two steps of the fuel. -/
def loads (text : List Char) : Option Json := do
  let start := skipBlanks text
  let (value, rest) ← scanValue numbers (2 * start.length + 2) start
  if skipBlanks rest = [] then return value else none

end Reading

section RoundTrip

variable {numbers : NumberText}

/-- Distinct keys keep their values and their places. -/
theorem ofPairs_of_nodup {pairs : List (String × Json)} (distinct : (pairs.map Prod.fst).Nodup) :
    ofPairs pairs = pairs := by
  unfold ofPairs
  induction pairs using List.reverseRecOn with
  | nil => rfl
  | append_singleton before pair ih =>
    rw [List.map_append, List.nodup_append] at distinct
    have known := ih distinct.1
    rw [List.foldl_append, List.foldl_cons, List.foldl_nil, Dict.entries_set_of_unbound, known]
    intro bound
    rw [Dict.keys, known] at bound
    exact distinct.2.2 _ bound _ List.mem_cons_self rfl

theorem skipBlanks_cons {char : Char} (visible : isBlank char = false) (rest : List Char) :
    skipBlanks (char :: rest) = char :: rest := by
  simp [skipBlanks, visible]

theorem skipBlanks_blank (rest : List Char) : skipBlanks (' ' :: rest) = skipBlanks rest := rfl

/-- How the text of a value begins. -/
def StartsValue (text : List Char) : Prop :=
  ∃ char rest, text = char :: rest ∧ isBlank char = false ∧ char ≠ ']' ∧ char ≠ '}'

theorem StartsValue.skipBlanks_append {text : List Char} (starts : StartsValue text)
    (later : List Char) : skipBlanks (text ++ later) = text ++ later := by
  obtain ⟨char, rest, rfl, visible, -⟩ := starts
  exact skipBlanks_cons visible _

/-- A number begins with its sign or a digit. -/
theorem head_of_matchNumber {text : List Char} {found : List Char × List Char}
    (isNumber : matchNumber text = some found) :
    ∃ char rest, text = char :: rest ∧ (char = '-' ∨ char.isDigit = true) := by
  unfold matchNumber at isNumber
  cases text with
  | nil => simp [optional, integer] at isNumber
  | cons char rest =>
    refine ⟨char, rest, rfl, ?_⟩
    by_contra other
    obtain ⟨noSign, noDigit⟩ := not_or.mp other
    have noZero : char ≠ '0' := by
      rintro rfl
      exact noDigit rfl
    simp [optional, integer, digits, noSign, noZero, noDigit] at isNumber

/-- The scanner takes what begins like a number for a number. -/
theorem scanValue_number {char : Char} (begins : char = '-' ∨ char.isDigit = true) (fuel : ℕ)
    (rest : List Char) : scanValue numbers (fuel + 1) (char :: rest) =
      (matchNumber (char :: rest)).map fun found => (.number (numbers.read found.1), found.2) := by
  have other : char ∉ ['"', '{', '[', 'n', 't', 'f'] := by
    intro member
    rcases begins with rfl | isDigit
    · revert member
      decide
    · have none : ∀ mark ∈ ['"', '{', '[', 'n', 't', 'f'], mark.isDigit = false := by simp
      rw [none char member] at isDigit
      cases isDigit
  simp only [List.mem_cons, not_or] at other
  rw [scanValue]
  · cases matchNumber (char :: rest) <;> rfl
  all_goals
    intro later same
    exact absurd (List.cons.inj same).1 (by tauto)

theorem startsValue_encode {value : Json} (writable : Writable numbers value) :
    StartsValue (encode numbers value) := by
  cases value with
  | null => exact ⟨'n', _, rfl, by decide⟩
  | bool value => cases value <;> exact ⟨_, _, rfl, by decide⟩
  | number value =>
    obtain ⟨char, rest, same, begins⟩ := head_of_matchNumber writable.1
    refine ⟨char, rest, same, ?_⟩
    rcases begins with rfl | isDigit
    · decide
    · have other : ∀ mark ∈ [' ', '\t', '\n', '\r', ']', '}'], char ≠ mark := by
        rintro mark member rfl
        have none : ∀ mark ∈ [' ', '\t', '\n', '\r', ']', '}'], mark.isDigit = false := by simp
        rw [none char member] at isDigit
        cases isDigit
      simp only [List.forall_mem_cons] at other
      exact ⟨decide_eq_false (by simp; tauto), other.2.2.2.2.1, other.2.2.2.2.2.1⟩
  | text value => exact ⟨'"', _, rfl, by decide⟩
  | list items => cases items <;> exact ⟨'[', _, rfl, by decide⟩
  | object fields => cases fields <;> exact ⟨'{', _, rfl, by decide⟩

theorem encodeString_append (text : String) (later : List Char) :
    encodeString text ++ later = '"' :: (text.toList.flatMap escape ++ '"' :: later) := by
  simp [encodeString]

/-- What follows a value in a list or an object. -/
theorem endsNumber_cons {char : Char} (closes : char ∈ [',', ']', '}']) (rest : List Char) :
    EndsNumber (char :: rest) := by
  have all : ∀ char ∈ [',', ']', '}'], char.isDigit = false ∧ char ∉ ['.', 'e', 'E', '-', '+'] := by
    simp
  intro first isFirst
  cases isFirst
  exact all char closes

/-- The scanners read what was written, given enough fuel. -/
structure ReadsBack (numbers : NumberText) (fuel : ℕ) : Prop where
  value : ∀ value later, Writable numbers value → (encode numbers value).length ≤ fuel →
    EndsNumber later → scanValue numbers fuel (encode numbers value ++ later) = some (value, later)
  items : ∀ first items later, Writable numbers first → WritableItems numbers items →
    (encode numbers first).length + (encodeItems numbers items).length < fuel →
      scanItems numbers fuel (encode numbers first ++ (encodeItems numbers items ++ ']' :: later)) =
        some (first :: items, later)
  fields : ∀ key first fields later, Writable numbers first → WritableFields numbers fields →
    (encode numbers first).length + (encodeFields numbers fields).length < fuel →
      scanFields numbers fuel (encodeString key ++
          (':' :: ' ' :: (encode numbers first ++ (encodeFields numbers fields ++ '}' :: later)))) =
        some ((key, first) :: fields, later)

namespace ReadsBack

variable {fuel : ℕ} (previous : ReadsBack numbers fuel)
include previous

theorem scanItems_succ (first : Json) (items : List Json) (later : List Char)
    (writable : Writable numbers first) (others : WritableItems numbers items)
    (enough : (encode numbers first).length + (encodeItems numbers items).length < fuel + 1) :
    scanItems numbers (fuel + 1)
        (encode numbers first ++ (encodeItems numbers items ++ ']' :: later)) =
      some (first :: items, later) := by
  rw [scanItems]
  cases items with
  | nil =>
    rw [encodeItems, List.nil_append, previous.value first _ writable (by omega)
      (endsNumber_cons (by simp) later)]
    rfl
  | cons second items =>
    simp only [encodeItems, List.cons_append, List.append_assoc, List.length_cons,
      List.length_append] at enough ⊢
    rw [previous.value first _ writable (by omega) (endsNumber_cons (by simp) _)]
    have rest := previous.items second items later others.1 others.2 (by omega)
    simp only [Option.bind_eq_bind, Option.bind_some,
      skipBlanks_cons (by decide : isBlank ',' = false),
      skipBlanks_blank, (startsValue_encode others.1).skipBlanks_append, rest]
    rfl

theorem scanFields_succ (key : String) (first : Json) (fields : List (String × Json))
    (later : List Char) (writable : Writable numbers first) (others : WritableFields numbers fields)
    (enough : (encode numbers first).length + (encodeFields numbers fields).length < fuel + 1) :
    scanFields numbers (fuel + 1) (encodeString key ++
        (':' :: ' ' :: (encode numbers first ++ (encodeFields numbers fields ++ '}' :: later)))) =
      some ((key, first) :: fields, later) := by
  rw [encodeString_append, scanFields]
  simp only [scanString_encoded, Option.bind_eq_bind, Option.bind_some,
    skipBlanks_cons (by decide : isBlank ':' = false), skipBlanks_blank,
    (startsValue_encode writable).skipBlanks_append]
  cases fields with
  | nil =>
    rw [encodeFields, List.nil_append, previous.value first _ writable (by omega)
      (endsNumber_cons (by simp) later)]
    rfl
  | cons second fields =>
    obtain ⟨other, second⟩ := second
    simp only [encodeFields, List.cons_append, List.append_assoc, List.length_cons,
      List.length_append] at enough ⊢
    rw [previous.value first _ writable (by omega) (endsNumber_cons (by simp) _)]
    have rest := previous.fields other second fields later others.1 others.2 (by omega)
    have quote : skipBlanks (encodeString other ++ (':' :: ' ' :: (encode numbers second ++
        (encodeFields numbers fields ++ '}' :: later)))) = encodeString other ++ (':' :: ' ' ::
          (encode numbers second ++ (encodeFields numbers fields ++ '}' :: later))) := rfl
    simp only [Option.bind_some, skipBlanks_cons (by decide : isBlank ',' = false),
      skipBlanks_blank, quote, rest]
    rfl

theorem scanValue_succ (value : Json) (later : List Char) (writable : Writable numbers value)
    (enough : (encode numbers value).length ≤ fuel + 1) (ends : EndsNumber later) :
    scanValue numbers (fuel + 1) (encode numbers value ++ later) = some (value, later) := by
  cases value with
  | null => rfl
  | bool value => cases value <;> rfl
  | number value =>
    have found := matchNumber_append writable.1 ends
    obtain ⟨char, rest, same, begins⟩ := head_of_matchNumber writable.1
    rw [encode, same, List.cons_append, scanValue_number begins, ← List.cons_append, ← same, found,
      Option.map_some, writable.2]
  | text value =>
    rw [encode, encodeString_append, scanValue]
    simp only [scanString_encoded, Option.bind_eq_bind, Option.bind_some]
    rfl
  | list items =>
    cases items with
    | nil => rfl
    | cons first items =>
      have starts := startsValue_encode writable.1
      simp only [encode, List.cons_append, List.append_assoc, List.nil_append, List.length_cons,
        List.length_append] at enough ⊢
      have inner := previous.items first items later writable.1 writable.2 (by omega)
      rw [scanValue, starts.skipBlanks_append]
      obtain ⟨char, rest, same, -, notClosed, -⟩ := starts
      split
      · next closed =>
        rw [same] at closed
        exact absurd (List.cons.inj closed).1 notClosed
      · rw [inner]
        rfl
  | object fields =>
    cases fields with
    | nil => rfl
    | cons field fields =>
      obtain ⟨key, first⟩ := field
      obtain ⟨distinct, writable⟩ := writable
      simp only [encode, List.cons_append, List.append_assoc, List.nil_append, List.length_cons,
        List.length_append] at enough ⊢
      have inner := previous.fields key first fields later writable.1 writable.2 (by omega)
      have quote : skipBlanks (encodeString key ++ (':' :: ' ' :: (encode numbers first ++
          (encodeFields numbers fields ++ '}' :: later)))) = encodeString key ++ (':' :: ' ' ::
            (encode numbers first ++ (encodeFields numbers fields ++ '}' :: later))) := rfl
      rw [scanValue, quote]
      split
      · next closed => exact absurd (List.cons.inj closed).1 (by decide)
      · rw [inner]
        simp only [Option.bind_eq_bind, Option.bind_some]
        rw [ofPairs_of_nodup distinct]
        rfl

end ReadsBack

theorem readsBack (numbers : NumberText) (fuel : ℕ) : ReadsBack numbers fuel := by
  induction fuel with
  | zero =>
    refine ⟨fun value later writable enough _ => ?_,
      fun _ _ _ _ _ enough => absurd enough (by omega),
      fun _ _ _ _ _ _ enough => absurd enough (by omega)⟩
    obtain ⟨char, rest, same, -⟩ := startsValue_encode writable
    rw [same] at enough
    cases enough
  | succ fuel previous =>
    exact ⟨previous.scanValue_succ, previous.scanItems_succ, previous.scanFields_succ⟩

/-- What `json.dumps` writes, `json.loads` reads, also in front of blanks. -/
theorem loads_encode {value : Json} (writable : Writable numbers value) {blanks : List Char}
    (blank : blanks.all isBlank = true) :
    loads numbers (encode numbers value ++ blanks) = some value := by
  have starts := startsValue_encode writable
  have ends : EndsNumber blanks := by
    intro char isFirst
    have isBlank : isBlank char = true := List.all_eq_true.mp blank char (List.mem_of_head? isFirst)
    have none : ∀ char ∈ [' ', '\t', '\n', '\r'],
        char.isDigit = false ∧ char ∉ ['.', 'e', 'E', '-', '+'] := by simp
    exact none char (of_decide_eq_true isBlank)
  have skipped : skipBlanks blanks = [] := List.dropWhile_eq_nil_iff.mpr (List.all_eq_true.mp blank)
  unfold loads
  rw [starts.skipBlanks_append]
  dsimp only
  rw [(readsBack numbers _).value value blanks writable (by rw [List.length_append]; omega) ends]
  simp [skipped]

/-- A trailing comma is refused, and of two values of a key the later one counts. -/
example : let numbers : NumberText := ⟨fun _ => ['0'], fun _ => 0⟩
    (loads numbers "[null,]".toList).isNone ∧
      (loads numbers " \x7b\"a\": true, \"a\" : null\x7d ".toList).map (encode numbers) =
        some "\x7b\"a\": null\x7d".toList := by
  decide +kernel

end RoundTrip

section SortedKeys

mutual

/-- `sort_keys=True`. -/
def sortKeys : Json → Json
  | .list items => .list (sortKeysOfItems items)
  | .object fields =>
    .object ((sortKeysOfFields fields).insertionSort fun first second => first.1 ≤ second.1)
  | .null => .null
  | .bool value => .bool value
  | .number value => .number value
  | .text value => .text value

def sortKeysOfItems : List Json → List Json
  | [] => []
  | item :: items => sortKeys item :: sortKeysOfItems items

def sortKeysOfFields : List (String × Json) → List (String × Json)
  | [] => []
  | (key, value) :: fields => (key, sortKeys value) :: sortKeysOfFields fields

end

variable {numbers : NumberText}

theorem writableFields_iff (fields : List (String × Json)) :
    WritableFields numbers fields ↔ ∀ field ∈ fields, Writable numbers field.2 := by
  induction fields with
  | nil => simp [WritableFields]
  | cons field fields ih => rw [List.forall_mem_cons, ← ih, WritableFields]

theorem keys_sortKeysOfFields (fields : List (String × Json)) :
    (sortKeysOfFields fields).map Prod.fst = fields.map Prod.fst := by
  induction fields with
  | nil => rfl
  | cons field fields ih => rw [sortKeysOfFields, List.map_cons, List.map_cons, ih]

mutual

/-- What can be written can be written with its keys sorted. -/
theorem writable_sortKeys : ∀ {value : Json}, Writable numbers value →
    Writable numbers (sortKeys value)
  | .null, _ => trivial
  | .bool _, _ => trivial
  | .number _, exact => exact
  | .text _, _ => trivial
  | .list _, writable => writableItems_sortKeys writable
  | .object fields, ⟨distinct, writable⟩ => by
    have sorted := List.perm_insertionSort
      (fun first second : String × Json => first.1 ≤ second.1) (sortKeysOfFields fields)
    refine ⟨?_, (writableFields_iff _).mpr fun field member => ?_⟩
    · rw [(sorted.map Prod.fst).nodup_iff, keys_sortKeysOfFields]
      exact distinct
    · exact (writableFields_iff _).mp (writableFields_sortKeys writable) field
        (sorted.mem_iff.mp member)

theorem writableItems_sortKeys : ∀ {items : List Json}, WritableItems numbers items →
    WritableItems numbers (sortKeysOfItems items)
  | [], _ => trivial
  | _ :: _, ⟨first, rest⟩ => ⟨writable_sortKeys first, writableItems_sortKeys rest⟩

theorem writableFields_sortKeys : ∀ {fields : List (String × Json)}, WritableFields numbers fields →
    WritableFields numbers (sortKeysOfFields fields)
  | [], _ => trivial
  | (_, _) :: _, ⟨first, rest⟩ => ⟨writable_sortKeys first, writableFields_sortKeys rest⟩

end

end SortedKeys

section Printable

/-- A text of printable ASCII. -/
def Printable (text : List Char) : Prop := ∀ char ∈ text, isPrintable char = true

theorem printable_cons {char : Char} {text : List Char} :
    Printable (char :: text) ↔ isPrintable char = true ∧ Printable text := List.forall_mem_cons

theorem printable_append {first second : List Char} :
    Printable (first ++ second) ↔ Printable first ∧ Printable second := List.forall_mem_append

theorem isPrintable_of_isDigit {char : Char} (isDigit : char.isDigit = true) :
    isPrintable char = true := by
  simp only [Char.isDigit, Bool.and_eq_true, decide_eq_true_eq, ge_iff_le] at isDigit
  have lower : 48 ≤ char.toNat := isDigit.1
  have upper : char.toNat ≤ 57 := isDigit.2
  simp only [isPrintable, Bool.and_eq_true, decide_eq_true_eq]
  omega

theorem printable_digits (text : List Char) : Printable (digits text).1 := fun _ member =>
  isPrintable_of_isDigit (List.mem_takeWhile_imp member)

theorem printable_optional {accepts : Char → Bool}
    (marks : ∀ char, accepts char = true → isPrintable char = true) (text : List Char) :
    Printable (optional accepts text).1 := by
  cases text with
  | nil => exact nofun
  | cons char rest =>
    rw [optional]
    split_ifs with accepted
    · exact List.forall_mem_singleton.mpr (marks char accepted)
    · exact nofun

theorem printable_integer (text : List Char) : Printable (integer text).1 := by
  cases text with
  | nil => exact nofun
  | cons char rest =>
    rw [integer]
    split_ifs with zero
    · exact List.forall_mem_singleton.mpr (by rw [zero]; rfl)
    · exact printable_digits _

theorem printable_fraction (text : List Char) : Printable (fraction text).1 := by
  cases text with
  | nil => exact nofun
  | cons char rest =>
    rw [fraction]
    dsimp only
    split_ifs with isFraction
    · exact printable_cons.mpr ⟨by rw [isFraction.1]; rfl, printable_digits _⟩
    · exact nofun

theorem printable_exponent (text : List Char) : Printable (exponent text).1 := by
  cases text with
  | nil => exact nofun
  | cons char rest =>
    rw [exponent]
    dsimp only
    split_ifs with isExponent
    · have mark : isPrintable char = true := by
        rcases List.mem_pair.mp isExponent.1 with rfl | rfl <;> rfl
      refine printable_cons.mpr ⟨mark, printable_append.mpr ⟨?_, printable_digits _⟩⟩
      refine printable_optional (fun char accepted => ?_) _
      rcases List.mem_pair.mp (of_decide_eq_true accepted) with rfl | rfl <;> rfl
    · exact nofun

/-- Texts of numbers are printable. -/
theorem printable_matchNumber {text : List Char} {found : List Char × List Char}
    (isNumber : matchNumber text = some found) : Printable found.1 := by
  unfold matchNumber at isNumber
  dsimp only at isNumber
  split_ifs at isNumber
  cases isNumber
  simp only [printable_append]
  refine ⟨⟨⟨printable_optional (fun char accepted => ?_) _, printable_integer _⟩,
    printable_fraction _⟩, printable_exponent _⟩
  rw [of_decide_eq_true accepted]
  rfl

theorem isPrintable_digitChar {digit : ℕ} (small : digit < 16) :
    isPrintable (Nat.digitChar digit) = true := by
  have all : ∀ digit : Fin 16, isPrintable (Nat.digitChar digit) = true := by decide
  exact all ⟨digit, small⟩

theorem printable_escape (char : Char) : Printable (escape char) := by
  unfold escape
  cases short : shortEscape char with
  | some short =>
    refine printable_cons.mpr ⟨rfl, List.forall_mem_singleton.mpr ?_⟩
    unfold shortEscape at short
    split_ifs at short
    all_goals
      cases short
      rfl
  | none =>
    dsimp only
    split_ifs with printable
    · exact List.forall_mem_singleton.mpr printable
    · intro other member
      obtain ⟨unit, -, member⟩ := List.mem_flatMap.mp member
      have small : ∀ number, number % 16 < 16 := fun number => Nat.mod_lt number (by decide)
      simp only [escapeUnit, hex, List.mem_cons, List.not_mem_nil, or_false] at member
      rcases member with rfl | rfl | rfl | rfl | rfl | rfl
      · rfl
      · rfl
      all_goals exact isPrintable_digitChar (small _)

theorem printable_encodeString (text : String) : Printable (encodeString text) := by
  refine printable_append.mpr ⟨printable_cons.mpr ⟨rfl, fun char member => ?_⟩,
    List.forall_mem_singleton.mpr rfl⟩
  obtain ⟨original, -, member⟩ := List.mem_flatMap.mp member
  exact printable_escape original char member

variable {numbers : NumberText}

mutual

/-- What is written is printable ASCII. -/
theorem printable_encode : ∀ {value : Json}, Writable numbers value →
    Printable (encode numbers value)
  | .null, _ => List.all_eq_true.mp (rfl : ['n', 'u', 'l', 'l'].all isPrintable = true)
  | .bool true, _ => List.all_eq_true.mp (rfl : ['t', 'r', 'u', 'e'].all isPrintable = true)
  | .bool false, _ => List.all_eq_true.mp (rfl : ['f', 'a', 'l', 's', 'e'].all isPrintable = true)
  | .number _, exact => printable_matchNumber exact.1
  | .text value, _ => printable_encodeString value
  | .list [], _ => List.all_eq_true.mp (rfl : ['[', ']'].all isPrintable = true)
  | .list (_ :: _), ⟨first, rest⟩ => by
    simp only [encode, printable_append, printable_cons]
    exact ⟨⟨⟨rfl, printable_encode first⟩, printable_encodeItems rest⟩, rfl, nofun⟩
  | .object [], _ => List.all_eq_true.mp (rfl : ['{', '}'].all isPrintable = true)
  | .object ((key, _) :: _), ⟨_, first, rest⟩ => by
    simp only [encode, printable_append, printable_cons]
    exact ⟨⟨⟨⟨rfl, printable_encodeString key⟩, rfl, rfl, printable_encode first⟩,
      printable_encodeFields rest⟩, rfl, nofun⟩

theorem printable_encodeItems : ∀ {items : List Json}, WritableItems numbers items →
    Printable (encodeItems numbers items)
  | [], _ => nofun
  | _ :: _, ⟨first, rest⟩ => by
    simp only [encodeItems, printable_append, printable_cons]
    exact ⟨⟨rfl, rfl, printable_encode first⟩, printable_encodeItems rest⟩

theorem printable_encodeFields : ∀ {fields : List (String × Json)}, WritableFields numbers fields →
    Printable (encodeFields numbers fields)
  | [], _ => nofun
  | (key, _) :: _, ⟨first, rest⟩ => by
    simp only [encodeFields, printable_append, printable_cons]
    exact ⟨⟨⟨rfl, rfl, printable_encodeString key⟩, rfl, rfl, printable_encode first⟩,
      printable_encodeFields rest⟩

end

end Printable
end AlphaAgent.JsonText
