import AlphaAgent.Core.Json
import AlphaAgent.Foundation.Dict

/-!
# Texts of JSON

`json.dumps` and `json.loads` of the standard library. A text is escaped to printable
ASCII, with two units for a character beyond the basic plane, so what is written is one
line. How a number is written and read is left open, but not which texts are numbers.
-/

namespace AlphaAgent.JsonText

open Foundation

section Strings

/-- The UTF-16 units of a character. -/
def units (char : Char) : List ℕ :=
  if char.toNat < 0x10000 then [char.toNat]
  else [0xd800 + (char.toNat - 0x10000) / 0x400, 0xdc00 + (char.toNat - 0x10000) % 0x400]

/-- `'{0:04x}'.format(unit)`. -/
def hex (unit : ℕ) : List Char :=
  [Nat.digitChar (unit / 4096 % 16), Nat.digitChar (unit / 256 % 16),
    Nat.digitChar (unit / 16 % 16), Nat.digitChar (unit % 16)]

def escapeUnit (unit : ℕ) : List Char := '\\' :: 'u' :: hex unit

/-- `ESCAPE_DCT`. -/
def shortEscape (char : Char) : Option Char :=
  if char = '\\' then some '\\'
  else if char = '"' then some '"'
  else if char = '\x08' then some 'b'
  else if char = '\x0c' then some 'f'
  else if char = '\n' then some 'n'
  else if char = '\r' then some 'r'
  else if char = '\t' then some 't'
  else none

/-- The characters from the blank to the tilde. -/
def isPrintable (char : Char) : Bool := 0x20 ≤ char.toNat && char.toNat ≤ 0x7e

/-- A character in `py_encode_basestring_ascii`. -/
def escape (char : Char) : List Char :=
  match shortEscape char with
  | some short => ['\\', short]
  | none => if isPrintable char then [char] else (units char).flatMap escapeUnit

def encodeString (text : String) : List Char :=
  '"' :: text.toList.flatMap escape ++ ['"']

example : encodeString "a\"😀" = "\"a\\\"\\ud83d\\ude00\"".toList := by decide +kernel

/-- `BACKSLASH`. -/
def unescape (char : Char) : Option Char :=
  if char = '"' ∨ char = '\\' ∨ char = '/' then some char
  else if char = 'b' then some '\x08'
  else if char = 'f' then some '\x0c'
  else if char = 'n' then some '\n'
  else if char = 'r' then some '\r'
  else if char = 't' then some '\t'
  else none

/-- A hexadecimal digit, of either case. -/
def hexDigit (char : Char) : Option ℕ :=
  if char.isDigit then some (char.toNat - '0'.toNat)
  else if 'a' ≤ char ∧ char ≤ 'f' then some (char.toNat - 'a'.toNat + 10)
  else if 'A' ≤ char ∧ char ≤ 'F' then some (char.toNat - 'A'.toNat + 10)
  else none

/-- `_decode_uXXXX`. -/
def readHex (first second third fourth : Char) : Option ℕ := do
  return (((← hexDigit first) * 16 + (← hexDigit second)) * 16 + (← hexDigit third)) * 16 +
    (← hexDigit fourth)

/-- The units of a text up to its closing quote, and what follows it. Control characters
are refused. -/
def scanUnits : List Char → Option (List ℕ × List Char)
  | [] => none
  | '"' :: rest => some ([], rest)
  | '\\' :: 'u' :: first :: second :: third :: fourth :: rest => do
    let unit ← readHex first second third fourth
    let (later, rest) ← scanUnits rest
    return (unit :: later, rest)
  | '\\' :: short :: rest => do
    let char ← unescape short
    let (later, rest) ← scanUnits rest
    return (char.toNat :: later, rest)
  | char :: rest =>
    if char.toNat < 0x20 then none
    else do
      let (later, rest) ← scanUnits rest
      return (units char ++ later, rest)

/-- The character of a code point. A lone surrogate is none. -/
def charOf (point : ℕ) : Option Char :=
  if point.isValidChar then some (Char.ofNat point) else none

/-- Pairs of surrogates are joined. -/
def joinUnits : List ℕ → Option (List Char)
  | [] => some []
  | [unit] => do return [← charOf unit]
  | unit :: next :: later =>
    if 0xd800 ≤ unit ∧ unit ≤ 0xdbff ∧ 0xdc00 ≤ next ∧ next ≤ 0xdfff then do
      return (← charOf (0x10000 + (unit - 0xd800) * 0x400 + (next - 0xdc00))) :: (← joinUnits later)
    else do return (← charOf unit) :: (← joinUnits (next :: later))

/-- `scanstring`, behind the opening quote. -/
def scanString (text : List Char) : Option (String × List Char) := do
  let (units, rest) ← scanUnits text
  return (String.ofList (← joinUnits units), rest)

/-! ### Strings are read as they were written -/

theorem hexDigit_digitChar {digit : ℕ} (small : digit < 16) :
    hexDigit (Nat.digitChar digit) = some digit := by
  have all : ∀ digit : Fin 16, hexDigit (Nat.digitChar digit) = some digit.val := by decide
  exact all ⟨digit, small⟩

theorem scanUnits_escapeUnit {unit : ℕ} (small : unit < 0x10000) (rest : List Char) :
    scanUnits (escapeUnit unit ++ rest) =
      (scanUnits rest).map fun found => (unit :: found.1, found.2) := by
  have read : readHex (Nat.digitChar (unit / 4096 % 16)) (Nat.digitChar (unit / 256 % 16))
      (Nat.digitChar (unit / 16 % 16)) (Nat.digitChar (unit % 16)) = some unit := by
    simp only [readHex, hexDigit_digitChar (Nat.mod_lt _ (by decide : 0 < 16)), Option.pure_def,
      Option.bind_eq_bind, Option.bind_some, Option.some.injEq]
    omega
  rw [escapeUnit, hex, List.cons_append, List.cons_append, List.cons_append, List.cons_append,
    List.cons_append, List.cons_append, List.nil_append, scanUnits, read]
  cases scanUnits rest <;> rfl

theorem units_lt (char : Char) : ∀ unit ∈ units char, unit < 0x10000 := by
  have valid : char.toNat < 0x110000 := by
    rcases char.valid with low | high
    · exact low.trans (by decide)
    · exact high.2
  intro unit member
  unfold units at member
  generalize char.toNat = point at valid member
  split_ifs at member with basic
  · rw [List.mem_singleton] at member
    omega
  · rw [List.mem_cons, List.mem_singleton] at member
    omega

theorem scanUnits_escapeUnits {escaped : List ℕ} (small : ∀ unit ∈ escaped, unit < 0x10000)
    (rest : List Char) : scanUnits (escaped.flatMap escapeUnit ++ rest) =
      (scanUnits rest).map fun found => (escaped ++ found.1, found.2) := by
  induction escaped with
  | nil => simp
  | cons unit later ih =>
    obtain ⟨first, small⟩ := List.forall_mem_cons.mp small
    rw [List.flatMap_cons, List.append_assoc, scanUnits_escapeUnit first, ih small, Option.map_map]
    rfl

/-- A character which stands for itself. -/
theorem scanUnits_literal {char : Char} (quote : char ≠ '"') (backslash : char ≠ '\\')
    (visible : ¬char.toNat < 0x20) (rest : List Char) : scanUnits (char :: rest) =
      (scanUnits rest).map fun found => (units char ++ found.1, found.2) := by
  rw [scanUnits.eq_def]
  split
  · next impossible => cases impossible
  · next same => exact absurd (List.cons.inj same).1 quote
  · next same => exact absurd (List.cons.inj same).1 backslash
  · next same => exact absurd (List.cons.inj same).1 backslash
  · next first later _ _ _ same =>
    obtain ⟨rfl, rfl⟩ := List.cons.inj same
    rw [if_neg visible]
    cases scanUnits rest <;> rfl

theorem scanUnits_short {char short : Char} (escaped : shortEscape char = some short)
    (rest : List Char) : scanUnits ('\\' :: short :: rest) =
      (scanUnits rest).map fun found => (units char ++ found.1, found.2) := by
  unfold shortEscape at escaped
  split_ifs at escaped with is is is is is is is
  all_goals
    obtain rfl := Option.some.inj escaped
    subst is
    rw [scanUnits]
    · cases scanUnits rest <;> rfl
    · exact fun _ _ _ _ _ same => absurd same (by decide)

theorem scanUnits_escape (char : Char) (rest : List Char) : scanUnits (escape char ++ rest) =
    (scanUnits rest).map fun found => (units char ++ found.1, found.2) := by
  unfold escape
  cases short : shortEscape char with
  | some short => exact scanUnits_short ‹_› rest
  | none =>
    have plain : char ≠ '"' ∧ char ≠ '\\' := by
      constructor <;> (rintro rfl; cases short)
    split_ifs with printable
    · have visible : ¬char.toNat < 0x20 := by
        simp only [isPrintable, Bool.and_eq_true, decide_eq_true_eq] at printable
        omega
      exact scanUnits_literal plain.1 plain.2 visible rest
    · exact scanUnits_escapeUnits (units_lt char) rest

theorem scanUnits_encoded (text rest : List Char) :
    scanUnits (text.flatMap escape ++ '"' :: rest) = some (text.flatMap units, rest) := by
  induction text with
  | nil => rfl
  | cons char later ih =>
    rw [List.flatMap_cons, List.append_assoc, scanUnits_escape, ih]
    rfl

theorem charOf_toNat (char : Char) : charOf char.toNat = some char := by
  have valid : char.toNat.isValidChar := char.valid
  rw [charOf, if_pos valid, Char.ofNat_toNat]

/-- A unit which is no surrogate is a character of its own. -/
theorem joinUnits_single {unit : ℕ} (single : unit < 0xd800 ∨ 0xdfff < unit) (later : List ℕ) :
    joinUnits (unit :: later) =
      (charOf unit).bind fun char => (joinUnits later).map (char :: ·) := by
  cases later with
  | nil => cases char : charOf unit <;> simp [joinUnits, char]
  | cons next later =>
    rw [joinUnits, if_neg (by omega)]
    cases charOf unit <;> cases joinUnits (next :: later) <;> rfl

theorem joinUnits_units (char : Char) (later : List ℕ) :
    joinUnits (units char ++ later) = (joinUnits later).map (char :: ·) := by
  have read := charOf_toNat char
  have valid := char.valid
  unfold units
  split_ifs with basic
  · have single : char.toNat < 0xd800 ∨ 0xdfff < char.toNat := by
      rcases valid with low | high
      · exact .inl low
      · exact .inr high.1
    rw [List.singleton_append, joinUnits_single single, read]
    rfl
  · have upper : char.toNat < 0x110000 := by
      rcases valid with low | high
      · exact low.trans (by decide)
      · exact high.2
    generalize char.toNat = point at basic upper read
    have joined : 0x10000 + (0xd800 + (point - 0x10000) / 0x400 - 0xd800) * 0x400 +
        (0xdc00 + (point - 0x10000) % 0x400 - 0xdc00) = point := by omega
    rw [List.cons_append, List.singleton_append, joinUnits, if_pos (by omega), joined, read]
    cases joinUnits later <;> rfl

theorem joinUnits_text (text : List Char) : joinUnits (text.flatMap units) = some text := by
  induction text with
  | nil => rfl
  | cons char later ih => rw [List.flatMap_cons, joinUnits_units, ih]; rfl

/-- A string is read as it was written. -/
theorem scanString_encoded (text : String) (rest : List Char) :
    scanString (text.toList.flatMap escape ++ '"' :: rest) = some (text, rest) := by
  rw [scanString, scanUnits_encoded]
  simp [joinUnits_text]

end Strings
end AlphaAgent.JsonText
