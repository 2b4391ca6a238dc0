import AlphaAgent.Core.Values
import Mathlib.Data.Rat.Defs

/-!
# Decoded JSON

A body as `response.json()` decodes it, and what `float(...)`, `dict(...)` and
`.get(...)` make of it. The keys of an object differ and are in their order. A
number is finite: what is not finite could not be stored as JSON either.
-/

namespace AlphaAgent

inductive Json where
  | null
  | bool (value : Bool)
  | number (value : ℚ)
  | text (value : String)
  | list (items : List Json)
  | object (fields : List (String × Json))

/-- A mapping of texts to decoded values, in the order of its keys. -/
abbrev Mapping := List (String × Json)

/-- `mapping.get(key)`. -/
def Mapping.get (mapping : Mapping) (key : String) : Json := (mapping.lookup key).getD .null

section Numbers

/-- Digits, with single underscores between them. -/
def readDigits (value : ℕ) (afterDigit : Bool) : List Char → Option ℕ
  | [] => if afterDigit then some value else none
  | char :: rest =>
    if char = '_' then if afterDigit then readDigits value false rest else none
    else if char.isDigit then readDigits (value * 10 + (char.toNat - '0'.toNat)) true rest
    else none

def readSign : List Char → Bool × List Char
  | '-' :: rest => (true, rest)
  | '+' :: rest => (false, rest)
  | chars => (false, chars)

/-- Digits with a point, of which one side can be empty. -/
def readMantissa (chars : List Char) : Option ℚ :=
  let whole := chars.takeWhile (· ≠ '.')
  let fraction := (chars.dropWhile (· ≠ '.')).drop 1
  let places := (fraction.filter (· ≠ '_')).length
  match whole, fraction with
  | [], [] => none
  | [], _ => (readDigits 0 false fraction).map fun digits => (digits : ℚ) / 10 ^ places
  | _, [] => (readDigits 0 false whole).map fun digits => (digits : ℚ)
  | _, _ => do
    let before ← readDigits 0 false whole
    let after ← readDigits 0 false fraction
    return before + (after : ℚ) / 10 ^ places

/-- What follows the `e` of a number. -/
def readExponent (chars : List Char) : Option ℚ :=
  let (negative, digits) := readSign chars
  (readDigits 0 false digits).map fun power =>
    if negative then 1 / 10 ^ power else (10 : ℚ) ^ power

/-- The finite number which `float(text)` reads. -/
def readFloat (text : String) : Option ℚ := do
  let stripped := ((text.toList.dropWhile Char.isWhitespace).reverse.dropWhile
    Char.isWhitespace).reverse
  let (negative, unsigned) := readSign stripped
  let isExponent (char : Char) : Bool := char = 'e' || char = 'E'
  let mantissa ← readMantissa (unsigned.takeWhile (!isExponent ·))
  let scale ← match unsigned.dropWhile (!isExponent ·) with
    | [] => some 1
    | _ :: exponent => readExponent exponent
  return (if negative then -mantissa else mantissa) * scale

example : readFloat " -2_5.50e1 " = some (-255) := by decide +kernel

example : readFloat "2500 INR" = none := by decide +kernel

end Numbers

namespace Json

/-- `float(value)`. -/
def toFloat : Json → Except RaisedError ℚ
  | null => .error (.typeError "float() argument must be a string or a real number, not 'NoneType'")
  | bool value => .ok (if value then 1 else 0)
  | number value => .ok value
  | text value =>
    match readFloat value with
    | some parsed => .ok parsed
    | none => .error (.valueError ("could not convert string to float: '" ++ value ++ "'"))
  | list _ => .error (.typeError "float() argument must be a string or a real number, not 'list'")
  | object _ => .error (.typeError "float() argument must be a string or a real number, not 'dict'")

/-- `not value`. -/
def isFalsy : Json → Bool
  | null => true
  | bool value => !value
  | number value => value = 0
  | text value => value = ""
  | list items => items.isEmpty
  | object fields => fields.isEmpty

/-- `value or other`. -/
def orElse (value other : Json) : Json := if value.isFalsy then other else value

/-- One entry of a sequence which `dict(...)` reads; a key which is no text is not kept. -/
def toPair : Json → Except RaisedError (Option (String × Json))
  | list [text key, value] => .ok (some (key, value))
  | list [list _, _] => .error (.typeError "unhashable type: 'list'")
  | list [object _, _] => .error (.typeError "unhashable type: 'dict'")
  | list [_, _] => .ok none
  | list _ =>
    .error (.valueError "dictionary update sequence element has wrong length; 2 is required")
  | text value =>
    match value.toList with
    | [key, entry] => .ok (some (key.toString, text entry.toString))
    | _ => .error (.valueError "dictionary update sequence element has wrong length; 2 is required")
  | object [(key, _), (entry, _)] => .ok (some (key, text entry))
  | object _ =>
    .error (.valueError "dictionary update sequence element has wrong length; 2 is required")
  | _ => .error (.typeError "cannot convert dictionary update sequence element to a sequence")

/-- `dict(value)`. A later entry of a sequence replaces an earlier one of its key,
so the last ones come first. -/
def toMapping : Json → Except RaisedError Mapping
  | object fields => .ok fields
  | list items => (items.mapM toPair).map fun entries => (entries.filterMap id).reverse
  | text value =>
    if value = "" then .ok []
    else .error (.valueError "dictionary update sequence element has wrong length; 2 is required")
  | null => .error (.typeError "'NoneType' object is not iterable")
  | bool _ => .error (.typeError "'bool' object is not iterable")
  | number _ => .error (.typeError "'float' object is not iterable")

end Json
end AlphaAgent
