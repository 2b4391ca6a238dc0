import Mathlib.Algebra.Order.Ring.Rat
import Mathlib.Tactic.NormNum

/-!
# Values shared by all components

Prices, amounts and ratios are exact rationals. A numeric bound which a schema
puts on a field is part of the field's type, so a value which the schema would
refuse cannot be built. A raised error keeps its class name and its text. A
clock value keeps its wall-clock reading and, when it is aware, its UTC offset.
-/

namespace AlphaAgent

/-- A number under `Field(gt=0)`. -/
abbrev Positive := {value : ℚ // 0 < value}

/-- A number under `Field(ge=0)`. -/
abbrev NonNegative := {value : ℚ // 0 ≤ value}

def NonNegative.zero : NonNegative := ⟨0, le_rfl⟩

/-- A number under `Field(gt=0, le=upper)`. -/
abbrev Share (upper : ℚ) := {value : ℚ // 0 < value ∧ value ≤ upper}

/-- A number under `Field(ge=0, le=1)`. -/
abbrev Proportion := {value : ℚ // 0 ≤ value ∧ value ≤ 1}

def Proportion.zero : Proportion := ⟨0, by norm_num⟩

def Proportion.one : Proportion := ⟨1, by norm_num⟩

def Proportion.fourFifths : Proportion := ⟨4 / 5, by norm_num⟩

def Proportion.threeQuarters : Proportion := ⟨3 / 4, by norm_num⟩

/-- An integer under `Field(ge=1)`. -/
abbrev AtLeastOne := {value : ℕ // 1 ≤ value}

/-- A raised exception: the name of its class and its text. -/
structure RaisedError where
  errorType : String
  message : String
deriving DecidableEq, Repr

namespace RaisedError

def valueError (message : String) : RaisedError := ⟨"ValueError", message⟩
def typeError (message : String) : RaisedError := ⟨"TypeError", message⟩
def overflowError (message : String) : RaisedError := ⟨"OverflowError", message⟩
def keyError (message : String) : RaisedError := ⟨"KeyError", message⟩
def zeroDivisionError (message : String) : RaisedError := ⟨"ZeroDivisionError", message⟩
def failClosed (message : String) : RaisedError := ⟨"FailClosedError", message⟩
def riskRejected (message : String) : RaisedError := ⟨"RiskRejectedError", message⟩
def orderIdempotency (message : String) : RaisedError := ⟨"OrderIdempotencyError", message⟩

end RaisedError

/-- Microseconds in one day. -/
def microsecondsPerDay : ℤ := 86400 * 1000000

/-- A calendar day, counted from 1970-01-01. -/
abbrev Day := ℤ

/-- A `datetime`: microseconds from 1970-01-01T00:00:00 to the wall-clock
reading, and the UTC offset in microseconds when the value is aware. -/
structure DateTime where
  wallClock : ℤ
  utcOffset : Option ℤ
deriving DecidableEq, Repr

namespace DateTime

/-- The aware value of an instant in UTC. -/
def utc (instant : ℤ) : DateTime := ⟨instant, some 0⟩

def isAware (value : DateTime) : Bool := value.utcOffset.isSome

/-- The instant denoted; a naive value is read as UTC. -/
def instant (value : DateTime) : ℤ := value.wallClock - value.utcOffset.getD 0

@[simp] theorem utc_instant (instant : ℤ) : (utc instant).instant = instant := sub_zero instant

/-- The calendar day of the wall-clock reading. -/
def date (value : DateTime) : Day := value.wallClock / microsecondsPerDay

/-- `value.time()`, in microseconds from midnight of the wall clock. -/
def time (value : DateTime) : ℤ := value.wallClock % microsecondsPerDay

/-- Readings from 0001-01-01 up to the end of 9999-12-31. -/
def inRange (wallClock : ℤ) : Bool :=
  -719162 * microsecondsPerDay ≤ wallClock && wallClock < 2932897 * microsecondsPerDay

/-- A naive value becomes UTC; an aware one moves to UTC, which fails past
either end of the calendar. -/
def toUtc (value : DateTime) : Except RaisedError DateTime :=
  match value.utcOffset with
  | none => .ok (utc value.wallClock)
  | some _ =>
    if inRange value.instant then .ok (utc value.instant)
    else .error (.overflowError "date value out of range")

theorem toUtc_eq_utc {value normalized : DateTime} (converted : value.toUtc = .ok normalized) :
    normalized = utc value.instant := by
  unfold toUtc at converted
  cases aware : value.utcOffset with
  | none =>
    simp only [aware, Except.ok.injEq] at converted
    rw [← converted]
    simp [instant, aware]
  | some offset =>
    simp only [aware] at converted
    split at converted
    · exact (Except.ok.inj converted).symm
    · cases converted

end DateTime
end AlphaAgent
