import AlphaAgent.Core.Json
import AlphaAgent.Intraday.Strategies

/-!
# Exits of a virtual position

`app/intraday/exit_manager.py`. A wall-clock time of a configuration is a text;
`int` reads a part of it, here in its ASCII forms.
-/

namespace AlphaAgent.Intraday

/-- The whitespace which `int` ignores around a number. -/
def isBlank (c : Char) : Bool :=
  c = ' ' || c = '\t' || c = '\n' || c = '\r' || c = '\x0b' || c = '\x0c'

def stripBlanks (text : List Char) : List Char :=
  ((text.dropWhile isBlank).reverse.dropWhile isBlank).reverse

/-- `int(text)`. -/
def readInt (text : List Char) : Except RaisedError ℤ :=
  let number := match stripBlanks text with
    | '-' :: digits => (readDigits 0 false digits).map fun value => -(value : ℤ)
    | '+' :: digits => (readDigits 0 false digits).map Int.ofNat
    | digits => (readDigits 0 false digits).map Int.ofNat
  match number with
  | some number => .ok number
  | none => .error (.valueError
      ("invalid literal for int() with base 10: '" ++ String.ofList text ++ "'"))

/-- `time(hour, minute)`. -/
def makeTime (hour minute : ℤ) : Except RaisedError ℤ :=
  if hour < 0 ∨ 23 < hour then .error (.valueError "hour must be in 0..23")
  else if minute < 0 ∨ 59 < minute then .error (.valueError "minute must be in 0..59")
  else .ok (timeOfDay hour minute)

/-- `_parse_time`: the parts around the first colon, which are read before they
are counted. -/
def parseTime (value : String) : Except RaisedError ℤ := do
  let text := value.toList
  let hour ← readInt (text.takeWhile (· ≠ ':'))
  match text.dropWhile (· ≠ ':') with
  | [] => throw (.valueError "not enough values to unpack (expected 2, got 1)")
  | _ :: rest => makeTime hour (← readInt rest)

structure ExitDecision where
  shouldExit : Bool
  reason : String := ""
  exitPrice : Option ℚ := none
deriving DecidableEq

/-- The exit for which price, VWAP or regime call, if any. -/
def ruleExit (position : VirtualPosition) (snapshot : MarketDataSnapshot)
    (currentRegime : MarketRegime) : Option ExitDecision :=
  match position.direction with
  | .long =>
    if snapshot.lastPrice ≤ position.stopLoss then
      some ⟨true, "STOP_LOSS", some position.stopLoss⟩
    else if position.targetPrice ≤ snapshot.lastPrice then
      some ⟨true, "TARGET_HIT", some position.targetPrice⟩
    else if snapshot.vwap.any (snapshot.lastPrice < ·) then
      some ⟨true, "VWAP_BREAK", some snapshot.lastPrice⟩
    else if currentRegime.isBearish then some ⟨true, "REGIME_CHANGE", some snapshot.lastPrice⟩
    else none
  | .short =>
    if position.stopLoss ≤ snapshot.lastPrice then
      some ⟨true, "STOP_LOSS", some position.stopLoss⟩
    else if snapshot.lastPrice ≤ position.targetPrice then
      some ⟨true, "TARGET_HIT", some position.targetPrice⟩
    else if snapshot.vwap.any (· < snapshot.lastPrice) then
      some ⟨true, "VWAP_BREAK", some snapshot.lastPrice⟩
    else if currentRegime.isBullish then some ⟨true, "REGIME_CHANGE", some snapshot.lastPrice⟩
    else none

/-- `ExitManager.evaluate`. -/
def ExitManager.evaluate (config : IntradayShadowConfig) (position : VirtualPosition)
    (snapshot : MarketDataSnapshot) (currentRegime : MarketRegime) (now : Option DateTime := none) :
    Except RaisedError ExitDecision :=
  let checkedAt := now.getD snapshot.timestamp
  match ruleExit position snapshot currentRegime with
  | some decision => .ok decision
  | none => do
    if (← parseTime config.forceCloseTime) ≤ checkedAt.time then
      return ⟨true, "END_OF_DAY", some snapshot.lastPrice⟩
    return { shouldExit := false }

/-- Price, VWAP and regime only ever call for an exit. -/
theorem ruleExit_shouldExit {position : VirtualPosition} {snapshot : MarketDataSnapshot}
    {currentRegime : MarketRegime} {decision : ExitDecision}
    (decided : ruleExit position snapshot currentRegime = some decision) :
    decision.shouldExit = true := by
  unfold ruleExit at decided
  split at decided
  · split_ifs at decided <;> cases decided <;> rfl
  · split_ifs at decided <;> cases decided <;> rfl

example : parseTime " 9:2_0 " = .ok (timeOfDay 9 20) := by decide

example : parseTime "15" =
    .error (.valueError "not enough values to unpack (expected 2, got 1)") := by decide

end AlphaAgent.Intraday
