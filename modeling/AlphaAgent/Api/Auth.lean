import AlphaAgent.Core.Values
import AlphaAgent.Risk.MarketCalendar
import Mathlib.Data.List.DropRight

/-!
# Control authentication

`app/api/auth.py`. `requireControlAuth` reads a token from one of two headers;
`requireControlAuth_iff` says which requests it lets pass, and
`refused_status` what the others are told.
-/

namespace AlphaAgent.Api

open Risk (strip isSpace)

/-- The settings of control authentication, with their defaults. -/
structure ControlSettings where
  apiControlAuthEnabled : Bool := false
  apiControlToken : String := ""

/-- The headers which the guard reads. -/
structure ControlHeaders where
  controlToken : Option String := none
  authorization : Option String := none

/-- What ends a request early: an `HTTPException`, or an exception which the
application turns into an internal error. -/
inductive Failure where
  | http (statusCode : ℕ) (detail : String)
  | unhandled (raised : RaisedError)
deriving DecidableEq

def Failure.statusCode : Failure → ℕ
  | .http statusCode _ => statusCode
  | .unhandled _ => 500

/-- `text.partition(" ")` without the separator. -/
def partitionBlank (text : List Char) : List Char × List Char :=
  (text.takeWhile (· ≠ ' '), (text.dropWhile (· ≠ ' ')).tail)

/-- `text.lower() == "bearer"`: no other letter than an ASCII one has one of these
as its lower case. -/
def isBearer (scheme : List Char) : Bool := scheme.map Char.toLower = "bearer".toList

/-- `_bearer_token`. -/
def bearerToken (authorization : Option String) : Option (List Char) :=
  match authorization with
  | none => none
  | some text =>
    let (scheme, token) := partitionBlank text.toList
    if !isBearer scheme || token.isEmpty then none else some (strip token)

/-- `control_token or _bearer_token(authorization) or ""`. -/
def suppliedText (headers : ControlHeaders) : List Char :=
  match headers.controlToken with
  | some text =>
    if text.toList ≠ [] then text.toList else (bearerToken headers.authorization).getD []
  | none => (bearerToken headers.authorization).getD []

def isAscii (text : List Char) : Bool := text.all fun c => c.toNat < 128

/-- `secrets.compare_digest` of two texts. -/
def compareDigest (first second : List Char) : Except RaisedError Bool :=
  if isAscii first && isAscii second then .ok (first = second)
  else .error (.typeError "comparing strings with non-ASCII characters is not supported")

def controlAuthRequired : Failure := .http 401 "api_control_auth_required"

/-- `require_control_auth`. -/
def requireControlAuth (settings : ControlSettings) (headers : ControlHeaders) :
    Except Failure Unit :=
  if !settings.apiControlAuthEnabled then .ok ()
  else
    let expectedToken := strip settings.apiControlToken.toList
    if expectedToken.isEmpty then .error (.http 503 "api_control_auth_enabled_but_token_missing")
    else
      let suppliedToken := strip (suppliedText headers)
      if suppliedToken.isEmpty then .error controlAuthRequired
      else
        match compareDigest suppliedToken expectedToken with
        | .error raised => .error (.unhandled raised)
        | .ok same => if same then .ok () else .error controlAuthRequired

section Strip

theorem strip_eq_rdropWhile (text : List Char) :
    strip text = (text.dropWhile isSpace).rdropWhile isSpace := rfl

@[simp] theorem strip_nil : strip [] = [] := rfl

/-- What was stripped has no blanks at its ends. -/
theorem strip_strip (text : List Char) : strip (strip text) = strip text := by
  have trailing : (strip text).rdropWhile isSpace = strip text :=
    List.rdropWhile_idempotent isSpace (text.dropWhile isSpace)
  have leading : (strip text).dropWhile isSpace = strip text := by
    obtain ⟨rest, joined⟩ := List.rdropWhile_prefix isSpace (l := text.dropWhile isSpace)
    rw [← strip_eq_rdropWhile] at joined
    cases stripped : strip text with
    | nil => rfl
    | cons first others =>
      rw [stripped, List.cons_append] at joined
      have idempotent := List.dropWhile_idempotent isSpace text
      rw [← joined, List.dropWhile_cons] at idempotent
      rw [List.dropWhile_cons, if_neg]
      intro blank
      rw [if_pos blank] at idempotent
      have shorter := (List.dropWhile_sublist isSpace (l := others ++ rest)).length_le
      rw [idempotent, List.length_cons] at shorter
      omega
  rw [strip_eq_rdropWhile (strip text), leading, trailing]

end Strip

section Tokens

/-- An `Authorization` header with a token: the scheme, a blank, and the token. -/
def BearsToken (authorization : String) (token : List Char) : Prop :=
  ∃ scheme rest, authorization.toList = scheme ++ ' ' :: rest ∧ ' ' ∉ scheme ∧
    isBearer scheme = true ∧ strip rest = token

/-- The request carries a token: in its own header, or without this one as a bearer. -/
def CarriesToken (headers : ControlHeaders) (token : List Char) : Prop :=
  (∃ text, headers.controlToken = some text ∧ text ≠ "" ∧ strip text.toList = token) ∨
    headers.controlToken.getD "" = "" ∧
      ∃ text, headers.authorization = some text ∧ BearsToken text token

/-- A text with a blank is divided at its first one. -/
theorem partitionBlank_append {scheme rest : List Char} (unbroken : ' ' ∉ scheme) :
    partitionBlank (scheme ++ ' ' :: rest) = (scheme, rest) := by
  have allowed : ∀ c ∈ scheme, (decide (c ≠ ' ')) = true := by
    intro c member
    rw [decide_eq_true_eq]
    rintro rfl
    exact unbroken member
  unfold partitionBlank
  rw [List.takeWhile_append_of_pos allowed, List.dropWhile_append_of_pos allowed]
  simp

/-- A text which has something after a blank is what it was divided into. -/
theorem eq_of_partitionBlank {text : List Char} (follows : (partitionBlank text).2 ≠ []) :
    text = (partitionBlank text).1 ++ ' ' :: (partitionBlank text).2 ∧
      ' ' ∉ (partitionBlank text).1 := by
  constructor
  · have parts := List.takeWhile_append_dropWhile (p := (· ≠ ' ')) (l := text)
    cases after : text.dropWhile (· ≠ ' ') with
    | nil =>
      rw [partitionBlank, after] at follows
      exact absurd rfl follows
    | cons separator rest =>
      have blank := List.head_dropWhile_not (fun c => decide (c ≠ ' ')) 
        (by rw [after]; exact List.cons_ne_nil separator rest)
      simp only [after, List.head_cons, decide_eq_false_iff_not, not_not] at blank
      rw [after, blank] at parts
      rw [partitionBlank, after]
      exact parts.symm
  · intro member
    have other := List.mem_takeWhile_imp member
    simp at other

theorem bearerToken_eq_some_iff {authorization : Option String} {token : List Char}
    (nonempty : token ≠ []) : bearerToken authorization = some token ↔
      ∃ text, authorization = some text ∧ BearsToken text token := by
  constructor
  · intro found
    cases authorization with
    | none => cases found
    | some text =>
      unfold bearerToken at found
      dsimp only at found
      split_ifs at found with refused
      rw [Bool.or_eq_true, not_or, Bool.not_eq_true', Bool.not_eq_false, List.isEmpty_iff]
        at refused
      obtain ⟨joined, unbroken⟩ := eq_of_partitionBlank refused.2
      exact ⟨text, rfl, _, _, joined, unbroken, refused.1, Option.some.inj found⟩
  · rintro ⟨text, rfl, scheme, rest, joined, unbroken, bearer, rfl⟩
    have follows : rest ≠ [] := by
      rintro rfl
      exact nonempty rfl
    unfold bearerToken
    dsimp only
    rw [joined, partitionBlank_append unbroken]
    simp [bearer, follows]

theorem strip_bearerToken {authorization : Option String} {token : List Char}
    (found : bearerToken authorization = some token) : strip token = token := by
  cases authorization with
  | none => cases found
  | some text =>
    unfold bearerToken at found
    dsimp only at found
    split_ifs at found
    rw [← Option.some.inj found, strip_strip]

/-- The text which a request supplies, without the blanks around it. -/
theorem strip_suppliedText_iff {headers : ControlHeaders} {token : List Char}
    (nonempty : token ≠ []) :
    strip (suppliedText headers) = token ↔ CarriesToken headers token := by
  have bearer : strip ((bearerToken headers.authorization).getD []) = token ↔
      ∃ text, headers.authorization = some text ∧ BearsToken text token := by
    rw [← bearerToken_eq_some_iff nonempty]
    cases found : bearerToken headers.authorization with
    | none => exact iff_of_false nonempty.symm nofun
    | some supplied =>
      rw [Option.getD_some, strip_bearerToken found, Option.some.injEq]
  unfold suppliedText CarriesToken
  cases given : headers.controlToken with
  | none => simp [bearer]
  | some text =>
    by_cases empty : text = ""
    · subst empty
      simp [bearer]
    · have present : text.toList ≠ [] := by simpa using empty
      simp [empty]

end Tokens

section Guard

variable {settings : ControlSettings} {headers : ControlHeaders}

/-- Who may pass: everybody where the guard is off, and otherwise who carries the
configured token, if there is one. -/
def Permitted (settings : ControlSettings) (headers : ControlHeaders) : Prop :=
  settings.apiControlAuthEnabled = true →
    strip settings.apiControlToken.toList ≠ [] ∧
      isAscii (strip settings.apiControlToken.toList) = true ∧
      CarriesToken headers (strip settings.apiControlToken.toList)

/-- The guard lets a request pass exactly when it is permitted. -/
theorem requireControlAuth_iff :
    requireControlAuth settings headers = .ok () ↔ Permitted settings headers := by
  unfold requireControlAuth Permitted
  cases settings.apiControlAuthEnabled with
  | false => simp
  | true =>
    by_cases configured : strip settings.apiControlToken.toList = []
    · simp [configured]
    · have carried : strip (suppliedText headers) = strip settings.apiControlToken.toList ↔ _ :=
        strip_suppliedText_iff configured
      by_cases same : strip (suppliedText headers) = strip settings.apiControlToken.toList
      · cases ascii : isAscii (strip settings.apiControlToken.toList) <;>
          simp [same, configured, compareDigest, ascii, carried.mp same]
      · have foreign := mt carried.mpr same
        by_cases absent : strip (suppliedText headers) = []
        · simp [absent, configured, foreign]
        · cases ascii : isAscii (strip (suppliedText headers)) &&
              isAscii (strip settings.apiControlToken.toList) <;>
            simp [absent, configured, compareDigest, ascii, same, foreign]

instance : Decidable (Permitted settings headers) :=
  decidable_of_iff ((requireControlAuth settings headers).isOk = true) (by
    rw [← requireControlAuth_iff]
    cases requireControlAuth settings headers <;> simp [Except.isOk, Except.toBool])

/-- A refusal is no success and no other client error than a missing token. -/
theorem refused_status {failure : Failure}
    (refused : requireControlAuth settings headers = .error failure) :
    failure.statusCode ∈ [401, 500, 503] := by
  unfold requireControlAuth at refused
  dsimp only at refused
  split_ifs at refused with disabled missing absent
  · cases refused
    decide
  · cases refused
    decide
  · cases compared : compareDigest (strip (suppliedText headers))
        (strip settings.apiControlToken.toList) with
    | error raised =>
      rw [compared] at refused
      cases refused
      simp [Failure.statusCode]
    | ok same =>
      rw [compared] at refused
      cases same <;> cases refused
      decide

end Guard

end AlphaAgent.Api
