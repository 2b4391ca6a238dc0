import AlphaAgent.Foundation.Tree
import Mathlib.Data.List.Infix

/-!
# Masking secrets

`app/core/security.py`, which masks the events that are logged and the contexts that are
audited. A value is a list, a mapping, or what is neither; `lower` is `str.lower`, and
`str` is `str(...)` of what is not a text. The keys of a mapping differ.
-/

namespace AlphaAgent

open Foundation

/-- A value which is neither a list nor a mapping. -/
inductive Scalar (α : Type) where
  | none
  | text (value : String)
  | other (value : α)

abbrev LogValue (α : Type) := Tree String (Scalar α)

abbrev LogMapping (α : Type) := List (String × LogValue α)

def sensitiveTokens : List String :=
  ["api_key", "secret", "token", "password", "authorization", "access", "refresh"]

/-- `text[:2]`. -/
def firstTwo (text : String) : String := String.ofList (text.toList.take 2)

/-- `text[-2:]`. -/
def lastTwo (text : String) : String := String.ofList (text.toList.drop (text.length - 2))

/-- `mask_secret`, from the text on. -/
def maskText (text : String) : String :=
  if text = "" then ""
  else if text.length ≤ 4 then "****"
  else firstTwo text ++ "****" ++ lastTwo text

variable {α : Type} (lower : String → String) (str : LogValue α → String)

def isSensitiveKey (key : String) : Bool :=
  sensitiveTokens.any fun token => decide (token.toList <:+: (lower key).toList)

def maskSecret : LogValue α → String
  | .leaf .none => ""
  | .leaf (.text text) => maskText text
  | value => maskText (str value)

def maskSensitiveMapping : LogMapping α → LogMapping α
  | [] => []
  | (key, value) :: rest =>
    let masked :=
      if isSensitiveKey lower key then .leaf (.text (maskSecret str value))
      else match value with
        | .mapping entries => .mapping (maskSensitiveMapping entries)
        | value => value
    (key, masked) :: maskSensitiveMapping rest

section Texts

/-- Two texts of more than four characters which differ at most between their first two
and their last two. -/
def SameEnds (first second : String) : Prop :=
  4 < first.length ∧ 4 < second.length ∧
    firstTwo first = firstTwo second ∧ lastTwo first = lastTwo second

instance (first second : String) : Decidable (SameEnds first second) :=
  inferInstanceAs (Decidable (_ ∧ _ ∧ _ ∧ _))

/-- Both texts are empty, both have up to four characters, or they have the same ends. -/
def ShownAlike (first second : String) : Prop :=
  (first = "" ∧ second = "") ∨
    (first ≠ "" ∧ second ≠ "" ∧ first.length ≤ 4 ∧ second.length ≤ 4) ∨
    SameEnds first second

variable {text first second : String}

theorem ne_empty_of_long (long : 4 < text.length) : text ≠ "" := by
  rintro rfl
  exact absurd long (by decide)

theorem maskText_of_long (long : 4 < text.length) :
    maskText text = firstTwo text ++ "****" ++ lastTwo text := by
  rw [maskText, if_neg (ne_empty_of_long long), if_neg (by omega)]

example : maskText "supersecret" = "su****et" := by decide +kernel

theorem length_firstTwo (long : 4 < text.length) : (firstTwo text).length = 2 := by
  have size : text.toList.length = text.length := String.length_toList
  simp only [firstTwo, String.length_ofList, List.length_take]
  omega

theorem length_lastTwo (long : 4 < text.length) : (lastTwo text).length = 2 := by
  have size : text.toList.length = text.length := String.length_toList
  simp only [lastTwo, String.length_ofList, List.length_drop]
  omega

/-- The length of a masked text tells only which branch masked it. -/
theorem length_maskText (text : String) :
    (maskText text).length = if text = "" then 0 else if text.length ≤ 4 then 4 else 8 := by
  by_cases empty : text = ""
  · rw [maskText, if_pos empty, if_pos empty, String.length_empty]
  · by_cases short : text.length ≤ 4
    · rw [maskText, if_neg empty, if_pos short, if_neg empty, if_pos short]
      rfl
    · have long : 4 < text.length := by omega
      rw [maskText_of_long long, if_neg empty, if_neg short, String.length_append,
        String.length_append, length_firstTwo long, length_lastTwo long]
      rfl

/-- Two long texts are masked alike exactly when they have the same ends. -/
theorem maskText_eq_of_long (long : 4 < first.length) (other : 4 < second.length) :
    maskText first = maskText second ↔
      firstTwo first = firstTwo second ∧ lastTwo first = lastTwo second := by
  rw [maskText_of_long long, maskText_of_long other]
  constructor
  · intro equal
    have chars := congrArg String.toList equal
    simp only [String.toList_append, List.append_assoc] at chars
    have starts : (firstTwo first).toList.length = (firstTwo second).toList.length := by
      rw [String.length_toList, String.length_toList, length_firstTwo long, length_firstTwo other]
    obtain ⟨before, rest⟩ := List.append_inj chars starts
    exact ⟨String.toList_injective before,
      String.toList_injective (List.append_cancel_left rest)⟩
  · rintro ⟨before, after⟩
    rw [before, after]

/-- What the mask tells of a text. -/
theorem maskText_eq_iff : maskText first = maskText second ↔ ShownAlike first second := by
  constructor
  · intro equal
    have sizes := congrArg String.length equal
    rw [length_maskText, length_maskText] at sizes
    by_cases empty : first = ""
    · by_cases alsoEmpty : second = ""
      · exact .inl ⟨empty, alsoEmpty⟩
      · rw [if_pos empty, if_neg alsoEmpty] at sizes
        split at sizes <;> omega
    · by_cases otherEmpty : second = ""
      · rw [if_neg empty, if_pos otherEmpty] at sizes
        split at sizes <;> omega
      · rw [if_neg empty, if_neg otherEmpty] at sizes
        by_cases short : first.length ≤ 4
        · by_cases alsoShort : second.length ≤ 4
          · exact .inr (.inl ⟨empty, otherEmpty, short, alsoShort⟩)
          · rw [if_pos short, if_neg alsoShort] at sizes
            omega
        · by_cases otherShort : second.length ≤ 4
          · rw [if_neg short, if_pos otherShort] at sizes
            omega
          · have long : 4 < first.length := by omega
            have other : 4 < second.length := by omega
            exact .inr (.inr ⟨long, other, (maskText_eq_of_long long other).mp equal⟩)
  · rintro (⟨rfl, rfl⟩ | ⟨present, other, short, alsoShort⟩ | ⟨long, other, ends⟩)
    · rfl
    · rw [maskText, if_neg present, if_pos short, maskText, if_neg other, if_pos alsoShort]
    · exact (maskText_eq_of_long long other).mpr ends

end Texts

end AlphaAgent
