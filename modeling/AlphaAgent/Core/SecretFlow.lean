import AlphaAgent.Core.Security

/-!
# What a masked mapping tells of its secrets

Two mappings which differ only in the middle of their secrets are masked alike exactly
when the lists which the masking returns as they are agree, and the containers below
sensitive keys are printed with the same ends. The masking follows mappings only, so a
secret below a list stays readable.
-/

namespace AlphaAgent

open Foundation

/-- Equal, up to the middle of a long text below a sensitive key. -/
def Scalar.SameButMiddle {α : Type} : Bool → Scalar α → Scalar α → Prop
  | true, .text first, .text second => first = second ∨ SameEnds first second
  | _, first, second => first = second

section Flow

variable {α : Type} (lower : String → String) (str : LogValue α → String)

/-- The mappings differ only in the middle characters of string secrets of more than four
characters; a secret is below a sensitive key, at any depth. -/
def DifferInSecrets (first second : LogMapping α) : Prop :=
  Tree.RelatedEntries (isSensitiveKey lower) Scalar.SameButMiddle false first second

/-- A list which is under no sensitive key is kept as it is. -/
def listKept : Bool → LogValue α → List (List (LogValue α))
  | false, .list items => [items]
  | _, _ => []

/-- A list or a mapping which is the value of a sensitive key is printed. -/
def containerPrinted : Bool → LogValue α → List (LogValue α)
  | true, .list items => [.list items]
  | true, .mapping entries => [.mapping entries]
  | _, _ => []

/-- The lists which the masking meets, going through mappings and keys which are not sensitive. -/
def keptLists (mapping : LogMapping α) : List (List (LogValue α)) :=
  Tree.gatherEntries (isSensitiveKey lower) listKept mapping

/-- The lists and mappings which it meets as values of sensitive keys. -/
def printedContainers (mapping : LogMapping α) : List (LogValue α) :=
  Tree.gatherEntries (isSensitiveKey lower) containerPrinted mapping

variable {lower}

abbrev SameValue (lower : String → String) (below : Bool) (first second : LogValue α) : Prop :=
  Tree.Related (isSensitiveKey lower) Scalar.SameButMiddle below first second

theorem listKept_length (below : Bool) (first second : LogValue α)
    (same : SameValue lower below first second) :
    (listKept below first).length = (listKept below second).length := by
  obtain ⟨_, _, rfl, rfl, -⟩ | ⟨_, _, rfl, rfl, -⟩ | ⟨_, _, rfl, rfl, -⟩ := same.shapes
  all_goals cases below <;> rfl

theorem containerPrinted_length (below : Bool) (first second : LogValue α)
    (same : SameValue lower below first second) :
    (containerPrinted below first).length = (containerPrinted below second).length := by
  obtain ⟨_, _, rfl, rfl, -⟩ | ⟨_, _, rfl, rfl, -⟩ | ⟨_, _, rfl, rfl, -⟩ := same.shapes
  all_goals cases below <;> rfl

/-- The masks of two scalars below a sensitive key agree. -/
theorem maskSecret_leaf {first second : Scalar α} (same : first.SameButMiddle true second) :
    maskSecret str (.leaf first) = maskSecret str (.leaf second) := by
  cases first with
  | text value =>
    cases second with
    | text other =>
      rcases same with rfl | ends
      · rfl
      · exact maskText_eq_iff.mpr (.inr (.inr ends))
    | none | other => cases same
  | none | other => rw [show second = _ from same.symm]

/-- The value of a sensitive key. -/
theorem maskSecret_eq_iff {first second : LogValue α} (same : SameValue lower true first second) :
    maskSecret str first = maskSecret str second ↔
      List.Forall₂ (fun value other => ShownAlike (str value) (str other))
        (containerPrinted true first) (containerPrinted true second) := by
  obtain ⟨value, other, rfl, rfl, leaves⟩ | ⟨items, others, rfl, rfl, -⟩ |
    ⟨entries, others, rfl, rfl, -⟩ := same.shapes
  · exact iff_of_true (maskSecret_leaf str leaves) .nil
  · simp [containerPrinted, maskSecret, maskText_eq_iff]
  · simp [containerPrinted, maskSecret, maskText_eq_iff]

variable (lower)

/-- The value of a key which is not sensitive. -/
def maskPlain : LogValue α → LogValue α
  | .mapping entries => .mapping (maskSensitiveMapping lower str entries)
  | value => value

theorem maskSensitiveMapping_cons (key : String) (value : LogValue α) (rest : LogMapping α) :
    maskSensitiveMapping lower str ((key, value) :: rest) =
      (key, if isSensitiveKey lower key then .leaf (.text (maskSecret str value))
        else maskPlain lower str value) :: maskSensitiveMapping lower str rest := by
  cases value <;> simp [maskSensitiveMapping, maskPlain]

variable {lower}

theorem listKept_true (value : LogValue α) : listKept true value = [] := by
  cases value <;> rfl

mutual

/-- The value of a key which is not sensitive shows what the walk finds in it. -/
theorem maskPlain_eq_iff (first second : LogValue α) (same : SameValue lower false first second) :
    maskPlain lower str first = maskPlain lower str second ↔
      Tree.gather (isSensitiveKey lower) listKept first =
          Tree.gather (isSensitiveKey lower) listKept second ∧
        List.Forall₂ (fun value other => ShownAlike (str value) (str other))
          (Tree.gather (isSensitiveKey lower) containerPrinted first)
          (Tree.gather (isSensitiveKey lower) containerPrinted second) := by
  obtain ⟨value, other, rfl, rfl, leaves⟩ | ⟨items, others, rfl, rfl, -⟩ |
    ⟨entries, others, rfl, rfl, within⟩ := same.shapes
  · obtain rfl : value = other := leaves
    exact iff_of_true rfl ⟨rfl, .nil⟩
  · simp [maskPlain, Tree.gather, listKept, containerPrinted]
  · simp only [maskPlain, Tree.mapping.injEq, Tree.gather]
    exact maskEntries_eq_iff entries others within

/-- A mapping shows the lists and the printed containers which the walk finds in it. -/
theorem maskEntries_eq_iff (firsts seconds : LogMapping α)
    (same : DifferInSecrets lower firsts seconds) :
    maskSensitiveMapping lower str firsts = maskSensitiveMapping lower str seconds ↔
      keptLists lower firsts = keptLists lower seconds ∧
        List.Forall₂ (fun value other => ShownAlike (str value) (str other))
          (printedContainers lower firsts) (printedContainers lower seconds) := by
  match firsts, seconds, same with
  | [], [], _ => exact iff_of_true rfl ⟨rfl, .nil⟩
  | (key, first) :: firsts, (_, second) :: seconds, ⟨rfl, here, later⟩ =>
    have rest := maskEntries_eq_iff firsts seconds later
    rw [maskSensitiveMapping_cons, maskSensitiveMapping_cons, List.cons.injEq, Prod.mk.injEq, rest]
    simp only [keptLists, printedContainers, Tree.gatherEntries]
    cases sensitive : isSensitiveKey lower key with
    | true =>
      rw [sensitive, Bool.or_true] at here
      have printed := containerPrinted_length true first second here
      simp only [if_true, forall₂_append_iff printed, listKept_true, List.nil_append,
        Tree.leaf.injEq, Scalar.text.injEq, maskSecret_eq_iff str here, true_and]
      exact and_left_comm
    | false =>
      rw [sensitive, Bool.or_false] at here
      have kept := Tree.gather_length listKept_length first second here
      have printed := Tree.gather_length containerPrinted_length first second here
      simp only [Bool.false_eq_true, if_false, forall₂_append_iff printed,
        List.append_eq_append_iff_of_size_eq_left kept, maskPlain_eq_iff first second here,
        true_and]
      exact and_and_and_comm

end

end Flow

/-- Two mappings which differ only in the middle of their secrets are masked alike exactly
when the lists which the masking keeps agree, and the containers which it prints look alike. -/
theorem masked_alike_iff {α : Type} (lower : String → String) (str : LogValue α → String)
    (first second : LogMapping α) (same : DifferInSecrets lower first second) :
    maskSensitiveMapping lower str first = maskSensitiveMapping lower str second ↔
      keptLists lower first = keptLists lower second ∧
        List.Forall₂ (fun value other => ShownAlike (str value) (str other))
          (printedContainers lower first) (printedContainers lower second) :=
  maskEntries_eq_iff str first second same

/-- `str.lower` of an ASCII text. -/
def lowerAscii (text : String) : String := String.ofList (text.toList.map Char.toLower)

theorem masked_alike_iff_nested :
    maskSensitiveMapping lowerAscii (fun _ : LogValue Empty => "{}")
        [("nested", .mapping [("Zerodha_Access_Token", .leaf (.text "abXXyz"))])] =
      maskSensitiveMapping lowerAscii (fun _ => "{}")
        [("nested", .mapping [("Zerodha_Access_Token", .leaf (.text "abYYyz"))])] := by
  have nested : isSensitiveKey lowerAscii "nested" = false := by decide +kernel
  have token : isSensitiveKey lowerAscii "Zerodha_Access_Token" = true := by decide +kernel
  refine (masked_alike_iff _ _ _ _ ?_).mpr ⟨?_, ?_⟩
  · refine ⟨rfl, ⟨rfl, ?_, trivial⟩, trivial⟩
    rw [token, Bool.or_true]
    exact .inr (by decide +kernel)
  · simp [keptLists, Tree.gatherEntries, Tree.gather, nested, token, listKept]
  · simp [printedContainers, Tree.gatherEntries, Tree.gather, nested, token, containerPrinted]

/-- The secret of an account in a list stays as it is. -/
theorem secret_in_list_shows : ¬∀ (lower : String → String) (str : LogValue Empty → String)
    (first second : LogMapping Empty), DifferInSecrets lower first second →
      maskSensitiveMapping lower str first = maskSensitiveMapping lower str second := by
  intro masked
  have accounts : isSensitiveKey lowerAscii "accounts" = false := by decide +kernel
  have apiKey : isSensitiveKey lowerAscii "api_key" = true := by decide +kernel
  have equal := masked lowerAscii (fun _ => "[]")
    [("accounts", .list [.mapping [("api_key", .leaf (.text "abXXyz"))]])]
    [("accounts", .list [.mapping [("api_key", .leaf (.text "abYYyz"))]])] (by
      refine ⟨rfl, ⟨⟨rfl, ?_, trivial⟩, trivial⟩, trivial⟩
      rw [apiKey, Bool.or_true]
      exact .inr (by decide +kernel))
  simp [maskSensitiveMapping, accounts] at equal

end AlphaAgent
