import Mathlib.Data.List.Basic
import Mathlib.Tactic.Common

/-!
# Lines of text

How Python takes a text apart into lines: `str.splitlines()`, a loop over an open file,
and the translation of line ends when a file is opened as text. Lines without breaks,
each with a line feed behind it, come apart as they were put together.
-/

namespace AlphaAgent.Foundation.Lines

/-- The characters at which `str.splitlines()` breaks. -/
def isBreak (char : Char) : Bool :=
  char.toNat ∈ [0x0a, 0x0b, 0x0c, 0x0d, 0x1c, 0x1d, 0x1e, 0x85, 0x2028, 0x2029]

/-- `str.splitlines()`, with the line which has begun. A return and a line feed are one break. -/
def splitlinesFrom (line : List Char) : List Char → List (List Char)
  | [] => if line = [] then [] else [line]
  | '\r' :: '\n' :: rest => line :: splitlinesFrom [] rest
  | char :: rest =>
    if isBreak char then line :: splitlinesFrom [] rest else splitlinesFrom (line ++ [char]) rest

/-- `text.splitlines()`. -/
def splitlines (text : List Char) : List (List Char) := splitlinesFrom [] text

/-- What a file opened as text reads for the characters of the file. -/
def universalNewlines : List Char → List Char
  | [] => []
  | '\r' :: '\n' :: rest => '\n' :: universalNewlines rest
  | char :: rest => (if char = '\r' then '\n' else char) :: universalNewlines rest

/-- The loop over an open file, with the line which has begun. A line keeps its line feed. -/
def fileLinesFrom (line : List Char) : List Char → List (List Char)
  | [] => if line = [] then [] else [line]
  | char :: rest =>
    if char = '\n' then (line ++ [char]) :: fileLinesFrom [] rest
    else fileLinesFrom (line ++ [char]) rest

/-- `for line in handle`. -/
def fileLines (text : List Char) : List (List Char) := fileLinesFrom [] text

/-- Lines with a line feed behind each. -/
def joined (lines : List (List Char)) : List Char := lines.flatMap (· ++ ['\n'])

/-- A line which has no break. -/
def Unbroken (line : List Char) : Prop := ∀ char ∈ line, isBreak char = false

variable {line : List Char}

theorem Unbroken.head {char : Char} {rest : List Char} (unbroken : Unbroken (char :: rest)) :
    isBreak char = false ∧ char ≠ '\r' ∧ char ≠ '\n' ∧ Unbroken rest := by
  have first := unbroken char List.mem_cons_self
  refine ⟨first, ?_, ?_, fun other member => unbroken other (List.mem_cons_of_mem _ member)⟩
  · rintro rfl
    revert first
    decide
  · rintro rfl
    revert first
    decide

theorem splitlinesFrom_unbroken (unbroken : Unbroken line) (begun rest : List Char) :
    splitlinesFrom begun (line ++ '\n' :: rest) = (begun ++ line) :: splitlinesFrom [] rest := by
  induction line generalizing begun with
  | nil => simp [splitlinesFrom, isBreak]
  | cons char later ih =>
    obtain ⟨goesOn, noReturn, -, unbroken⟩ := unbroken.head
    rw [List.cons_append, splitlinesFrom]
    · rw [goesOn, if_neg Bool.false_ne_true, ih unbroken, List.append_assoc, List.singleton_append]
    · exact fun _ same => absurd same noReturn

theorem universalNewlines_unbroken (unbroken : Unbroken line) (rest : List Char) :
    universalNewlines (line ++ '\n' :: rest) = line ++ '\n' :: universalNewlines rest := by
  induction line with
  | nil => rfl
  | cons char later ih =>
    obtain ⟨-, noReturn, -, unbroken⟩ := unbroken.head
    rw [List.cons_append, universalNewlines]
    · rw [if_neg noReturn, ih unbroken, List.cons_append]
    · exact fun _ same => absurd same noReturn

theorem fileLinesFrom_unbroken (unbroken : Unbroken line) (begun rest : List Char) :
    fileLinesFrom begun (line ++ '\n' :: rest) =
      (begun ++ line ++ ['\n']) :: fileLinesFrom [] rest := by
  induction line generalizing begun with
  | nil => simp [fileLinesFrom]
  | cons char later ih =>
    obtain ⟨-, -, noFeed, unbroken⟩ := unbroken.head
    rw [List.cons_append, fileLinesFrom, if_neg noFeed, ih unbroken, List.append_assoc begun,
      List.singleton_append]

section Joined

variable {lines : List (List Char)} (unbroken : ∀ line ∈ lines, Unbroken line)
include unbroken

theorem splitlines_joined : splitlines (joined lines) = lines := by
  unfold splitlines joined
  induction lines with
  | nil => rfl
  | cons first rest ih =>
    obtain ⟨here, later⟩ := List.forall_mem_cons.mp unbroken
    rw [List.flatMap_cons, List.append_assoc, List.singleton_append, splitlinesFrom_unbroken here,
      ih later, List.nil_append]

theorem universalNewlines_joined : universalNewlines (joined lines) = joined lines := by
  unfold joined
  induction lines with
  | nil => rfl
  | cons first rest ih =>
    obtain ⟨here, later⟩ := List.forall_mem_cons.mp unbroken
    rw [List.flatMap_cons, List.append_assoc, List.singleton_append,
      universalNewlines_unbroken here, ih later]

theorem fileLines_joined : fileLines (joined lines) = lines.map (· ++ ['\n']) := by
  unfold fileLines joined
  induction lines with
  | nil => rfl
  | cons first rest ih =>
    obtain ⟨here, later⟩ := List.forall_mem_cons.mp unbroken
    rw [List.flatMap_cons, List.append_assoc, List.singleton_append, fileLinesFrom_unbroken here,
      ih later, List.nil_append, List.map_cons]

end Joined
end AlphaAgent.Foundation.Lines
