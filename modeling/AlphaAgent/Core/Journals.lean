import AlphaAgent.Core.CivilDays
import AlphaAgent.Core.JsonCodec
import AlphaAgent.Foundation.Lines
import AlphaAgent.Risk.MarketCalendar

/-!
# Journals of JSON lines

`TradeJournal`, `AgentDecisionJournal` and `HumanApprovalQueue` append one line of JSON for
each record to a file, and read a file back line by line. They share a directory or have
their own; the days and the kinds of records are kept apart by the names of the files.
-/

namespace AlphaAgent.Journals

open Foundation JsonText Lines Risk

/-- The texts of the files, by their directory and name. -/
abbrev Files := Dict (String × String) (List Char)

/-- A date of the calendar. -/
abbrev Date := {day : Day // firstDay ≤ day ∧ day ≤ lastDay}

variable (numbers : NumberText)

/-- `handle.write(json.dumps(...) + "\n")`, behind what the file has. -/
def appendLine (path : String × String) (value : Json) (files : Files) : Files :=
  files.set path ((files.get? path).getD [] ++ (encode numbers value ++ ['\n']))

/-- The rows of the lines which are not blank; none where one of them cannot be read. -/
def readLines (lines : List (List Char)) : Option (List Json) :=
  (lines.filter fun line => strip line ≠ []).mapM (loads numbers)

namespace TradeJournal

variable (root : String) (day : Date)

/-- `_path`. -/
def path : String × String := (root, "journal-" ++ day.1.isoformat ++ ".jsonl")

/-- `append`, of an entry with the date of its timestamp. -/
def append (entry : Json) (files : Files) : Files :=
  appendLine numbers (path root day) (sortKeys entry) files

def readDay (files : Files) : Option (List Json) :=
  match files.get? (path root day) with
  | none => some []
  | some text => readLines numbers (splitlines (universalNewlines text))

def readMany (days : List Date) (files : Files) : Option (List Json) :=
  (days.mapM fun day => readDay numbers root day files).map List.flatten

end TradeJournal

namespace AgentDecisionJournal

variable (root : String) (day : Date)

def path : String × String := (root, "agent-decisions-" ++ day.1.isoformat ++ ".jsonl")

/-- `append`, on the date which the clock reads. -/
def append (record : Json) (files : Files) : Files :=
  appendLine numbers (path root day) record files

def readDay (files : Files) : Option (List Json) :=
  match files.get? (path root day) with
  | none => some []
  | some text => readLines numbers (fileLines (universalNewlines text))

end AgentDecisionJournal

namespace HumanApprovalQueue

variable (root : String)

def path : String × String := (root, "human-approval-queue.jsonl")

def enqueue (record : Json) (files : Files) : Files := appendLine numbers (path root) record files

def readAll (files : Files) : Option (List Json) :=
  match files.get? (path root) with
  | none => some []
  | some text => readLines numbers (splitlines (universalNewlines text))

end HumanApprovalQueue

/-- What `json.dumps` accepts. -/
abbrev Record := {value : Json // Writable numbers value}

/-- One call of one of the journals which writes. -/
inductive JournalCall where
  | trade (root : String) (day : Date) (entry : Record numbers)
  | decision (root : String) (day : Date) (record : Record numbers)
  | approval (root : String) (record : Record numbers)

namespace JournalCall

variable {numbers}

def run (files : Files) : JournalCall numbers → Files
  | trade root day entry => TradeJournal.append numbers root day entry.1 files
  | decision root day record => AgentDecisionJournal.append numbers root day record.1 files
  | approval root record => HumanApprovalQueue.enqueue numbers root record.1 files

def path : JournalCall numbers → String × String
  | trade root day _ => TradeJournal.path root day
  | decision root day _ => AgentDecisionJournal.path root day
  | approval root _ => HumanApprovalQueue.path root

/-- The value which is written. -/
def written : JournalCall numbers → Record numbers
  | trade _ _ entry => ⟨sortKeys entry.1, writable_sortKeys entry.2⟩
  | decision _ _ record => record
  | approval _ record => record

@[simp] theorem path_trade (root : String) (day : Date) (entry : Record numbers) :
    (trade root day entry).path = TradeJournal.path root day := rfl

@[simp] theorem path_decision (root : String) (day : Date) (record : Record numbers) :
    (decision root day record).path = AgentDecisionJournal.path root day := rfl

@[simp] theorem path_approval (root : String) (record : Record numbers) :
    (approval root record).path = HumanApprovalQueue.path root := rfl

@[simp] theorem written_trade (root : String) (day : Date) (entry : Record numbers) :
    (trade root day entry).written.1 = sortKeys entry.1 := rfl

@[simp] theorem written_decision (root : String) (day : Date) (record : Record numbers) :
    (decision root day record).written = record := rfl

@[simp] theorem written_approval (root : String) (record : Record numbers) :
    (approval root record).written = record := rfl

end JournalCall

section Texts

variable {numbers}

theorem unbroken_of_printable {text : List Char} (printable : Printable text) : Unbroken text := by
  intro char member
  have bounds := printable char member
  simp only [isPrintable, Bool.and_eq_true, decide_eq_true_eq] at bounds
  simp only [isBreak, decide_eq_false_iff_not, List.mem_cons, List.not_mem_nil, or_false]
  omega

theorem strip_ne_nil {char : Char} (visible : isSpace char = false) (rest : List Char) :
    strip (char :: rest) ≠ [] := by
  intro empty
  have none := List.reverse_eq_nil_iff.mp empty
  rw [List.dropWhile_cons_of_neg (by simp [visible]), List.dropWhile_eq_nil_iff] at none
  have space := none char (by simp)
  rw [visible] at space
  cases space

/-- A line which was written is not blank. -/
theorem strip_encode_ne_nil (record : Record numbers) (blanks : List Char) :
    strip (encode numbers record.1 ++ blanks) ≠ [] := by
  obtain ⟨char, rest, same, visible, -⟩ := startsValue_encode record.2
  have bounds := printable_encode record.2 char (by rw [same]; exact List.mem_cons_self)
  have noBlank : char.toNat ≠ 32 := by
    intro isBlank
    rw [← Char.ofNat_toNat char, isBlank] at visible
    cases visible
  rw [same]
  refine strip_ne_nil ?_ _
  simp only [isPrintable, Bool.and_eq_true, decide_eq_true_eq] at bounds
  simp only [isSpace, Bool.or_eq_false_iff, Bool.and_eq_false_iff, decide_eq_false_iff_not]
  omega

/-- The records which were written are read, whether the lines keep their ends or not. -/
theorem readLines_encode (records : List (Record numbers)) {blanks : List Char}
    (blank : blanks.all isBlank = true) :
    readLines numbers (records.map fun record => encode numbers record.1 ++ blanks) =
      some (records.map (·.1)) := by
  have visible : (records.map fun record => encode numbers record.1 ++ blanks).filter
      (fun line => strip line ≠ []) =
        records.map fun record => encode numbers record.1 ++ blanks := by
    refine List.filter_eq_self.mpr fun line member => ?_
    obtain ⟨record, -, rfl⟩ := List.mem_map.mp member
    exact decide_eq_true (strip_encode_ne_nil record blanks)
  rw [readLines, visible]
  induction records with
  | nil => rfl
  | cons record rest ih =>
    rw [List.map_cons, List.mapM_cons, loads_encode record.2 blank, ih]
    · rfl
    · refine List.filter_eq_self.mpr fun line member => ?_
      obtain ⟨record, -, rfl⟩ := List.mem_map.mp member
      exact decide_eq_true (strip_encode_ne_nil record blanks)

end Texts

section Paths

/-- Names which differ in the date alone are names of one date. -/
theorem date_of_name {kind : String} {first second : Date}
    (same : kind ++ first.1.isoformat ++ ".jsonl" = kind ++ second.1.isoformat ++ ".jsonl") :
    first = second := by
  have texts := congrArg String.toList same
  simp only [String.toList_append, List.append_assoc] at texts
  have iso := List.append_cancel_right (List.append_cancel_left texts)
  exact Subtype.ext (Day.isoformat_injective first.2.1 first.2.2 second.2.1 second.2.2
    (String.toList_inj.mp iso))

theorem tradePath_eq_iff {root other : String} {first second : Date} :
    TradeJournal.path root first = TradeJournal.path other second ↔
      root = other ∧ first = second := by
  rw [TradeJournal.path, TradeJournal.path, Prod.mk.injEq]
  exact and_congr_right fun _ => ⟨date_of_name, fun same => same ▸ rfl⟩

theorem decisionPath_eq_iff {root other : String} {first second : Date} :
    AgentDecisionJournal.path root first = AgentDecisionJournal.path other second ↔
      root = other ∧ first = second := by
  rw [AgentDecisionJournal.path, AgentDecisionJournal.path, Prod.mk.injEq]
  exact and_congr_right fun _ => ⟨date_of_name, fun same => same ▸ rfl⟩

/-- The first character of a name tells the kind of its journal. -/
def initial (path : String × String) : Option Char := path.2.toList.head?

theorem initial_trade (root : String) (day : Date) :
    initial (TradeJournal.path root day) = some 'j' := by
  simp [initial, TradeJournal.path]

theorem initial_decision (root : String) (day : Date) :
    initial (AgentDecisionJournal.path root day) = some 'a' := by
  simp [initial, AgentDecisionJournal.path]

theorem initial_approval (root : String) :
    initial (HumanApprovalQueue.path root) = some 'h' := by
  simp [initial, HumanApprovalQueue.path]

/-- Journals of different kinds write different files. -/
theorem path_ne {first second : String × String} {char other : Char}
    (begins : initial first = some char) (others : initial second = some other)
    (differ : char ≠ other) : first ≠ second := by
  rintro rfl
  rw [begins] at others
  exact differ (Option.some.inj others)

end Paths

section Runs

variable {numbers}

/-- What the calls make of a file: the lines of its own records, in their order. -/
theorem get?_run (calls : List (JournalCall numbers)) (path : String × String) :
    (calls.foldl JournalCall.run Dict.empty).get? path =
      if calls.filter (·.path = path) = [] then none
      else some (joined ((calls.filter (·.path = path)).map fun call =>
        encode numbers call.written.1)) := by
  have collected : calls.foldl JournalCall.run Dict.empty = Dict.collect JournalCall.path
      (fun text call => text.getD [] ++ (encode numbers call.written.1 ++ ['\n'])) calls := by
    unfold Dict.collect
    congr 1
    funext files call
    cases call <;> rfl
  have grouped : ∀ own : List (JournalCall numbers),
      own.foldl (fun text call => text ++ (encode numbers call.written.1 ++ ['\n'])) [] =
        joined (own.map fun call => encode numbers call.written.1) := by
    intro own
    induction own using List.reverseRecOn with
    | nil => rfl
    | append_singleton before call ih => simp [ih, joined]
  rw [collected, Dict.get?_collect, ← grouped]
  exact @Dict.foldl_getD (JournalCall numbers) (List Char) (fun _ => [])
    (fun text call => text ++ (encode numbers call.written.1 ++ ['\n'])) [] _ fun _ _ => rfl

/-- The trade entries of a day. -/
def tradeEntries (root : String) (day : Date) (calls : List (JournalCall numbers)) : List Json :=
  calls.filterMap fun
    | .trade other date entry => if other = root ∧ date = day then some entry.1 else none
    | _ => none

/-- The decisions which agents took on a day. -/
def decisionRecords (root : String) (day : Date) (calls : List (JournalCall numbers)) : List Json :=
  calls.filterMap fun
    | .decision other date record => if other = root ∧ date = day then some record.1 else none
    | _ => none

/-- The records which were queued for approval. -/
def approvalRecords (root : String) (calls : List (JournalCall numbers)) : List Json :=
  calls.filterMap fun
    | .approval other record => if other = root then some record.1 else none
    | _ => none

/-- The records of a file, where a choice from the calls takes those of its path. -/
theorem written_eq {path : String × String} {own : JournalCall numbers → Option Json}
    (takes : ∀ call, own call = if call.path = path then some call.written.1 else none)
    (calls : List (JournalCall numbers)) :
    (calls.filter (·.path = path)).map (·.written.1) = calls.filterMap own := by
  induction calls with
  | nil => rfl
  | cons call rest ih =>
    rw [List.filter_cons, List.filterMap_cons, takes, ← ih]
    by_cases same : call.path = path <;> simp [same]

theorem written_tradeEntries (root : String) (day : Date) (calls : List (JournalCall numbers)) :
    (calls.filter (·.path = TradeJournal.path root day)).map (·.written.1) =
      (tradeEntries root day calls).map sortKeys := by
  rw [tradeEntries, List.map_filterMap]
  refine written_eq (fun call => ?_) calls
  cases call with
  | trade other date entry =>
    by_cases own : other = root ∧ date = day <;> simp [tradePath_eq_iff, own]
  | decision other date record =>
    simp [path_ne (initial_decision other date) (initial_trade root day) (by decide)]
  | approval other record =>
    simp [path_ne (initial_approval other) (initial_trade root day) (by decide)]

theorem written_decisionRecords (root : String) (day : Date) (calls : List (JournalCall numbers)) :
    (calls.filter (·.path = AgentDecisionJournal.path root day)).map (·.written.1) =
      decisionRecords root day calls := by
  refine written_eq (fun call => ?_) calls
  cases call with
  | trade other date entry =>
    simp [path_ne (initial_trade other date) (initial_decision root day) (by decide)]
  | decision other date record =>
    by_cases own : other = root ∧ date = day <;> simp [decisionPath_eq_iff, own]
  | approval other record =>
    simp [path_ne (initial_approval other) (initial_decision root day) (by decide)]

theorem written_approvalRecords (root : String) (calls : List (JournalCall numbers)) :
    (calls.filter (·.path = HumanApprovalQueue.path root)).map (·.written.1) =
      approvalRecords root calls := by
  refine written_eq (fun call => ?_) calls
  cases call with
  | trade other date entry =>
    simp [path_ne (initial_trade other date) (initial_approval root) (by decide)]
  | decision other date record =>
    simp [path_ne (initial_decision other date) (initial_approval root) (by decide)]
  | approval other record =>
    by_cases own : other = root <;> simp [HumanApprovalQueue.path, own]

/-- A file of written lines is read as their records, by either way to take it apart. -/
theorem readLines_joined (records : List (Record numbers)) :
    readLines numbers (splitlines (universalNewlines
        (joined (records.map fun record => encode numbers record.1)))) = some (records.map (·.1)) ∧
      readLines numbers (fileLines (universalNewlines
        (joined (records.map fun record => encode numbers record.1)))) =
          some (records.map (·.1)) := by
  have unbroken : ∀ line ∈ records.map fun record => encode numbers record.1, Unbroken line := by
    intro line member
    obtain ⟨record, -, rfl⟩ := List.mem_map.mp member
    exact unbroken_of_printable (printable_encode record.2)
  rw [universalNewlines_joined unbroken, splitlines_joined unbroken, fileLines_joined unbroken,
    List.map_map]
  have plain := @readLines_encode numbers records [] rfl
  have ended := @readLines_encode numbers records ['\n'] rfl
  simp only [List.append_nil] at plain
  exact ⟨plain, ended⟩

/-- A file is read as the records which were written to it. -/
theorem readFile (calls : List (JournalCall numbers)) (path : String × String) :
    let rows := (calls.filter (·.path = path)).map (·.written.1)
    let text := (calls.foldl JournalCall.run Dict.empty).get? path
    (match text with
      | none => some []
      | some text => readLines numbers (splitlines (universalNewlines text))) = some rows ∧
    (match text with
      | none => some []
      | some text => readLines numbers (fileLines (universalNewlines text))) = some rows := by
  dsimp only
  rw [get?_run]
  split_ifs with none
  · simp [none]
  · have read := readLines_joined ((calls.filter (·.path = path)).map (·.written))
    simpa only [List.map_map, Function.comp_def] using read

/-- Whatever journals write, in whatever order, each day and each queue has all of its own
records in their order, and no others. -/
theorem journals_lossless (numbers : NumberText) (calls : List (JournalCall numbers)) :
    let files := calls.foldl JournalCall.run Dict.empty
    (∀ root day, TradeJournal.readDay numbers root day files =
        some ((tradeEntries root day calls).map sortKeys)) ∧
      (∀ root days, TradeJournal.readMany numbers root days files =
        some (days.flatMap fun day => (tradeEntries root day calls).map sortKeys)) ∧
      (∀ root day, AgentDecisionJournal.readDay numbers root day files =
        some (decisionRecords root day calls)) ∧
      ∀ root, HumanApprovalQueue.readAll numbers root files =
        some (approvalRecords root calls) := by
  have ofDay : ∀ root day, TradeJournal.readDay numbers root day
      (calls.foldl JournalCall.run Dict.empty) =
        some ((tradeEntries root day calls).map sortKeys) := fun root day =>
    (readFile calls (TradeJournal.path root day)).1.trans
      (congrArg some (written_tradeEntries root day calls))
  refine ⟨ofDay, fun root days => ?_, fun root day => ?_, fun root => ?_⟩
  · have read : days.mapM (fun day => TradeJournal.readDay numbers root day
        (calls.foldl JournalCall.run Dict.empty)) =
          some (days.map fun day => (tradeEntries root day calls).map sortKeys) := by
      induction days with
      | nil => rfl
      | cons day days ih => rw [List.mapM_cons, ofDay, ih]; rfl
    rw [TradeJournal.readMany, read, Option.map_some, List.flatMap_def]
  · exact (readFile calls (AgentDecisionJournal.path root day)).2.trans
      (congrArg some (written_decisionRecords root day calls))
  · exact (readFile calls (HumanApprovalQueue.path root)).1.trans
      (congrArg some (written_approvalRecords root calls))

end Runs
end AlphaAgent.Journals
