import AlphaAgent.Agentic.Models
import AlphaAgent.Core.JsonCodec

/-!
# The texts of agent outputs

What `model_dump_json(by_alias=True)` writes of an output, and what its model reads of
such a text: the fields under their aliases, in their order. Numbers are given from
outside as they are for every JSON text.
-/

namespace AlphaAgent.Agentic

open JsonText

def AgentSeverity.value : AgentSeverity → String
  | low => "LOW"
  | medium => "MEDIUM"
  | high => "HIGH"

def AgentVerdict.value : AgentVerdict → String
  | approve => "APPROVE"
  | warn => "WARN"
  | reject => "REJECT"
  | insufficientData => "INSUFFICIENT_DATA"

/-- `AgentSeverity(text)`. -/
def readSeverity (text : String) : Option AgentSeverity :=
  [.low, .medium, .high].find? (·.value = text)

/-- `AgentVerdict(text)`. -/
def readVerdict (text : String) : Option AgentVerdict :=
  [.approve, .warn, .reject, .insufficientData].find? (·.value = text)

/-- `AgentRecommendation(text)`. -/
def readRecommendation (text : String) : Option AgentRecommendation :=
  [.allow, .reduceConfidence, .block, .waitForPullback, .reduceSize, .reviewOnly, .markMissed,
    .requireBacktest, .disableStrategyTemporarily, .increaseSlippageModel].find? (·.value = text)

theorem readSeverity_value (severity : AgentSeverity) :
    readSeverity severity.value = some severity := by
  cases severity <;> decide

theorem readVerdict_value (verdict : AgentVerdict) : readVerdict verdict.value = some verdict := by
  cases verdict <;> decide

theorem readRecommendation_value (recommendation : AgentRecommendation) :
    readRecommendation recommendation.value = some recommendation := by
  cases recommendation <;> decide

def textsJson (texts : List String) : Json := .list (texts.map .text)

def readTexts : Json → Option (List String)
  | .list items => items.mapM fun
    | .text value => some value
    | _ => none
  | _ => none

theorem readTexts_textsJson (texts : List String) : readTexts (textsJson texts) = some texts := by
  simp only [readTexts, textsJson]
  induction texts with
  | nil => rfl
  | cons text rest ih => simp [ih]

def proportionJson (proportion : Proportion) : Json := .number proportion.val

/-- A number which `Field(ge=0, le=1)` accepts. -/
def readProportion : Json → Option Proportion
  | .number value => if within : 0 ≤ value ∧ value ≤ 1 then some ⟨value, within⟩ else none
  | _ => none

theorem readProportion_proportionJson (proportion : Proportion) :
    readProportion (proportionJson proportion) = some proportion := dif_pos proportion.property

/-- The fields of an output in front of those of its kind. -/
def AgentBaseOutput.fields (output : AgentBaseOutput) (others : Mapping) : Mapping :=
  [("agentName", .text output.agentName), ("verdict", .text output.verdict.value),
    ("severity", .text output.severity.value), ("confidence", proportionJson output.confidence),
    ("reasonCodes", textsJson output.reasonCodes), ("explanation", .text output.explanation),
    ("recommendedAction", .text output.recommendedAction.value),
    ("auditTags", textsJson output.auditTags)] ++ others

/-- An output of its fields, and the fields of its kind. -/
def readOutput : Json → Option (AgentBaseOutput × Mapping)
  | .object (("agentName", .text agentName) :: ("verdict", .text verdict) ::
      ("severity", .text severity) :: ("confidence", confidence) ::
      ("reasonCodes", reasonCodes) :: ("explanation", .text explanation) ::
      ("recommendedAction", .text recommendedAction) :: ("auditTags", auditTags) :: others) => do
    let verdict ← readVerdict verdict
    let severity ← readSeverity severity
    let confidence ← readProportion confidence
    let reasonCodes ← readTexts reasonCodes
    let recommendedAction ← readRecommendation recommendedAction
    let auditTags ← readTexts auditTags
    return (⟨agentName, verdict, severity, confidence, reasonCodes, explanation, recommendedAction,
      auditTags⟩, others)
  | _ => none

theorem readOutput_fields (output : AgentBaseOutput) (others : Mapping) :
    readOutput (.object (output.fields others)) = some (output, others) := by
  simp [readOutput, AgentBaseOutput.fields, readVerdict_value, readSeverity_value,
    readProportion_proportionJson, readTexts_textsJson, readRecommendation_value]

/-- The text of an output with the fields of its kind. -/
def dumpOutput (numbers : NumberText) (output : AgentBaseOutput) (others : Mapping) : String :=
  String.ofList (encode numbers (.object (output.fields others)))

/-- What the model of an output reads of a text, given what it reads of the fields of its kind. -/
def validateOutput {Output : Type} (numbers : NumberText)
    (read : AgentBaseOutput → Mapping → Option Output) (text : String) : Except String Output :=
  match loads numbers text.toList with
  | none => .error "Invalid JSON"
  | some json =>
    match (readOutput json).bind fun (output, others) => read output others with
    | none => .error "Input should be a valid output"
    | some output => .ok output

theorem writableItems_texts (numbers : NumberText) (texts : List String) :
    WritableItems numbers (texts.map .text) := by
  induction texts with
  | nil => trivial
  | cons text rest ih => exact ⟨trivial, ih⟩

/-- What is dumped is read, where its fields can be written. -/
theorem validateOutput_dumpOutput {Output : Type} {numbers : NumberText}
    {read : AgentBaseOutput → Mapping → Option Output} {output : AgentBaseOutput} {others : Mapping}
    {whole : Output} (exact : numbers.Exact output.confidence.val)
    (distinct : ((output.fields others).map Prod.fst).Nodup)
    (writable : WritableFields numbers others) (reads : read output others = some whole) :
    validateOutput numbers read (dumpOutput numbers output others) = .ok whole := by
  have written : Writable numbers (.object (output.fields others)) :=
    ⟨distinct, trivial, trivial, trivial, exact, writableItems_texts numbers _, trivial, trivial,
      writableItems_texts numbers _, writable⟩
  have loaded : loads numbers (encode numbers (.object (output.fields others)) ++ []) =
      some (.object (output.fields others)) := loads_encode written rfl
  rw [List.append_nil] at loaded
  simp [validateOutput, dumpOutput, loaded, readOutput_fields, reads]

section Kinds

variable (numbers : NumberText)

/-- `SignalCriticOutput.model_dump_json`. -/
def dumpCritique (output : SignalCriticOutput) : String :=
  dumpOutput numbers output.toAgentBaseOutput
    [("riskMultiplierSuggestion", proportionJson output.riskMultiplierSuggestion)]

/-- `SignalCriticOutput.model_validate_json`. -/
def validateCritique : String → Except String SignalCriticOutput :=
  validateOutput numbers fun output others => match others with
    | [("riskMultiplierSuggestion", suggestion)] =>
      (readProportion suggestion).map (SignalCriticOutput.mk output)
    | _ => none

/-- `RiskAuditorOutput.model_dump_json`. -/
def dumpAudit (output : RiskAuditorOutput) : String :=
  dumpOutput numbers output.toAgentBaseOutput [("riskViolations", textsJson output.riskViolations)]

/-- `RiskAuditorOutput.model_validate_json`. -/
def validateAudit : String → Except String RiskAuditorOutput :=
  validateOutput numbers fun output others => match others with
    | [("riskViolations", violations)] => (readTexts violations).map (RiskAuditorOutput.mk output)
    | _ => none

/-- `ExecutionSimulationOutput.model_dump_json`. -/
def dumpExecution (output : AgentBaseOutput) : String := dumpOutput numbers output []

/-- `ExecutionSimulationOutput.model_validate_json`. -/
def validateExecution : String → Except String AgentBaseOutput :=
  validateOutput numbers fun output others => match others with
    | [] => some output
    | _ => none

variable {numbers}

theorem validateCritique_dumpCritique {output : SignalCriticOutput}
    (confidence : numbers.Exact output.confidence.val)
    (suggestion : numbers.Exact output.riskMultiplierSuggestion.val) :
    validateCritique numbers (dumpCritique numbers output) = .ok output :=
  validateOutput_dumpOutput confidence (by simp [AgentBaseOutput.fields]) ⟨suggestion, trivial⟩
    (by simp [readProportion_proportionJson])

theorem validateAudit_dumpAudit {output : RiskAuditorOutput}
    (confidence : numbers.Exact output.confidence.val) :
    validateAudit numbers (dumpAudit numbers output) = .ok output :=
  validateOutput_dumpOutput confidence (by simp [AgentBaseOutput.fields])
    ⟨writableItems_texts numbers _, trivial⟩ (by simp [readTexts_textsJson])

end Kinds

/-- Numbers of two decimal places. -/
def hundredths : NumberText where
  write value :=
    let units := (value * 100).floor.toNat
    (toString (units / 100)).toList ++
      ['.', Nat.digitChar (units / 10 % 10), Nat.digitChar (units % 10)]
  read text := (readFloat (String.ofList text)).getD 0

instance (numbers : NumberText) (value : ℚ) : Decidable (numbers.Exact value) :=
  inferInstanceAs (Decidable (_ ∧ _))

/-- The confidences and multipliers of the agents are written as they are. -/
theorem hundredths_exact : ∀ value ∈ [0, 1, 72 / 100, 82 / 100, 9 / 10],
    hundredths.Exact value := by
  decide +kernel

end AlphaAgent.Agentic
