import AlphaAgent.Risk.RiskEngine

/-!
# The risk engine fails closed

A missing or stale input is a reason to reject and never an exception, as long
as the FX status can be computed with. `evaluate_returns_iff` says exactly when
it can: the engine goes on to size a trade for which it has just found that the
USD/INR rate is missing, and it subtracts timestamps without looking at their
zone. Where it returns, an FX reason rejects every trade and is listed. Amounts are
exact, so this is about those of which no quotient overflows a float.
-/

namespace AlphaAgent.Risk

/-- The candidate asks for no trade; `evaluate` answers before any check. -/
abbrev EvaluateInput.RequestsNoTrade (input : EvaluateInput) : Prop :=
  input.candidate.action = .hold ∨ input.candidate.action = .noTrade

/-- The FX status of a US trade can be computed with: it is absent, or its age
is computable and a trade with a stop has a rate. -/
structure EvaluateInput.FxComputable (input : EvaluateInput) : Prop where
  age : input.candidate.market = .us → ∀ status, input.fxStatus = some status →
    status.AgeComputable
  rate : input.candidate.market = .us → ∀ status, input.fxStatus = some status →
    input.candidate.stopLoss ≠ none → status.rate ≠ none

section Returns

variable {market : Market} {fxStatus : Option FXRateStatus} {utcNow : ℤ}

/-- The FX check raises only where the age of a US rate cannot be computed. -/
theorem fxRejectionReason_returns_iff :
    (∃ fxReason, fxRejectionReason market fxStatus utcNow = .ok fxReason) ↔
      (market = .us → ∀ status, fxStatus = some status → status.AgeComputable) := by
  unfold fxRejectionReason
  by_cases foreign : market = .us
  · rw [if_neg (not_not.mpr foreign)]
    cases fxStatus with
    | none => simp
    | some status =>
      by_cases missing : status.freshnessStatus = .missing ∨ status.rate = none
      · have computable : status.AgeComputable := by
          intro fresh present
          rw [fresh] at missing
          exact absurd missing (by simp [present])
        simp [missing, computable]
      · have age := status.isFresh_returns_iff utcNow
        cases fresh : status.isFresh utcNow with
        | error raised =>
          have unknown : ¬status.AgeComputable := by
            rw [← age, fresh]
            simp
          simp [missing, foreign, unknown, fresh, bind, Except.bind]
        | ok isFresh =>
          have computable : status.AgeComputable := age.mp ⟨isFresh, fresh⟩
          cases isFresh <;> simp [missing, computable, fresh, bind, Except.bind, pure, Except.pure]
  · rw [if_pos foreign]
    simp [foreign]

/-- Sizing raises only where a price in USD is multiplied by a missing rate. -/
theorem size_returns_iff {candidate : TradeCandidate} {portfolio : PortfolioSnapshot}
    {config : RiskConfig} :
    (∃ sizing, size candidate portfolio config fxStatus = .ok sizing) ↔
      (candidate.market = .us → ∀ status, fxStatus = some status →
        candidate.stopLoss ≠ none → status.rate ≠ none) := by
  unfold size fxRateUsed
  cases stop : candidate.stopLoss with
  | none => simp
  | some stopLoss =>
    cases market : candidate.market with
    | india => simp [bind, Except.bind, pure, Except.pure]
    | us =>
      cases fxStatus with
      | none => simp [bind, Except.bind, pure, Except.pure]
      | some status =>
        cases rate : status.rate <;> simp [rate, bind, Except.bind, pure, Except.pure]

end Returns

section Evaluate

variable {settings : Settings} {utcNow : ℤ} {id : String} {input : EvaluateInput}

/-- A request for no trade is answered at once. -/
theorem evaluate_of_noTrade (id : String) (noTrade : input.RequestsNoTrade) :
    ∃ decision, evaluate settings utcNow id input = .ok decision ∧
      decision.decision = .noTrade ∧ decision.approvedQuantity = 0 := by
  rw [evaluate, if_pos noTrade]
  exact ⟨_, rfl, rfl, rfl⟩

/-- A trade is concluded from the FX check and the sizing, when both return. -/
theorem evaluate_of_trade (trade : ¬input.RequestsNoTrade) {decision : RiskDecision} :
    evaluate settings utcNow id input = .ok decision ↔
      ∃ fxReason sizing,
        fxRejectionReason input.candidate.market input.fxStatus utcNow = .ok fxReason ∧
          size input.candidate input.portfolio (input.config settings) input.fxStatus =
            .ok sizing ∧
          conclude settings id input fxReason sizing = decision := by
  rw [evaluate, if_neg trade]
  cases fxRejectionReason input.candidate.market input.fxStatus utcNow with
  | error raised => simp [bind, Except.bind]
  | ok fxReason =>
    cases size input.candidate input.portfolio (input.config settings) input.fxStatus with
    | error raised => simp [bind, Except.bind]
    | ok sizing => simp [bind, Except.bind, pure, Except.pure]

/-- `evaluate` raises exactly on a trade whose FX status cannot be computed with. -/
theorem evaluate_returns_iff :
    (∃ decision, evaluate settings utcNow id input = .ok decision) ↔
      (¬input.RequestsNoTrade → input.FxComputable) := by
  by_cases noTrade : input.RequestsNoTrade
  · obtain ⟨decision, returned, -⟩ := evaluate_of_noTrade id noTrade
    exact ⟨fun _ trade => absurd noTrade trade, fun _ => ⟨decision, returned⟩⟩
  · simp only [evaluate_of_trade noTrade]
    constructor
    · rintro ⟨decision, fxReason, sizing, checked, sized, -⟩ -
      exact ⟨fxRejectionReason_returns_iff.mp ⟨fxReason, checked⟩,
        size_returns_iff.mp ⟨sizing, sized⟩⟩
    · intro computable
      obtain ⟨age, rate⟩ := computable noTrade
      obtain ⟨fxReason, checked⟩ := fxRejectionReason_returns_iff.mpr age
      obtain ⟨sizing, sized⟩ := size_returns_iff.mpr rate
      exact ⟨_, fxReason, sizing, checked, sized, rfl⟩

/-- `relianceBuy` for the US market, with no FX status. -/
def usBuy : EvaluateInput :=
  { relianceBuy with candidate := { relianceBuy.candidate with market := .us, symbol := "AAPL" } }

-- The missing rate is a reason to reject, and then a factor of the entry price.
example : evaluate liveSettings 0 "risk-1" { usBuy with fxStatus := some {} } =
    .error (.typeError "unsupported operand type(s) for *: 'float' and 'NoneType'") := rfl

/-- An FX reason rejects, whatever the sizing says. -/
theorem conclude_of_fxReason {reason : String} {sizing : Sizing} :
    (conclude settings id input (some reason) sizing).decision = .rejected ∧
      reason ∈ (conclude settings id input (some reason) sizing).rejectionReasons := by
  have listed : reason ∈ (rejectionReasons settings input (some reason) sizing).eraseDups := by
    rw [List.mem_eraseDups]
    simp [rejectionReasons, guardReasons]
  have rejected : conclude settings id input (some reason) sizing = rejectedDecision settings id
      input (rejectionReasons settings input (some reason) sizing).eraseDups sizing := by
    simp only [conclude, ne_eq, List.ne_nil_of_mem listed, not_false_eq_true, if_true]
  simp only [rejected, rejectedDecision, listed, and_self]

end Evaluate

/-- Fail-closed evaluation: a decision for every input whose FX status can be
computed with, and an FX reason rejects every trade. A candidate which asks for
no trade gets none. -/
theorem evaluate_failClosed (settings : Settings) (utcNow : ℤ) (id : String)
    (input : EvaluateInput) (computable : ¬input.RequestsNoTrade → input.FxComputable) :
    ∃ decision, evaluate settings utcNow id input = .ok decision ∧
      (input.RequestsNoTrade → decision.decision = .noTrade ∧ decision.approvedQuantity = 0) ∧
      (¬input.RequestsNoTrade → ∀ reason,
        fxRejectionReason input.candidate.market input.fxStatus utcNow = .ok (some reason) →
          decision.decision = .rejected ∧ reason ∈ decision.rejectionReasons) := by
  by_cases noTrade : input.RequestsNoTrade
  · obtain ⟨decision, returned, answered⟩ := evaluate_of_noTrade id noTrade
    exact ⟨decision, returned, fun _ => answered, fun trade => absurd noTrade trade⟩
  · obtain ⟨decision, returned⟩ := evaluate_returns_iff.mpr computable
    refine ⟨decision, returned, fun requested => absurd requested noTrade, ?_⟩
    intro _ reason found
    obtain ⟨fxReason, sizing, checked, -, rfl⟩ := (evaluate_of_trade noTrade).mp returned
    obtain rfl : fxReason = some reason := Except.ok.inj (checked.symm.trans found)
    exact conclude_of_fxReason

/-- Without an FX status the buy is rejected as such. -/
theorem evaluate_failClosed_usBuy : ∃ decision,
    evaluate liveSettings 0 "risk-1" usBuy = .ok decision ∧
      (usBuy.RequestsNoTrade → decision.decision = .noTrade ∧ decision.approvedQuantity = 0) ∧
      (¬usBuy.RequestsNoTrade → ∀ reason,
        fxRejectionReason usBuy.candidate.market usBuy.fxStatus 0 = .ok (some reason) →
          decision.decision = .rejected ∧ reason ∈ decision.rejectionReasons) :=
  evaluate_failClosed liveSettings 0 "risk-1" usBuy fun _ =>
    ⟨fun _ _ absent => (nomatch absent), fun _ _ absent => (nomatch absent)⟩

/-- `usBuy` asking for no trade. -/
def usHold : EvaluateInput := { usBuy with candidate := { usBuy.candidate with action := .hold } }

/-- A candidate which holds has an FX reason and is not rejected. -/
theorem usHold_not_rejected :
    fxRejectionReason usHold.candidate.market usHold.fxStatus 0 =
        .ok (some "usd_inr_fx_missing") ∧
      ∃ decision, evaluate liveSettings 0 "risk-1" usHold = .ok decision ∧
        decision.decision = .noTrade ∧ decision.rejectionReasons = [] :=
  ⟨rfl, _, rfl, rfl, rfl⟩

end AlphaAgent.Risk
