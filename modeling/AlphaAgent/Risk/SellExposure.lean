import AlphaAgent.Risk.MaximalSizing

/-!
# Selling out of a full book

A SELL lowers every exposure, and the engine counts its order value as zero.
Its quantity is still capped by the room below the market's cap, and the
exposures already held are still compared with their caps, so a book at a cap
cannot be reduced. `sellIgnoresExposures_iff` compares two inputs which differ
in their exposures only: they get the same verdict exactly when their exposures
admit the same of the quantities which could be sold.
-/

namespace AlphaAgent.Risk

open Foundation

/-- The same input with other exposures of the portfolio. -/
def EvaluateInput.withExposures (input : EvaluateInput) (equity india us : NonNegative) :
    EvaluateInput :=
  { input with
    portfolio :=
      { input.portfolio with
        equityExposureInr := equity
        indiaExposureInr := india
        usExposureInr := us } }

/-- The verdict and the approved quantity of an evaluation, or what it raises. -/
def verdict (settings : Settings) (utcNow : ℤ) (id : String) (input : EvaluateInput) :
    Except RaisedError (RiskDecisionType × ℕ) :=
  (evaluate settings utcNow id input).map fun decision =>
    (decision.decision, decision.approvedQuantity)

/-- A SELL of a held position has the same verdict and quantity under other exposures. -/
def SellIgnoresExposures (settings : Settings) (utcNow : ℤ) (id : String) (input : EvaluateInput)
    (equity india us : NonNegative) : Prop :=
  input.candidate.action = .sell →
    0 < existingLongQuantity input.candidate input.portfolio.positions →
      verdict settings utcNow id (input.withExposures equity india us) =
        verdict settings utcNow id input

/-- The exposures of a book admit a SELL: the equity exposure is within its cap,
and the market has room for the order. -/
def ExposuresAdmit (candidate : TradeCandidate) (portfolio : PortfolioSnapshot)
    (config : RiskConfig) (fxRate : Positive) (quantity : ℕ) : Prop :=
  FitsMarket candidate portfolio config fxRate quantity ∧
    portfolio.equityExposureInr.val ≤ portfolio.totalValueInr * config.maxTotalEquityExposurePct

/-- The SELL is refused by another check, or every quantity which the caps on the
order allow is admitted by both exposures or by neither. -/
def ExposuresAdmitAlike (settings : Settings) (utcNow : ℤ) (input : EvaluateInput)
    (equity india us : NonNegative) : Prop :=
  input.candidate.action = .sell → ∀ stopLoss fxRate,
    OnlySizing settings utcNow input stopLoss fxRate →
      ∀ quantity ∈ Admitted (FitsOrder input.candidate input.portfolio (input.config settings)
        fxRate stopLoss),
        (ExposuresAdmit input.candidate (input.withExposures equity india us).portfolio
            (input.config settings) fxRate quantity ↔
          ExposuresAdmit input.candidate input.portfolio (input.config settings) fxRate quantity)

section Verdict

variable {settings : Settings} {utcNow : ℤ} {id : String} {input other : EvaluateInput}
  {stopLoss fxRate : Positive} {quantity : ℕ}

theorem approves_iff_verdict : Approves settings utcNow id input quantity ↔
    verdict settings utcNow id input = .ok (.approved, quantity) := by
  unfold Approves verdict
  cases evaluate settings utcNow id input with
  | error raised => simp [Except.map]
  | ok decision => simp [Except.map]

/-- A trade which is not approved is rejected with quantity zero, or raises. -/
theorem verdict_of_refused (trade : ¬input.RequestsNoTrade)
    (refused : ∀ quantity, ¬Approves settings utcNow id input quantity) :
    verdict settings utcNow id input = .ok (.rejected, 0) ∨
      ∃ raised, verdict settings utcNow id input = .error raised ∧
        evaluate settings utcNow id input = .error raised := by
  cases returned : evaluate settings utcNow id input with
  | error raised =>
    right
    exact ⟨raised, by rw [verdict, returned]; rfl, rfl⟩
  | ok decision =>
    left
    obtain ⟨fxReason, sizing, -, -, concluded⟩ := (evaluate_of_trade trade).mp returned
    rcases conclude_cases settings id input fxReason sizing with
      ⟨reasons, -, rejected⟩ | ⟨accepted, -⟩
    · rw [verdict, returned, ← concluded, rejected]
      rfl
    · exact absurd ⟨decision, returned, by rw [← concluded, accepted]; rfl, rfl⟩ (refused _)

/-- Two trades which raise alike have the same verdict and quantity exactly when
the same quantities are approved. -/
theorem verdict_eq_iff (trade : ¬input.RequestsNoTrade) (otherTrade : ¬other.RequestsNoTrade)
    (raises : ∀ raised, evaluate settings utcNow id input = .error raised ↔
      evaluate settings utcNow id other = .error raised) :
    verdict settings utcNow id other = verdict settings utcNow id input ↔
      ∀ quantity, Approves settings utcNow id other quantity ↔
        Approves settings utcNow id input quantity := by
  constructor
  · intro same quantity
    rw [approves_iff_verdict, approves_iff_verdict, same]
  · intro same
    by_cases approved : ∃ quantity, Approves settings utcNow id input quantity
    · obtain ⟨quantity, approves⟩ := approved
      rw [approves_iff_verdict.mp approves, approves_iff_verdict.mp ((same quantity).mpr approves)]
    · have refused := not_exists.mp approved
      have otherRefused : ∀ quantity, ¬Approves settings utcNow id other quantity :=
        fun quantity approves => refused quantity ((same quantity).mp approves)
      rcases verdict_of_refused trade refused with rejected | ⟨raised, failed, raising⟩
      · rcases verdict_of_refused otherTrade otherRefused with
          otherRejected | ⟨raised, -, raising⟩
        · rw [rejected, otherRejected]
        · rw [verdict, (raises raised).mpr raising] at rejected
          cases rejected
      · rw [failed, verdict, (raises raised).mp raising]
        rfl

/-- A SELL is approved for the largest quantity which fits all caps. -/
theorem OnlySizing.sell_approves_iff
    (onlySizing : OnlySizing settings utcNow input stopLoss fxRate)
    (sells : input.candidate.action = .sell) :
    Approves settings utcNow id input quantity ↔
      IsGreatest (Admitted fun quantity =>
        FitsOrder input.candidate input.portfolio (input.config settings) fxRate stopLoss quantity ∧
        ExposuresAdmit input.candidate input.portfolio (input.config settings) fxRate quantity)
        quantity := by
  have equity : ∀ quantity, FitsEquity input.candidate input.portfolio (input.config settings)
      fxRate quantity ↔ input.portfolio.equityExposureInr.val ≤
        input.portfolio.totalValueInr * (input.config settings).maxTotalEquityExposurePct := by
    intro quantity
    simp [FitsEquity, sells]
  rw [onlySizing.approves_iff, equity]
  constructor
  · rintro ⟨⟨⟨one, order, room⟩, most⟩, within⟩
    exact ⟨⟨one, order, room, within⟩, fun other member =>
      most ⟨member.1, member.2.1, member.2.2.1⟩⟩
  · rintro ⟨⟨one, order, room, within⟩, most⟩
    exact ⟨⟨⟨one, order, room⟩, fun other member =>
      most ⟨member.1, member.2.1, member.2.2, within⟩⟩, within⟩

end Verdict

section Exposures

variable {settings : Settings} {utcNow : ℤ} {id : String} {input : EvaluateInput}
  {stopLoss fxRate : Positive} {equity india us : NonNegative} {raised : RaisedError}

theorem size_eq_error {candidate : TradeCandidate} {portfolio : PortfolioSnapshot}
    {config : RiskConfig} {fxStatus : Option FXRateStatus} :
    size candidate portfolio config fxStatus = .error raised ↔
      candidate.stopLoss ≠ none ∧ fxRateUsed candidate fxStatus = .error raised := by
  unfold size
  cases candidate.stopLoss with
  | none => simp
  | some stopLoss =>
    cases fxRateUsed candidate fxStatus <;> simp [bind, Except.bind, pure, Except.pure]

/-- What an evaluation raises comes from the FX status alone. -/
theorem evaluate_eq_error : evaluate settings utcNow id input = .error raised ↔
    ¬input.RequestsNoTrade ∧
      (fxRejectionReason input.candidate.market input.fxStatus utcNow = .error raised ∨
        (∃ fxReason,
            fxRejectionReason input.candidate.market input.fxStatus utcNow = .ok fxReason) ∧
          input.candidate.stopLoss ≠ none ∧
          fxRateUsed input.candidate input.fxStatus = .error raised) := by
  have sized : size input.candidate input.portfolio (input.config settings) input.fxStatus =
      .error raised ↔ _ := size_eq_error
  rw [← sized, evaluate]
  by_cases noTrade : input.RequestsNoTrade
  · rw [if_pos noTrade]
    simp [noTrade]
  · rw [if_neg noTrade]
    cases fxRejectionReason input.candidate.market input.fxStatus utcNow with
    | error failed => simp [noTrade, bind, Except.bind]
    | ok fxReason =>
      cases size input.candidate input.portfolio (input.config settings) input.fxStatus with
      | error failed => simp [noTrade, bind, Except.bind]
      | ok sizing => simp [bind, Except.bind, pure, Except.pure]

/-- No check but sizing and exposure reads the exposures. -/
theorem onlySizing_withExposures :
    OnlySizing settings utcNow (input.withExposures equity india us) stopLoss fxRate ↔
      OnlySizing settings utcNow input stopLoss fxRate :=
  ⟨fun only => ⟨only.trades, only.stop, only.rate, only.fx, only.guards⟩,
    fun only => ⟨only.trades, only.stop, only.rate, only.fx, only.guards⟩⟩

/-- No exposure enters the caps on the order. -/
theorem fitsOrder_withExposures (input : EvaluateInput) (equity india us : NonNegative)
    {config : RiskConfig} {quantity : ℕ} :
    FitsOrder input.candidate (input.withExposures equity india us).portfolio config fxRate stopLoss
        quantity ↔
      FitsOrder input.candidate input.portfolio config fxRate stopLoss quantity :=
  ⟨fun fits => ⟨fits.risk, fits.position, fits.cash, fits.held⟩,
    fun fits => ⟨fits.risk, fits.position, fits.cash, fits.held⟩⟩

theorem ExposuresAdmit.of_le {candidate : TradeCandidate} {portfolio : PortfolioSnapshot}
    {config : RiskConfig} {quantity fewer : ℕ} (below : fewer ≤ quantity)
    (admits : ExposuresAdmit candidate portfolio config fxRate quantity) :
    ExposuresAdmit candidate portfolio config fxRate fewer :=
  ⟨admits.1.of_le below, admits.2⟩

/-- Under two exposures a SELL is approved for the same quantities exactly when
both admit the same of the quantities which the caps on the order allow. -/
theorem OnlySizing.same_approvals_iff
    (onlySizing : OnlySizing settings utcNow input stopLoss fxRate)
    (sells : input.candidate.action = .sell) :
    (∀ quantity, Approves settings utcNow id (input.withExposures equity india us) quantity ↔
      Approves settings utcNow id input quantity) ↔
    ∀ quantity ∈ Admitted (FitsOrder input.candidate input.portfolio (input.config settings) fxRate
      stopLoss),
      (ExposuresAdmit input.candidate (input.withExposures equity india us).portfolio
          (input.config settings) fxRate quantity ↔
        ExposuresAdmit input.candidate input.portfolio
          (input.config settings) fxRate quantity) := by
  have otherOnly : OnlySizing settings utcNow (input.withExposures equity india us) stopLoss
      fxRate := onlySizing_withExposures.mpr onlySizing
  have approvals : ∀ quantity,
      Approves settings utcNow id (input.withExposures equity india us) quantity ↔
        IsGreatest (Admitted fun quantity =>
          FitsOrder input.candidate input.portfolio (input.config settings) fxRate stopLoss
            quantity ∧
          ExposuresAdmit input.candidate (input.withExposures equity india us).portfolio
            (input.config settings) fxRate quantity) quantity := by
    intro quantity
    simp only [← fitsOrder_withExposures input equity india us]
    exact otherOnly.sell_approves_iff sells
  simp only [approvals, onlySizing.sell_approves_iff sells]
  -- No order is larger than the holding, so both limits are bounded.
  rw [same_largest_iff
    ⟨existingLongQuantity input.candidate input.portfolio.positions, fun _ member =>
      member.2.1.held sells⟩
    ⟨existingLongQuantity input.candidate input.portfolio.positions, fun _ member =>
      member.2.1.held sells⟩
    (fun _ _ _ below admits => ⟨admits.1.of_le below, admits.2.of_le below⟩)
    (fun _ _ _ below admits => ⟨admits.1.of_le below, admits.2.of_le below⟩)]
  exact admitted_and_eq_iff

end Exposures

/-- A SELL of a held position has the same verdict and quantity under two
exposures exactly when both admit the same of the quantities it could sell. -/
theorem sellIgnoresExposures_iff (settings : Settings) (utcNow : ℤ) (id : String)
    (input : EvaluateInput) (equity india us : NonNegative) :
    SellIgnoresExposures settings utcNow id input equity india us ↔
      ExposuresAdmitAlike settings utcNow input equity india us := by
  have compare : input.candidate.action = .sell →
      (verdict settings utcNow id (input.withExposures equity india us) =
          verdict settings utcNow id input ↔
        ∀ quantity, Approves settings utcNow id (input.withExposures equity india us) quantity ↔
          Approves settings utcNow id input quantity) := by
    intro sells
    have trade : ¬input.RequestsNoTrade := by simp [EvaluateInput.RequestsNoTrade, sells]
    refine verdict_eq_iff trade trade fun raised => ?_
    rw [evaluate_eq_error, evaluate_eq_error]
    rfl
  constructor
  · intro ignores sells stopLoss fxRate onlySizing quantity admitted
    have held := lt_of_lt_of_le admitted.1 (admitted.2.held sells)
    exact (onlySizing.same_approvals_iff sells).mp ((compare sells).mp (ignores sells held))
      quantity admitted
  · intro alike sells held
    rw [compare sells]
    by_cases only : ∃ stopLoss fxRate, OnlySizing settings utcNow input stopLoss fxRate
    · obtain ⟨stopLoss, fxRate, onlySizing⟩ := only
      exact (onlySizing.same_approvals_iff sells).mpr (alike sells stopLoss fxRate onlySizing)
    · -- Another check refuses both.
      intro quantity
      constructor
      · intro approves
        obtain ⟨stopLoss, fxRate, onlySizing⟩ := approves.onlySizing
        exact absurd ⟨stopLoss, fxRate, onlySizing_withExposures.mp onlySizing⟩ only
      · intro approves
        exact absurd approves.onlySizing only

/-- A SELL of 600 held shares of RELIANCE, from a book above its equity cap. -/
def fullBookSell : EvaluateInput :=
  { relianceBuy with
    candidate := { relianceBuy.candidate with action := .sell, stopLoss := some ⟨105, by norm_num⟩ }
    portfolio :=
      { relianceBuy.portfolio with
        equityExposureInr := ⟨850000, by norm_num⟩
        positions :=
          [{ market := .india
             symbol := "RELIANCE"
             assetClass := .equity
             quantity := 600
             marketValueInr := ⟨66000, by norm_num⟩ }] } }

/-- The book above its cap cannot sell; with no exposures it sells all 600 shares. -/
theorem fullBookSell_blocked :
    ¬SellIgnoresExposures liveSettings 0 "risk-1" fullBookSell NonNegative.zero NonNegative.zero
        NonNegative.zero ∧
      verdict liveSettings 0 "risk-1" fullBookSell = .ok (.rejected, 0) := by
  have blocked : verdict liveSettings 0 "risk-1" fullBookSell = .ok (.rejected, 0) := by
    decide +kernel
  have sold : verdict liveSettings 0 "risk-1" (fullBookSell.withExposures NonNegative.zero
      NonNegative.zero NonNegative.zero) = .ok (.approved, 600) := by
    decide +kernel
  refine ⟨fun ignores => ?_, blocked⟩
  have same := ignores rfl (by decide)
  rw [sold, blocked] at same
  cases same

end AlphaAgent.Risk
