import AlphaAgent.Backtesting.Loop
import AlphaAgent.Paper.Journal
import Mathlib.Tactic.Linarith

/-!
# The position of a session

A backtest trades one symbol in one market. Whatever it has open is a nonempty
position under that symbol, so the exit check finds it, and the exit of the
whole position is refused only for its price.
-/

namespace AlphaAgent.Backtesting

open Foundation Fallible Paper

section Loop

variable (session : Session)

/-- A position of the session is under its own symbol and market, and not empty. -/
def Invested (engine : PaperTradingEngine) : Prop :=
  ∀ position, engine.positions.get? session.symbol = some position →
    position.symbol = session.symbol ∧ position.market = session.market ∧ 0 < position.quantity

theorem invested_fresh (startingCash : Positive) (costModel : CostModel)
    (riskLimits : PaperRiskLimits) :
    Invested session (.fresh startingCash costModel riskLimits) := by
  intro position held
  cases held

/-- A booking under the session's symbol and market keeps the positions so. -/
theorem Invested.booked {engine next : PaperTradingEngine} {request : PaperOrderRequest}
    {exitReason : PaperExitReason} {result : PaperExecutionResult}
    (invested : Invested session engine) (symbol : request.symbol = session.symbol)
    (market : request.market = session.market)
    (books : Books engine request exitReason result next) : Invested session next := by
  intro position held
  cases books with
  | blocked reason message => exact invested position held
  | opened stopLoss accepted =>
    simp only [PaperTradingEngine.opened, symbol, Dict.get?_set_self, Option.some.injEq] at held
    subst held
    exact ⟨symbol, market, accepted.quantity⟩
  | closed before accepted =>
    rw [closed_get?, symbol, if_pos rfl] at held
    obtain ⟨sameSymbol, sameMarket, -⟩ := invested before (symbol ▸ accepted.held)
    obtain ⟨rfl, left⟩ := PaperTradingEngine.remaining_eq_some held
    exact ⟨sameSymbol, sameMarket, left⟩

/-- What the engine's bookings keep as long as the session orders under its own symbol
and market, and sells whole positions only. -/
structure KeptByBookings (holds : PaperTradingEngine → Prop) : Prop where
  invested : ∀ {engine}, holds engine → Invested session engine
  booked : ∀ {engine next : PaperTradingEngine} {request : PaperOrderRequest}
    {exitReason : PaperExitReason} {result : PaperExecutionResult}, holds engine →
    request.symbol = session.symbol → request.market = session.market →
    (∀ position, engine.positions.get? session.symbol = some position →
      request.side = .sell → request.quantity = position.quantity) →
    Books engine request exitReason result next → holds next

theorem invested_kept : KeptByBookings session (Invested session) where
  invested invested := invested
  booked invested symbol market _ books := invested.booked session symbol market books

section Kept

variable {session} {holds : PaperTradingEngine → Prop} (kept : KeptByBookings session holds)
  {engine : PaperTradingEngine}

include kept

theorem KeptByBookings.submitted {request : PaperOrderRequest} (exitReason : PaperExitReason)
    (here : holds engine) (symbol : request.symbol = session.symbol)
    (market : request.market = session.market)
    (whole : ∀ position, engine.positions.get? session.symbol = some position →
      request.side = .sell → request.quantity = position.quantity) :
    holds ((submitOrder session.text request exitReason).run engine).2 := by
  rcases run_submitOrder session.text engine request exitReason with
    ⟨raised, failed⟩ | ⟨submittedAt, result, -, -, books⟩
  · rw [failed]
    exact here
  · have normalized : (normalizedRequest session.text request submittedAt).symbol =
        session.symbol := by
      change session.text.normalize request.symbol = session.symbol
      rw [symbol, session.normalized]
    exact kept.booked here normalized market whole books

/-- The strategy's orders buy. -/
theorem KeptByBookings.asked (here : holds engine) (history : List Candle) (candle : Candle) :
    holds ((askStrategy session history candle).run engine).2 := by
  rcases askStrategy_cases session history candle engine with nothing | ⟨signal, -, submitted⟩
  · rw [nothing]
    exact here
  · rw [submitted]
    exact kept.submitted _ here rfl rfl fun _ _ => nofun

/-- The exit check sells the whole position. -/
theorem KeptByBookings.checked (here : holds engine) (candle : Candle) :
    holds ((checkExit session candle).run engine).2 := by
  rcases checkExit_cases session candle engine with
    ⟨nothing, -⟩ | ⟨position, price, check, exitReason, held, submitted, -⟩
  · rw [nothing]
    exact here
  · rw [submitted]
    obtain ⟨symbol, market, -⟩ := kept.invested here position held
    refine kept.submitted exitReason here symbol market fun other same _ => ?_
    rw [held] at same
    cases same
    rfl

end Kept

/-- A request to sell a whole position of the session. -/
structure WholeExit (position : PaperPosition) (request : PaperOrderRequest) : Prop where
  side : request.side = .sell
  symbol : request.symbol = session.symbol
  market : request.market = session.market
  quantity : request.quantity = position.quantity

/-- The exit of a whole position passes every guard exactly when its price is
positive and slippage takes no more than the whole price. -/
theorem exitAccepted_iff {engine : PaperTradingEngine} {position : PaperPosition}
    {request : PaperOrderRequest} (invested : Invested session engine)
    (held : engine.positions.get? session.symbol = some position)
    (whole : WholeExit session position request) :
    ExitAccepted engine request position ↔
      0 < request.referencePrice ∧ engine.costModel.slippageBps.val ≤ 10000 := by
  obtain ⟨-, market, quantity⟩ := invested position held
  have units : (0 : ℚ) < position.quantity := Int.cast_pos.mpr quantity
  have gross : engine.grossOf request =
      request.referencePrice * (1 - engine.costModel.slippageBps / 10000) * position.quantity := by
    rw [PaperTradingEngine.grossOf, PaperTradingEngine.priceOf, whole.side, whole.quantity]
    rfl
  constructor
  · intro accepted
    refine ⟨accepted.referencePrice, ?_⟩
    by_contra most
    have negative : 1 - engine.costModel.slippageBps.val / 10000 < 0 := by linarith
    have nonneg := accepted.gross
    rw [gross] at nonneg
    exact absurd (mul_neg_of_neg_of_pos (mul_neg_of_pos_of_neg accepted.referencePrice negative)
      units) (not_lt.mpr nonneg)
  · rintro ⟨positive, most⟩
    have factor : 0 ≤ 1 - engine.costModel.slippageBps.val / 10000 := by linarith
    refine ⟨whole.side, whole.symbol ▸ held, market.trans whole.market.symm,
      whole.quantity ▸ quantity, whole.quantity.le, positive, ?_⟩
    rw [gross]
    exact mul_nonneg (mul_nonneg positive.le factor) units.le

/-- The exit check asks for a whole position. -/
theorem exitRequest_whole {engine : PaperTradingEngine} {position : PaperPosition}
    (invested : Invested session engine)
    (held : engine.positions.get? session.symbol = some position) (price : ℚ)
    (timestamp submittedAt : DateTime) (check : String) :
    WholeExit session position (normalizedRequest session.text
      (exitRequest position price timestamp check) submittedAt) := by
  obtain ⟨symbol, market, -⟩ := invested position held
  refine ⟨rfl, ?_, market, rfl⟩
  change session.text.normalize position.symbol = session.symbol
  rw [symbol, session.normalized]

theorem processCandle_invested (history : List Candle) (candle : Candle)
    {engine : PaperTradingEngine} (invested : Invested session engine) :
    Invested session ((processCandle session history candle).run engine).2 := by
  have stillInvested := (invested_kept session).asked invested history candle
  cases ran : (askStrategy session history candle).run engine with
  | mk outcome asked =>
    rw [ran] at stillInvested
    cases outcome with
    | error raised =>
      rw [processCandle_raised session ran]
      exact stillInvested
    | ok _ =>
      rw [processCandle_engine session ran]
      exact (invested_kept session).checked stillInvested candle

end Loop
end AlphaAgent.Backtesting
