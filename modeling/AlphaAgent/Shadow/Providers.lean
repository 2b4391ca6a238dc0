import AlphaAgent.Shadow.Strategy
import AlphaAgent.Shadow.Training

/-!
# The data providers of a cycle

`ZerodhaDataProvider.latest`, `AlpacaDataProvider.latest` and
`FXProvider.get_usd_inr`, on what their HTTP client does. Each maps some failures
to platform errors and lets the others escape: a predicate beside each provider
says which, and a lemma that these are the errors which the loops catch.
-/

namespace AlphaAgent.Shadow

/-- The errors of a request: the classes under `httpx.HTTPError`. -/
inductive HttpError where
  | connectTimeout
  | readTimeout
  | writeTimeout
  | poolTimeout
  | connectError
  | readError
  | writeError
  | closeError
  | localProtocolError
  | remoteProtocolError
  | proxyError
  | unsupportedProtocol
  | decodingError
  | tooManyRedirects
deriving DecidableEq, Repr

def HttpError.errorType : HttpError → String
  | connectTimeout => "ConnectTimeout"
  | readTimeout => "ReadTimeout"
  | writeTimeout => "WriteTimeout"
  | poolTimeout => "PoolTimeout"
  | connectError => "ConnectError"
  | readError => "ReadError"
  | writeError => "WriteError"
  | closeError => "CloseError"
  | localProtocolError => "LocalProtocolError"
  | remoteProtocolError => "RemoteProtocolError"
  | proxyError => "ProxyError"
  | unsupportedProtocol => "UnsupportedProtocol"
  | decodingError => "DecodingError"
  | tooManyRedirects => "TooManyRedirects"

/-- What a request of a client ends in; a body is missing where it is not JSON. -/
inductive HttpResult where
  | failed (error : HttpError) (message : String)
  | answered (statusCode : ℕ) (body : Option Json)

def missingCredentials (message : String) : RaisedError := ⟨"MissingCredentialsError", message⟩

/-- `response.json()`. -/
def decodeBody : Option Json → Except RaisedError Json
  | some body => .ok body
  | none => .error ⟨"JSONDecodeError", "Expecting value: line 1 column 1 (char 0)"⟩

section Zerodha

/-- `ZerodhaDataProvider.latest` of an Indian symbol. -/
def zerodhaLatest (credentials : Bool) (requested : HttpResult) : Except RaisedError Mapping := do
  if credentials = false then throw (missingCredentials "zerodha_data_credentials_missing")
  match requested with
  | .failed error message => throw ⟨error.errorType, message⟩
  | .answered statusCode body =>
    if statusCode ≠ 200 then throw (.failClosed "zerodha_quote_unavailable")
    (← decodeBody body).toMapping

/-- What `ZerodhaDataProvider.latest` maps: missing credentials and the status of an answer. -/
def zerodhaMaps (credentials : Bool) : HttpResult → Bool
  | .failed _ _ => !credentials
  | .answered statusCode _ => !credentials || decide (statusCode ≠ 200)

end Zerodha

section Alpaca

/-- The quote which `AlpacaDataProvider.latest` makes of a bar with its close price. -/
def barQuote (symbol : String) (bar : Mapping) (closePrice : Json) (payload : Mapping) :
    Except RaisedError Mapping := do
  let lastPrice ← closePrice.toFloat
  let averagePrice ← ((bar.get "vw").orElse closePrice).toFloat
  let volume ← ((bar.get "v").orElse (.number 0)).toFloat
  let openPrice ← ((bar.get "o").orElse closePrice).toFloat
  let high ← ((bar.get "h").orElse closePrice).toFloat
  let low ← ((bar.get "l").orElse closePrice).toFloat
  let entry : Mapping :=
    [("last_price", .number lastPrice), ("average_price", .number averagePrice),
      ("volume", .number volume),
      ("ohlc", .object [("open", .number openPrice), ("high", .number high),
        ("low", .number low), ("close", .number lastPrice)]),
      ("timestamp", bar.get "t")]
  return [("data", .object [("US:" ++ symbol, .object entry)]), ("raw", .object payload)]

/-- The quote of a payload, from its bar. -/
def payloadQuote (symbol : String) (payload : Mapping) : Except RaisedError Mapping :=
  match payload.get "bar" with
  | .object bar =>
    match Mapping.get bar "c" with
    | .null => .error (.failClosed "alpaca_close_price_missing")
    | closePrice => barQuote symbol bar closePrice payload
  | _ => .error (.failClosed "alpaca_bar_missing")

/-- `AlpacaDataProvider.latest` of a US symbol. -/
def alpacaLatest (credentials : Bool) (symbol : String) (requested : HttpResult) :
    Except RaisedError Mapping := do
  if credentials = false then throw (missingCredentials "alpaca_data_credentials_missing")
  match requested with
  | .failed _ _ => throw (.failClosed "alpaca_bar_request_failed")
  | .answered statusCode body =>
    if statusCode ≠ 200 then throw (.failClosed "alpaca_bar_unavailable")
    payloadQuote symbol (← (← decodeBody body).toMapping)

/-- The payload has no bar, or a bar without a close price. -/
def barMissing (payload : Mapping) : Bool :=
  match payload.get "bar" with
  | .object bar =>
    match Mapping.get bar "c" with
    | .null => true
    | _ => false
  | _ => true

/-- What `AlpacaDataProvider.latest` maps: missing credentials, failed requests,
the status of an answer, and a bar or close price which is not there. -/
def alpacaMaps (credentials : Bool) : HttpResult → Bool
  | .failed _ _ => true
  | .answered statusCode body => !credentials || decide (statusCode ≠ 200) ||
    body.any fun body => match body.toMapping with
      | .ok payload => barMissing payload
      | .error _ => false

end Alpaca

section FX

/-- `mapping.get(...)` of a decoded value, which only a mapping has. -/
def attributeGet (value : Json) : Except RaisedError Mapping :=
  match value with
  | .object fields => .ok fields
  | .null => .error ⟨"AttributeError", "'NoneType' object has no attribute 'get'"⟩
  | .bool _ => .error ⟨"AttributeError", "'bool' object has no attribute 'get'"⟩
  | .number _ => .error ⟨"AttributeError", "'float' object has no attribute 'get'"⟩
  | .text _ => .error ⟨"AttributeError", "'str' object has no attribute 'get'"⟩
  | .list _ => .error ⟨"AttributeError", "'list' object has no attribute 'get'"⟩

/-- The exchange rate of a body: a mapping which is missing counts as empty. -/
def rateText (body : Json) : Except RaisedError Json := do
  let fields ← attributeGet body
  let payload ← attributeGet
    ((fields.lookup "Realtime Currency Exchange Rate").getD (.object []))
  return payload.get "5. Exchange Rate"

/-- The status of a rate, which is fresh when it is made. `FXRateStatus` refuses
a rate which is not positive. -/
def rateStatus (text : Json) : Except RaisedError FXStatus :=
  if text.isFalsy then .error (.failClosed "usd_inr_rate_missing")
  else do
    let rate ← text.toFloat
    if rate ≤ 0 then .error ⟨"ValidationError", "Input should be greater than 0"⟩
    else .ok { rate := some rate, isFresh := true }

/-- `FXProvider.get_usd_inr`, with the cached status where it is fresh. -/
def getUsdInr (credentials : Bool) (cached : Option FXStatus) (requested : HttpResult) :
    Except RaisedError FXStatus := do
  if credentials = false then throw (missingCredentials "fx_provider_api_key_missing")
  match cached with
  | some status => return status
  | none =>
    match requested with
    | .failed error message => throw ⟨error.errorType, message⟩
    | .answered statusCode body =>
      if statusCode ≠ 200 then throw (.failClosed "usd_inr_unavailable")
      rateStatus (← rateText (← decodeBody body))

/-- What `FXProvider.get_usd_inr` maps: missing credentials, the status of an
answer, and a rate which is not there. -/
def fxMaps (credentials : Bool) : HttpResult → Bool
  | .failed _ _ => !credentials
  | .answered statusCode body => !credentials || decide (statusCode ≠ 200) ||
    body.any fun body => match rateText body with
      | .ok text => text.isFalsy
      | .error _ => false

end FX

/-- The quote of a symbol, from the provider of its market. -/
def latestQuote (market : Market) (credentials : Bool) (symbol : String) (requested : HttpResult) :
    Except RaisedError Mapping :=
  match market with
  | .india => zerodhaLatest credentials requested
  | .us => alpacaLatest credentials symbol requested

/-- What the provider of a market maps to platform errors. -/
def providerMaps (market : Market) (credentials : Bool) (requested : HttpResult) : Bool :=
  match market with
  | .india => zerodhaMaps credentials requested
  | .us => alpacaMaps credentials requested

section Escapes

variable {α β : Type}

/-- No error of the result is a platform error. -/
def Escapes (result : Except RaisedError α) : Prop :=
  ∀ raised, result = .error raised → isTradingAlpha raised = false

theorem escapes_ok (value : α) : Escapes (.ok value) := nofun

theorem escapes_error {raised : RaisedError} (foreign : isTradingAlpha raised = false) :
    Escapes (.error raised : Except RaisedError α) := by
  rintro other same
  rwa [← Except.error.inj same]

theorem Escapes.bind {first : Except RaisedError α} {rest : α → Except RaisedError β}
    (starts : Escapes first) (continues : ∀ value, Escapes (rest value)) :
    Escapes (first >>= rest) := by
  cases first with
  | ok value => exact continues value
  | error raised => exact escapes_error (starts raised rfl)

theorem Escapes.map {first : Except RaisedError α} (escapes : Escapes first) (change : α → β) :
    Escapes (first.map change) := by
  cases first with
  | ok value => exact escapes_ok _
  | error raised => exact escapes_error (escapes raised rfl)

theorem Escapes.mapM {read : α → Except RaisedError β} (each : ∀ item, Escapes (read item))
    (items : List α) : Escapes (items.mapM read) := by
  induction items with
  | nil => exact escapes_ok []
  | cons item rest ih =>
    rw [List.mapM_cons]
    exact (each item).bind fun _ => ih.bind fun _ => escapes_ok _

theorem toFloat_escapes (value : Json) : Escapes value.toFloat := by
  cases value with
  | null => exact escapes_error rfl
  | bool value => exact escapes_ok _
  | number value => exact escapes_ok _
  | text value =>
    rw [Json.toFloat]
    split
    · exact escapes_ok _
    · exact escapes_error rfl
  | list items => exact escapes_error rfl
  | object fields => exact escapes_error rfl

theorem toPair_escapes (item : Json) : Escapes item.toPair := by
  rw [Json.toPair.eq_def]
  split
  · exact escapes_ok _
  · exact escapes_error rfl
  · exact escapes_error rfl
  · exact escapes_ok _
  · exact escapes_error rfl
  · split
    · exact escapes_ok _
    · exact escapes_error rfl
  · exact escapes_ok _
  · exact escapes_error rfl
  · exact escapes_error rfl

theorem toMapping_escapes (body : Json) : Escapes body.toMapping := by
  cases body with
  | null => exact escapes_error rfl
  | bool value => exact escapes_error rfl
  | number value => exact escapes_error rfl
  | text value =>
    rw [Json.toMapping]
    split
    · exact escapes_ok _
    · exact escapes_error rfl
  | list items => exact (Escapes.mapM toPair_escapes items).map _
  | object fields => exact escapes_ok _

theorem decodeBody_escapes (body : Option Json) : Escapes (decodeBody body) := by
  cases body with
  | none => exact escapes_error rfl
  | some value => exact escapes_ok _

theorem extractLastPrice_escapes (quote : Mapping) : Escapes (extractLastPrice quote) := by
  rw [extractLastPrice]
  split
  · exact escapes_ok _
  · split
    · exact escapes_ok _
    · exact (toFloat_escapes _).map some

theorem barQuote_escapes (symbol : String) (bar : Mapping) (closePrice : Json) (payload : Mapping) :
    Escapes (barQuote symbol bar closePrice payload) := by
  refine (toFloat_escapes _).bind fun _ => (toFloat_escapes _).bind fun _ =>
    (toFloat_escapes _).bind fun _ => (toFloat_escapes _).bind fun _ =>
      (toFloat_escapes _).bind fun _ => (toFloat_escapes _).bind fun _ => escapes_ok _

theorem attributeGet_escapes (value : Json) : Escapes (attributeGet value) := by
  cases value with
  | object fields => exact escapes_ok _
  | _ => exact escapes_error rfl

theorem rateText_escapes (body : Json) : Escapes (rateText body) :=
  (attributeGet_escapes _).bind fun _ => (attributeGet_escapes _).bind fun _ => escapes_ok _

/-- After a quote, only the extraction of its price can raise. -/
theorem assessedQuote_escapes {latest : Except RaisedError Mapping} (escapes : Escapes latest) :
    Escapes (assessedQuote latest) :=
  escapes.bind fun quote => (extractLastPrice_escapes quote).bind fun _ => escapes_ok _

end Escapes

section Caught

variable {credentials : Bool} {symbol : String} {requested : HttpResult} {raised : RaisedError}

theorem httpError_escapes (error : HttpError) (message : String) :
    isTradingAlpha ⟨error.errorType, message⟩ = false := by
  cases error <;> simp [isTradingAlpha, HttpError.errorType]

/-- What raised at once is the error of the whole. -/
theorem raised_of_latest {first : RaisedError} {latest : Except RaisedError Mapping}
    (throws : latest = .error first) (fails : assessedQuote latest = .error raised) :
    raised = first := by
  rw [throws] at fails
  exact (Except.error.inj fails).symm

/-- The loop catches what `ZerodhaDataProvider.latest` maps, and nothing else. -/
theorem zerodha_caught
    (fails : assessedQuote (zerodhaLatest credentials requested) = .error raised) :
    isTradingAlpha raised = zerodhaMaps credentials requested := by
  cases credentials with
  | false =>
    rw [raised_of_latest rfl fails]
    cases requested <;> rfl
  | true =>
    cases requested with
    | failed error message =>
      rw [raised_of_latest rfl fails, httpError_escapes]
      rfl
    | answered statusCode body =>
      by_cases other : statusCode ≠ 200
      · have refused : zerodhaLatest true (.answered statusCode body) =
            .error (.failClosed "zerodha_quote_unavailable") := by
          simp [zerodhaLatest, other]
          rfl
        rw [raised_of_latest refused fails, zerodhaMaps, decide_eq_true other]
        rfl
      · have read : zerodhaLatest true (.answered statusCode body) =
            (decodeBody body >>= Json.toMapping) := by
          simp [zerodhaLatest, other]
        rw [read] at fails
        have escapes := assessedQuote_escapes
          ((decodeBody_escapes body).bind toMapping_escapes) raised fails
        rw [escapes, zerodhaMaps, decide_eq_false other]
        rfl

theorem payload_caught {payload : Mapping}
    (fails : assessedQuote (payloadQuote symbol payload) = .error raised) :
    isTradingAlpha raised = barMissing payload := by
  rw [barMissing]
  rw [payloadQuote] at fails
  split at fails
  · next bar _ =>
    split at fails
    · rw [raised_of_latest rfl fails]
      rfl
    · exact assessedQuote_escapes (barQuote_escapes symbol bar _ payload) raised fails
  · rw [raised_of_latest rfl fails]
    rfl

/-- Of a body which is parsed first, only what the rest maps is caught. -/
theorem body_caught {body : Option Json} {parse : Json → Except RaisedError α}
    {rest : α → Except RaisedError β} {maps : Json → Bool} (escapes : ∀ body, Escapes (parse body))
    (unparsed : ∀ body foreign, parse body = .error foreign → maps body = false)
    (caught : ∀ body value, parse body = .ok value → rest value = .error raised →
      isTradingAlpha raised = maps body)
    (fails : (decodeBody body >>= fun body => parse body >>= rest) = .error raised) :
    isTradingAlpha raised = body.any maps := by
  cases body with
  | none =>
    rw [decodeBody_escapes none raised (Except.error.inj fails ▸ rfl)]
    rfl
  | some body =>
    have decoded : (decodeBody (some body) >>= fun body => parse body >>= rest) =
        (parse body >>= rest) := rfl
    rw [decoded] at fails
    rw [Option.any_some]
    cases parsed : parse body with
    | error foreign =>
      rw [parsed] at fails
      rw [← Except.error.inj fails, escapes body foreign parsed, unparsed body foreign parsed]
    | ok value =>
      rw [parsed] at fails
      exact caught body value parsed fails

/-- Of a body, the loop catches a bar or close price which is not there. -/
theorem alpacaBody_caught {body : Option Json}
    (fails : assessedQuote (alpacaLatest true symbol (.answered 200 body)) = .error raised) :
    isTradingAlpha raised = alpacaMaps true (.answered 200 body) := by
  have read : assessedQuote (alpacaLatest true symbol (.answered 200 body)) =
      (decodeBody body >>= fun body => body.toMapping >>= fun payload =>
        assessedQuote (payloadQuote symbol payload)) := by
    simp [alpacaLatest, assessedQuote, bind_assoc]
  rw [read] at fails
  rw [alpacaMaps, decide_eq_false (by simp), Bool.not_true, Bool.false_or, Bool.false_or]
  apply body_caught toMapping_escapes _ _ fails
  · intro body foreign parsed
    rw [parsed]
  · intro body payload parsed failed
    rw [parsed, payload_caught failed]

/-- The loop catches what `AlpacaDataProvider.latest` maps, and nothing else. -/
theorem alpaca_caught
    (fails : assessedQuote (alpacaLatest credentials symbol requested) = .error raised) :
    isTradingAlpha raised = alpacaMaps credentials requested := by
  cases credentials with
  | false =>
    rw [raised_of_latest rfl fails]
    cases requested <;> rfl
  | true =>
    cases requested with
    | failed error message =>
      rw [raised_of_latest rfl fails]
      rfl
    | answered statusCode body =>
      by_cases accepted : statusCode = 200
      · subst accepted
        exact alpacaBody_caught fails
      · have refused : alpacaLatest true symbol (.answered statusCode body) =
            .error (.failClosed "alpaca_bar_unavailable") := by
          simp [alpacaLatest, accepted]
          rfl
        rw [raised_of_latest refused fails, alpacaMaps, decide_eq_true accepted]
        rfl

theorem rateStatus_caught {text : Json} (fails : rateStatus text = .error raised) :
    isTradingAlpha raised = text.isFalsy := by
  rw [rateStatus] at fails
  split at fails
  · next missing =>
    rw [missing, ← Except.error.inj fails]
    rfl
  · next present =>
    have escapes : Escapes (text.toFloat >>= fun rate =>
        if rate ≤ 0 then .error ⟨"ValidationError", "Input should be greater than 0"⟩
        else .ok ({ rate := some rate, isFresh := true } : FXStatus)) := by
      refine (toFloat_escapes text).bind fun rate => ?_
      split
      · exact escapes_error rfl
      · exact escapes_ok _
    rw [escapes raised fails, Bool.eq_false_iff.mpr present]

/-- Of a body, the cycle catches a rate which is not there. -/
theorem rateBody_caught {body : Option Json}
    (fails : getUsdInr true none (.answered 200 body) = .error raised) :
    isTradingAlpha raised = fxMaps true (.answered 200 body) := by
  have read : getUsdInr true none (.answered 200 body) =
      (decodeBody body >>= fun body => rateText body >>= rateStatus) := by
    simp [getUsdInr]
  rw [read] at fails
  rw [fxMaps, decide_eq_false (by simp), Bool.not_true, Bool.false_or, Bool.false_or]
  apply body_caught rateText_escapes _ _ fails
  · intro body foreign parsed
    rw [parsed]
  · intro body text parsed failed
    rw [parsed, rateStatus_caught failed]

/-- The cycle catches what `FXProvider.get_usd_inr` maps, and nothing else. -/
theorem fx_caught {cached : Option FXStatus}
    (fails : getUsdInr credentials cached requested = .error raised) :
    isTradingAlpha raised = fxMaps credentials requested := by
  cases credentials with
  | false =>
    have refused : getUsdInr false cached requested =
        .error (missingCredentials "fx_provider_api_key_missing") := rfl
    rw [← Except.error.inj (refused.symm.trans fails)]
    cases requested <;> rfl
  | true =>
    cases cached with
    | some status => cases fails
    | none =>
      cases requested with
      | failed error message =>
        have escaped : getUsdInr true none (.failed error message) =
            .error ⟨error.errorType, message⟩ := rfl
        rw [← Except.error.inj (escaped.symm.trans fails), httpError_escapes]
        rfl
      | answered statusCode body =>
        by_cases accepted : statusCode = 200
        · subst accepted
          exact rateBody_caught fails
        · have refused : getUsdInr true none (.answered statusCode body) =
              .error (.failClosed "usd_inr_unavailable") := by
            simp [getUsdInr, accepted]
            rfl
          rw [← Except.error.inj (refused.symm.trans fails), fxMaps, decide_eq_true accepted]
          rfl

/-- The loops catch what the provider of their market maps, and nothing else. -/
theorem provider_caught {market : Market}
    (fails : assessedQuote (latestQuote market credentials symbol requested) = .error raised) :
    isTradingAlpha raised = providerMaps market credentials requested := by
  cases market with
  | india => exact zerodha_caught fails
  | us => exact alpaca_caught fails

end Caught
end AlphaAgent.Shadow
