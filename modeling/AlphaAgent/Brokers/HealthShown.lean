import AlphaAgent.Brokers.HealthChecks

/-!
# What a healthy broker has shown

A health check is told apart by its transcript. A broker which is healthy for live has
shown its credentials, a session, an account which may trade, and its positions, all
in the answers which the check itself was given.
-/

namespace AlphaAgent.Brokers

open Foundation Shadow

section Vouching

/-- A request of an address was answered so. -/
def AnsweredAt (url : String) (requested : HttpResult) (seen : HealthTranscript) : Prop :=
  ∃ headers, (⟨.other (.get url headers), .ok requested⟩ : Event (TimedReply HealthReply)) ∈ seen

/-- What is not mapped is kept. -/
theorem orFailClosed_ok {message : String} {requested mapped : HttpResult}
    (returned : orFailClosed message requested = .ok mapped) : mapped = requested := by
  cases requested with
  | failed error text => cases returned
  | answered statusCode body => exact (Except.ok.inj returned).symm

theorem okBody_ok {unavailable : String} {requested : HttpResult} {body : Option Json}
    (read : okBody unavailable requested = .ok body) : requested = .answered 200 body := by
  cases requested with
  | failed error message => cases read
  | answered statusCode answered =>
    rw [okBody] at read
    by_cases status : statusCode = 200
    · rw [if_neg (not_not.mpr status)] at read
      rw [status, Except.ok.inj read]
    · rw [if_pos status] at read
      cases read

/-- An access token was loaded. -/
def TokenLoaded (seen : HealthTranscript) : Prop :=
  ∃ token, token ≠ "" ∧
    (⟨.other .loadAccessToken, .ok (some token)⟩ : Event (TimedReply HealthReply)) ∈ seen

/-- What the statements of an adapter show when they return. -/
structure Vouching (broker : CheckedBroker) where
  credentials : HealthTranscript → Prop
  session : HealthTranscript → Prop
  account : BrokerAccount → HealthTranscript → Prop
  positions : HealthTranscript → Prop
  credentialsGrow : Grows credentials
  sessionGrows : Grows session
  accountGrows : ∀ found, Grows (account found)
  positionsGrow : Grows positions
  validates : Work.Shows broker.validateCredentials fun _ => credentials
  checks : Work.Shows broker.checkSession fun valid seen => valid = true → session seen
  gets : Work.Shows broker.getAccount account
  reads : Work.Shows broker.getPositions fun _ => positions

/-- Everything which a broker which is healthy for live must have shown. -/
structure Vouching.Shown {broker : CheckedBroker} (vouching : Vouching broker)
    (texts : HealthTexts) (seen : HealthTranscript) : Prop where
  credentials : vouching.credentials seen
  session : vouching.session seen
  account : ∃ found, vouching.account found seen ∧ texts.upper found.status = "ACTIVE" ∧
    found.tradingEnabled = true
  positions : vouching.positions seen

/-- A health of a broker is dated by its check. It is healthy for live exactly when it has
no reason against it, and only when the adapter has shown everything. -/
structure Reported {broker : CheckedBroker} (vouching : Vouching broker) (texts : HealthTexts)
    (market : Market) (health : CheckedBrokerHealth) (seen : HealthTranscript) : Prop where
  brokerName : health.brokerName = broker.brokerName
  market : health.market = market
  dated : (⟨.clock, health.lastCheckedAt⟩ : Event (TimedReply HealthReply)) ∈ seen
  reasons : health.isHealthyForLive = true ↔ health.rejectionReasons = []
  shown : health.isHealthyForLive = true → vouching.Shown texts seen

variable {texts : HealthTexts} {broker : CheckedBroker} {market : Market}

theorem grows_answeredAt (url : String) (requested : HttpResult) :
    Grows (AnsweredAt url requested) := Grows.exists fun _ => grows_mem _

theorem grows_tokenLoaded : Grows TokenLoaded :=
  Grows.exists fun token => (grows_const (token ≠ "")).and (grows_mem _)

theorem get_shows (url : String) (headers : List (String × String)) :
    Work.Shows (get url headers) (AnsweredAt url) := by
  refine (Work.Shows.ask _).bind (fun _ => grows_mem _) ?_
  intro requested
  refine Work.Shows.ofExcept ?_
  rintro answered returned seen shown
  exact ⟨headers, returned ▸ shown⟩

theorem loadAccessToken_shows : Work.Shows loadAccessToken fun loaded seen =>
    ∀ token ∈ loaded.filter (· ≠ ""), TokenLoaded seen := by
  refine (Work.Shows.ask _).bind (fun _ => grows_mem _) ?_
  intro answered
  refine Work.Shows.ofExcept ?_
  rintro loaded returned seen shown token found
  obtain ⟨rfl, present⟩ := Option.filter_eq_some_iff.mp found
  exact ⟨token, of_decide_eq_true present, returned ▸ shown⟩

section Accounts

variable (texts : HealthTexts) (broker : CheckedBroker) (market : Market) (sessionValid : Bool)
  (account : BrokerAccount) (reconciled : Bool) (lastCheckedAt : ℤ) (buyingPower cash : NonNegative)

theorem accountHealth_isHealthyForLive_iff :
    (accountHealth texts broker market sessionValid account reconciled lastCheckedAt buyingPower
      cash).isHealthyForLive = true ↔ sessionValid = true ∧
        texts.upper account.status = "ACTIVE" ∧ account.tradingEnabled = true ∧
          reconciled = true := by
  unfold BrokerHealth.isHealthyForLive accountHealth
  cases sessionValid <;> by_cases active : texts.upper account.status = "ACTIVE" <;> simp [active]

theorem rejectionReasons_eq_nil_iff :
    rejectionReasons texts sessionValid account reconciled = [] ↔ sessionValid = true ∧
      texts.upper account.status = "ACTIVE" ∧ account.tradingEnabled = true ∧
        reconciled = true := by
  simp [rejectionReasons]

end Accounts

theorem checkedHealth_shows (vouching : Vouching broker) :
    Work.Shows (checkedHealth texts broker market) (Reported vouching texts market) := by
  refine vouching.validates.bind (fun _ => vouching.credentialsGrow) fun _ => ?_
  refine vouching.checks.bind (fun valid seen event shown isValid =>
    vouching.sessionGrows seen event (shown isValid)) fun sessionValid => ?_
  refine vouching.gets.bind vouching.accountGrows fun account => ?_
  have reads : Work.Shows broker.reconcilePositions fun _ => vouching.positions :=
    vouching.reads.bind (fun _ => vouching.positionsGrow) fun _ => .pure fun _ shown => shown
  refine reads.bind (fun _ => vouching.positionsGrow) fun reconciled => ?_
  refine (Work.Shows.ask _).bind (fun _ => grows_mem _) fun lastCheckedAt => ?_
  refine .skip fun buyingPower => .skip fun cash => .pure ?_
  intro seen dated positions found session credentials
  have passes := accountHealth_isHealthyForLive_iff texts broker market sessionValid account
    reconciled lastCheckedAt buyingPower cash
  refine ⟨rfl, rfl, dated,
    passes.trans (rejectionReasons_eq_nil_iff texts sessionValid account reconciled).symm, ?_⟩
  intro healthy
  obtain ⟨valid, active, enabled, -⟩ := passes.mp healthy
  exact ⟨credentials, session valid, ⟨account, found, active, enabled⟩, positions⟩

theorem raisedHealth_reported (vouching : Vouching broker) (raised : RaisedError)
    (lastCheckedAt : ℤ) {seen : HealthTranscript}
    (dated : (⟨.clock, lastCheckedAt⟩ : Event (TimedReply HealthReply)) ∈ seen) :
    Reported vouching texts market (raisedHealth broker market raised lastCheckedAt) seen := by
  have unhealthy : (raisedHealth broker market raised lastCheckedAt).isHealthyForLive = false := by
    unfold BrokerHealth.isHealthyForLive raisedHealth
    split_ifs <;> rfl
  refine ⟨rfl, rfl, dated, ?_, fun healthy => absurd (unhealthy ▸ healthy) nofun⟩
  rw [unhealthy, raisedHealth]
  split_ifs <;> exact iff_of_false nofun nofun

theorem grows_reported (vouching : Vouching broker) {health : CheckedBrokerHealth} :
    Grows (Reported vouching texts market health) := by
  rintro seen event ⟨brokerName, market, dated, reasons, shown⟩
  refine ⟨brokerName, market, List.mem_append_left _ dated, reasons, ?_⟩
  intro healthy
  obtain ⟨credentials, session, ⟨found, account, passes⟩, positions⟩ := shown healthy
  exact ⟨vouching.credentialsGrow _ _ credentials, vouching.sessionGrows _ _ session,
    ⟨found, vouching.accountGrows _ _ _ account, passes⟩, vouching.positionsGrow _ _ positions⟩

/-- A check reports what the adapter has shown. -/
theorem BrokerHealthChecker.check_reported (vouching : Vouching broker)
    (seen : HealthTranscript) :
    (BrokerHealthChecker.check texts broker market).Meets (transcript (TimedReply HealthReply))
      (Reported vouching texts market) seen := by
  apply Program.Meets.bind
  refine (checkedHealth_shows vouching ⟨⟩ seen trivial).mono ?_
  rintro ⟨ended, _⟩ after reported
  cases ended with
  | ok health => exact reported
  | error raised =>
    refine ⟨trivial, ?_⟩
    rintro lastCheckedAt last rfl
    exact raisedHealth_reported vouching raised lastCheckedAt
      (List.mem_append_right _ (List.mem_singleton_self _))

end Vouching

section Answers

/-- A field of a decoded value, where it has one. -/
def field (value : Json) (key : String) : Json :=
  match value with
  | .object fields => Mapping.get fields key
  | _ => .null

/-- A text is listed in a decoded value. -/
def Lists (value : Json) (text : String) : Prop :=
  ∃ items, iterate value = .ok items ∧ contains items text = true

theorem attributeGet_ok {value : Json} {fields : Mapping}
    (read : attributeGet value = .ok fields) : value = .object fields := by
  cases value with
  | object other => exact congrArg Json.object (Except.ok.inj read)
  | _ => cases read

theorem decodeBody_ok {body : Option Json} {value : Json} (read : decodeBody body = .ok value) :
    body = some value := by
  cases body with
  | none => cases read
  | some other => exact congrArg some (Except.ok.inj read)

theorem elements_ok {value : Json} {items : List Json} (read : elements value = .ok items) :
    iterate value = .ok items := by
  obtain ⟨iterated, first, rest⟩ := Fallible.except_bind_ok read
  obtain ⟨-, -, last⟩ := Fallible.except_bind_ok rest
  rw [first]
  exact last

/-- What `getOrEmpty` reads is the field, or empty. -/
theorem field_of_getOrEmpty {fields : Mapping} {key : String} {value : Json}
    (read : getOrEmpty fields key = value) (filled : value.isFalsy = false) :
    field (.object fields) key = value := by
  change (fields.lookup key).getD .null = value
  unfold getOrEmpty at read
  cases found : fields.lookup key with
  | none =>
    rw [found] at read
    subst read
    cases filled
  | some other =>
    rw [found] at read
    exact read

theorem field_of_nestedOrEmpty {value read : Json} {key : String}
    (nested : nestedOrEmpty value key = read) (filled : read.isFalsy = false) :
    field value key = read := by
  unfold nestedOrEmpty at nested
  split at nested
  · exact field_of_getOrEmpty nested filled
  · subst nested
    cases filled

/-- What has a field which is not empty is not empty. -/
theorem filled_of_field {value : Json} {key : String}
    (filled : (field value key).isFalsy = false) : value.isFalsy = false := by
  cases value with
  | object fields =>
    cases fields with
    | nil => cases filled
    | cons entry rest => rfl
  | _ => cases filled

theorem filled_of_lists {value : Json} {key text : String} (lists : Lists (field value key) text) :
    value.isFalsy = false := by
  cases value with
  | object fields =>
    cases fields with
    | nil =>
      obtain ⟨items, read, -⟩ := lists
      cases read
    | cons entry rest => rfl
  | _ =>
    obtain ⟨items, read, -⟩ := lists
    cases read

theorem lists_of_orElse {value : Json} {items : List Json} {text : String}
    (read : elements (value.orElse (.list [])) = .ok items) (listed : contains items text = true) :
    Lists value text := by
  unfold Json.orElse at read
  split at read
  · cases read
    cases listed
  · exact ⟨items, elements_ok read, listed⟩

end Answers

namespace Zerodha

/-- The answers of the broker allow delivery trades of shares at NSE. -/
structure CncEnabled (profile margins : Json) : Prop where
  exchange : Lists (field (field profile "data") "exchanges") "NSE"
  product : Lists (field (field profile "data") "products") "CNC"
  segment : (field (field (field margins "data") "equity") "enabled").isFalsy = false

/-- An account on which trading is enabled was read out of answers which allow it. -/
theorem account_enabled {texts : HealthTexts} {profile margins : Option Json}
    {found : BrokerAccount} (read : account texts profile margins = .ok found)
    (enabled : found.tradingEnabled = true) :
    ∃ first second, profile = some first ∧ margins = some second ∧ CncEnabled first second := by
  obtain ⟨first, decoded, rest⟩ := Fallible.except_bind_ok read
  obtain ⟨firstFields, isFirst, rest⟩ := Fallible.except_bind_ok rest
  obtain ⟨second, decodedSecond, rest⟩ := Fallible.except_bind_ok rest
  obtain ⟨secondFields, isSecond, rest⟩ := Fallible.except_bind_ok rest
  obtain ⟨fields, isData, rest⟩ := Fallible.except_bind_ok rest
  obtain ⟨exchanges, readExchanges, rest⟩ := Fallible.except_bind_ok rest
  obtain ⟨products, readProducts, rest⟩ := Fallible.except_bind_ok rest
  obtain ⟨available, isAvailable, rest⟩ := Fallible.except_bind_ok rest
  obtain ⟨cash, readCash, rest⟩ := Fallible.except_bind_ok rest
  obtain ⟨segment, isSegment, rest⟩ := Fallible.except_bind_ok rest
  obtain ⟨buyingPower, readPower, rest⟩ := Fallible.except_bind_ok rest
  cases rest
  have flags := enabled
  simp only [Bool.and_eq_true, Bool.not_eq_true'] at flags
  obtain ⟨⟨isEnabled, nse⟩, cnc⟩ := flags
  obtain rfl := attributeGet_ok isFirst
  obtain rfl := attributeGet_ok isSecond
  have data := attributeGet_ok isData
  have exchange : Lists (field (.object fields) "exchanges") "NSE" :=
    lists_of_orElse readExchanges nse
  have product : Lists (field (.object fields) "products") "CNC" :=
    lists_of_orElse readProducts cnc
  have profileData : field (.object firstFields) "data" = .object fields :=
    field_of_getOrEmpty data (filled_of_lists exchange)
  have present : (field (.object segment) "enabled").isFalsy = false := isEnabled
  have equity : field (getOrEmpty secondFields "data") "equity" = .object segment :=
    field_of_nestedOrEmpty (attributeGet_ok isSegment) (filled_of_field present)
  have marginData : field (.object secondFields) "data" = getOrEmpty secondFields "data" :=
    field_of_getOrEmpty rfl (filled_of_field (equity ▸ filled_of_field present))
  refine ⟨_, _, decodeBody_ok decoded, decodeBody_ok decodedSecond, ?_, ?_, ?_⟩
  · rw [profileData]
    exact exchange
  · rw [profileData]
    exact product
  · rw [marginData, equity]
    exact present

variable {texts : HealthTexts} {keys : Keys}

theorem requireCredentials_shows : Work.Shows (requireCredentials keys) fun _ seen =>
    keys.apiKey ≠ "" ∧ keys.apiSecret ≠ "" ∧ TokenLoaded seen := by
  unfold requireCredentials
  split
  · exact .throw _
  · next present =>
    rw [not_or] at present
    refine loadAccessToken_shows.bind (fun loaded seen event holds token found =>
      grows_tokenLoaded seen event (holds token found)) fun loaded => ?_
    cases found : loaded.filter (· ≠ "") with
    | none => exact .throw _
    | some token => exact .pure fun seen holds => ⟨present.1, present.2, holds token rfl⟩

theorem request_shows (path : String) :
    Work.Shows (request keys path) (AnsweredAt (baseUrl ++ path)) :=
  .skip fun headers => get_shows _ headers

theorem accountBody_shows (path unavailable : String) :
    Work.Shows (accountBody keys path unavailable) fun body =>
      AnsweredAt (baseUrl ++ path) (.answered 200 body) := by
  refine (request_shows path).bind (fun _ => grows_answeredAt _ _) fun requested => ?_
  refine (Work.Shows.ofExcept fun mapped returned seen => orFailClosed_ok returned).bind
    (fun _ => grows_const _) fun mapped => ?_
  refine .ofExcept ?_
  rintro body read seen rfl shown
  exact okBody_ok read ▸ shown

/-- What the Zerodha adapter shows when its statements return. -/
def vouching (texts : HealthTexts) (keys : Keys) : Vouching (broker texts keys) where
  credentials seen := keys.apiKey ≠ "" ∧ keys.apiSecret ≠ "" ∧ TokenLoaded seen
  session seen := ∃ body, AnsweredAt (baseUrl ++ "/user/profile") (.answered 200 body) seen
  account found seen := ∃ profile margins,
    AnsweredAt (baseUrl ++ "/user/profile") (.answered 200 profile) seen ∧
    AnsweredAt (baseUrl ++ "/user/margins") (.answered 200 margins) seen ∧
    account texts profile margins = .ok found
  positions seen := ∃ body items,
    AnsweredAt (baseUrl ++ "/portfolio/positions") (.answered 200 body) seen ∧
    positions body = .ok items
  credentialsGrow := (grows_const _).and ((grows_const _).and grows_tokenLoaded)
  sessionGrows := .exists fun _ => grows_answeredAt _ _
  accountGrows _ := .exists fun _ => .exists fun _ =>
    (grows_answeredAt _ _).and ((grows_answeredAt _ _).and (grows_const _))
  positionsGrow := .exists fun _ => .exists fun _ => (grows_answeredAt _ _).and (grows_const _)
  validates := requireCredentials_shows
  checks := by
    refine (request_shows _).bind (fun _ => grows_answeredAt _ _) fun requested => ?_
    cases requested with
    | failed error message => exact .throw _
    | answered statusCode body =>
      refine .pure ?_
      intro seen shown valid
      obtain rfl : statusCode = 200 := of_decide_eq_true valid
      exact ⟨body, shown⟩
  gets := by
    refine (accountBody_shows _ _).bind (fun _ => grows_answeredAt _ _) fun profile => ?_
    refine (accountBody_shows _ _).bind (fun _ => grows_answeredAt _ _) fun margins => ?_
    refine .ofExcept ?_
    intro found read seen shownMargins shownProfile
    exact ⟨profile, margins, shownProfile, shownMargins, read⟩
  reads := by
    refine (request_shows _).bind (fun _ => grows_answeredAt _ _) fun requested => ?_
    refine (Work.Shows.ofExcept fun body read seen => okBody_ok read).bind
      (fun _ => grows_const _) fun body => ?_
    refine .ofExcept ?_
    rintro items read seen rfl shown
    exact ⟨body, items, shown, read⟩

/-- What a Zerodha broker must have shown to be healthy for live. -/
structure HealthShown (keys : Keys) (seen : HealthTranscript) : Prop where
  keys : keys.apiKey ≠ "" ∧ keys.apiSecret ≠ ""
  token : TokenLoaded seen
  account : ∃ profile margins,
    AnsweredAt (baseUrl ++ "/user/profile") (.answered 200 (some profile)) seen ∧
    AnsweredAt (baseUrl ++ "/user/margins") (.answered 200 (some margins)) seen ∧
    CncEnabled profile margins
  positions : ∃ body items,
    AnsweredAt (baseUrl ++ "/portfolio/positions") (.answered 200 body) seen ∧
    positions body = .ok items

theorem healthShown {seen : HealthTranscript} (shown : (vouching texts keys).Shown texts seen) :
    HealthShown keys seen := by
  obtain ⟨⟨apiKey, apiSecret, token⟩, -, ⟨found, ⟨profile, margins, first, second, read⟩, -,
    enabled⟩, positions⟩ := shown
  obtain ⟨profile, margins, rfl, rfl, cnc⟩ := account_enabled read enabled
  exact ⟨⟨apiKey, apiSecret⟩, token, ⟨profile, margins, first, second, cnc⟩, positions⟩

end Zerodha

namespace Alpaca

variable {texts : HealthTexts} {credentials : AlpacaCredentials}

theorem headers_ok {headers : List (String × String)} (read : credentials.headers = .ok headers) :
    credentials.apiKey ≠ "" ∧ credentials.secretKey ≠ "" := by
  unfold AlpacaCredentials.headers at read
  split at read
  · cases read
  · next present => exact not_or.mp present

theorem request_shows (path : String) :
    Work.Shows (request credentials path) (AnsweredAt (credentials.baseUrl ++ path)) :=
  .skip fun headers => get_shows _ headers

/-- The account of the body of an answer with status 200. -/
theorem getAccount_shows : Work.Shows (getAccount texts credentials) fun found seen =>
    ∃ body, AnsweredAt (credentials.baseUrl ++ "/v2/account") (.answered 200 body) seen ∧
      account texts body = .ok found := by
  refine (request_shows _).bind (fun _ => grows_answeredAt _ _) fun requested => ?_
  refine (Work.Shows.ofExcept fun mapped returned seen => orFailClosed_ok returned).bind
    (fun _ => grows_const _) fun mapped => ?_
  refine (Work.Shows.ofExcept fun body read seen => okBody_ok read).bind
    (fun _ => grows_const _) fun body => ?_
  refine .ofExcept ?_
  rintro found read seen rfl rfl shown
  exact ⟨body, shown, read⟩

/-- What the Alpaca adapter shows when its statements return. -/
def vouching (texts : HealthTexts) (credentials : AlpacaCredentials) :
    Vouching (broker texts credentials) where
  credentials _ := credentials.apiKey ≠ "" ∧ credentials.secretKey ≠ ""
  session seen := ∃ found body,
    (AnsweredAt (credentials.baseUrl ++ "/v2/account") (.answered 200 body) seen ∧
      account texts body = .ok found) ∧
    texts.lower found.status = "active" ∧ found.tradingEnabled = true
  account found seen := ∃ body,
    AnsweredAt (credentials.baseUrl ++ "/v2/account") (.answered 200 body) seen ∧
      account texts body = .ok found
  positions seen := ∃ body items,
    AnsweredAt (credentials.baseUrl ++ "/v2/positions") (.answered 200 body) seen ∧
      (decodeBody body >>= iterate) = .ok items
  credentialsGrow := grows_const _
  sessionGrows := .exists fun _ => .exists fun _ =>
    ((grows_answeredAt _ _).and (grows_const _)).and (grows_const _)
  accountGrows _ := .exists fun _ => (grows_answeredAt _ _).and (grows_const _)
  positionsGrow := .exists fun _ => .exists fun _ => (grows_answeredAt _ _).and (grows_const _)
  validates := by
    refine (Work.Shows.ofExcept fun headers read seen => headers_ok read).bind
      (fun _ => grows_const _) fun headers => ?_
    exact .pure fun seen present => present
  checks := by
    refine getAccount_shows.bind (fun found => .exists fun _ =>
      (grows_answeredAt _ _).and (grows_const _)) fun found => ?_
    refine .pure ?_
    rintro seen ⟨body, shown⟩ valid
    rw [Bool.and_eq_true, decide_eq_true_eq] at valid
    exact ⟨found, body, shown, valid⟩
  gets := getAccount_shows
  reads := by
    refine (request_shows _).bind (fun _ => grows_answeredAt _ _) fun requested => ?_
    refine (Work.Shows.ofExcept fun body read seen => okBody_ok read).bind
      (fun _ => grows_const _) fun body => ?_
    refine .ofExcept ?_
    rintro items read seen rfl shown
    exact ⟨body, items, shown, read⟩

/-- What an Alpaca broker must have shown to be healthy for live. -/
structure HealthShown (texts : HealthTexts) (credentials : AlpacaCredentials)
    (seen : HealthTranscript) : Prop where
  keys : credentials.apiKey ≠ "" ∧ credentials.secretKey ≠ ""
  account : ∃ data : Mapping,
    AnsweredAt (credentials.baseUrl ++ "/v2/account") (.answered 200 (some (.object data))) seen ∧
    data.get "trading_blocked" = .bool false ∧
    texts.upper (texts.str ((data.lookup "status").getD (.text "UNKNOWN"))) = "ACTIVE"
  positions : ∃ body items,
    AnsweredAt (credentials.baseUrl ++ "/v2/positions") (.answered 200 body) seen ∧
      (decodeBody body >>= iterate) = .ok items

theorem account_ok {body : Option Json} {found : BrokerAccount}
    (read : account texts body = .ok found) (enabled : found.tradingEnabled = true) :
    ∃ data : Mapping, body = some (.object data) ∧ data.get "trading_blocked" = .bool false ∧
      found.status = texts.str ((data.lookup "status").getD (.text "UNKNOWN")) := by
  obtain ⟨value, decoded, rest⟩ := Fallible.except_bind_ok read
  obtain ⟨data, isObject, rest⟩ := Fallible.except_bind_ok rest
  obtain ⟨buyingPower, readPower, rest⟩ := Fallible.except_bind_ok rest
  obtain ⟨cash, readCash, rest⟩ := Fallible.except_bind_ok rest
  cases rest
  obtain rfl := attributeGet_ok isObject
  refine ⟨data, decodeBody_ok decoded, ?_, rfl⟩
  dsimp only at enabled
  split at enabled
  · next blocked known =>
    rw [known]
    cases blocked with
    | true => cases enabled
    | false => rfl
  · cases enabled

theorem healthShown {seen : HealthTranscript}
    (shown : (vouching texts credentials).Shown texts seen) :
    HealthShown texts credentials seen := by
  obtain ⟨keys, -, ⟨found, ⟨body, answered, read⟩, active, enabled⟩, positions⟩ := shown
  obtain ⟨data, rfl, unblocked, status⟩ := account_ok read enabled
  exact ⟨keys, ⟨data, answered, unblocked, status ▸ active⟩, positions⟩

end Alpaca
end AlphaAgent.Brokers
