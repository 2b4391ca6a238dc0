import AlphaAgent.Api.Auth
import AlphaAgent.Services.AuditChain

/-!
# The routes of the system state

`app/api/routes/system.py`. Each request is served under the settings of its time
by a service instance with settings of its own. What a run of requests leaves in
the tables is what the permitted ones leave, in their order.
-/

namespace AlphaAgent.Api

open Services

inductive SystemEndpoint where
  | systemStatus
  | killSwitchOn
  | killSwitchOff
  | getMode
  | setMode (tradingMode : TradingMode)
deriving DecidableEq

/-- The endpoints with `Depends(require_control_auth)`. -/
def SystemEndpoint.controlled : SystemEndpoint → Bool
  | .systemStatus | .getMode => false
  | .killSwitchOn | .killSwitchOff | .setMode _ => true

/-- What an endpoint asks of the service. -/
def SystemEndpoint.operation : SystemEndpoint → ServiceOperation
  | .systemStatus | .getMode => .getState
  | .killSwitchOn => .enableKillSwitch
  | .killSwitchOff => .disableKillSwitch
  | .setMode tradingMode => .setMode tradingMode

/-- What `get_settings()` gives a request. -/
structure ApiSettings extends ServiceSettings, ControlSettings where
  appName : String := "Sandy-Trading-AI"

/-- A request, with the settings of its time, the settings of the service instance
which answers it, the id a new row would have, and what fails in the database. -/
structure SystemRequest where
  endpoint : SystemEndpoint
  headers : ControlHeaders := {}
  settings : ApiSettings
  service : ServiceSettings
  newId : String := "row"
  faults : DatabaseFaults := {}

/-- The body of a response. -/
inductive SystemReply where
  | status (appName : String) (state : SystemStateSnapshot) (safetyErrors : List String)
  | killSwitch (killSwitch : Bool)
  | mode (tradingMode : TradingMode)
deriving DecidableEq

/-- The body which an endpoint makes of the state. -/
def SystemRequest.reply (request : SystemRequest) (state : SystemStateSnapshot) : SystemReply :=
  match request.endpoint with
  | .systemStatus =>
    .status request.settings.appName state request.settings.toServiceSettings.liveModeSafetyErrors
  | .killSwitchOn | .killSwitchOff => .killSwitch state.killSwitch
  | .getMode | .setMode _ => .mode state.tradingMode

/-- What an endpoint makes of an exception: only `set_mode` catches a rejection. -/
def SystemRequest.failure (request : SystemRequest) (raised : RaisedError) : Failure :=
  match request.endpoint with
  | .setMode _ =>
    if raised.errorType = "RiskRejectedError" then .http 409 raised.message else .unhandled raised
  | _ => .unhandled raised

namespace SystemRequest

/-- The call which a request makes of the service. -/
def call (request : SystemRequest) : ServiceCall where
  settings := request.service
  operation := request.endpoint.operation
  newId := request.newId
  faults := request.faults

/-- An endpoint behind its guard. -/
def handle (request : SystemRequest) (database : Database) :
    Except Failure SystemReply × Database :=
  ((request.call.reported database).mapError request.failure |>.map request.reply,
    request.call.next database)

/-- What the guard of an endpoint says. -/
def guarded (request : SystemRequest) : Except Failure Unit :=
  if request.endpoint.controlled then
    requireControlAuth request.settings.toControlSettings request.headers
  else .ok ()

def serve (request : SystemRequest) (database : Database) :
    Except Failure SystemReply × Database :=
  match request.guarded with
  | .error failure => (.error failure, database)
  | .ok () => request.handle database

end SystemRequest

/-- Requests one after the other, with their responses. -/
def serveAll : List SystemRequest → Database → List (Except Failure SystemReply) × Database
  | [], database => ([], database)
  | request :: rest, database =>
    let (response, next) := request.serve database
    let (responses, last) := serveAll rest next
    (response :: responses, last)

/-- A request which reads, or is permitted to write. -/
def Admitted (request : SystemRequest) : Prop :=
  request.endpoint.controlled = true →
    Permitted request.settings.toControlSettings request.headers

instance : DecidablePred Admitted := fun request =>
  inferInstanceAs (Decidable (request.endpoint.controlled = true → _))

namespace SystemRequest

variable {request : SystemRequest}

theorem guarded_iff : request.guarded = .ok () ↔ Admitted request := by
  unfold guarded Admitted
  split_ifs with controlled
  · rw [requireControlAuth_iff, forall_prop_of_true controlled]
  · exact iff_of_true rfl fun holds => absurd holds controlled

theorem serve_admitted (admitted : Admitted request) (database : Database) :
    request.serve database = request.handle database := by
  unfold serve
  rw [guarded_iff.mpr admitted]

/-- A request which is not admitted is told so, and nothing else happens. -/
theorem serve_refused (refused : ¬Admitted request) (database : Database) :
    ∃ failure, request.serve database = (.error failure, database) ∧
      failure.statusCode ∈ [401, 500, 503] := by
  unfold serve
  cases answered : request.guarded with
  | ok value => exact absurd (guarded_iff.mp answered) refused
  | error failure =>
    refine ⟨failure, rfl, ?_⟩
    unfold guarded at answered
    split_ifs at answered
    exact refused_status answered

end SystemRequest

/-- Over every run of requests: the tables become what the calls of the admitted
requests make of them; each other request is refused; and the admitted ones are
answered as they would be without the others. -/
theorem serveAll_admitted (requests : List SystemRequest) (database : Database) :
    (serveAll requests database).2 =
        ((requests.filter Admitted).map SystemRequest.call).foldl ServiceCall.next database ∧
      List.Forall₂ (fun request response => ¬Admitted request → ∃ failure,
          response = .error failure ∧ failure.statusCode ∈ [401, 500, 503])
        requests (serveAll requests database).1 ∧
      ((requests.zip (serveAll requests database).1).filter (Admitted ·.1)).map Prod.snd =
        (serveAll (requests.filter Admitted) database).1 := by
  induction requests generalizing database with
  | nil => exact ⟨rfl, .nil, rfl⟩
  | cons request rest ih =>
    by_cases admitted : Admitted request
    · have served := SystemRequest.serve_admitted admitted database
      obtain ⟨tables, refused, alike⟩ := ih (request.handle database).2
      rw [List.filter_cons_of_pos (by simpa using admitted), serveAll, serveAll, served]
      refine ⟨tables, .cons (fun other => absurd admitted other) refused, ?_⟩
      rw [List.zip_cons_cons, List.filter_cons_of_pos (by simpa using admitted), List.map_cons,
        alike]
    · obtain ⟨failure, served, told⟩ := SystemRequest.serve_refused admitted database
      obtain ⟨tables, refused, alike⟩ := ih database
      rw [List.filter_cons_of_neg (by simpa using admitted), serveAll, served]
      refine ⟨tables, .cons (fun _ => ⟨failure, rfl, told⟩) refused, ?_⟩
      rw [List.zip_cons_cons, List.filter_cons_of_neg (by simpa using admitted)]
      exact alike

end AlphaAgent.Api
