import AlphaAgent.Brokers.HealthShown

/-!
# Broker statuses

`BrokerService.statuses` checks both brokers and keeps the list for 30 seconds. The
service is one object which all requests share, so its calls interleave.
-/

namespace AlphaAgent.Services

open Foundation Brokers

/-- What the brokers of the service are made of. -/
structure BrokerService where
  texts : HealthTexts
  zerodha : Zerodha.Keys
  alpaca : AlpacaCredentials

namespace BrokerService

variable (service : BrokerService)

/-- `cache_ttl`, in microseconds. -/
def cacheTtl : ℕ := 30 * 1000000

/-- Both brokers are checked, in their order. -/
def refresh : Program (TimedReply HealthReply) (List CheckedBrokerHealth) := do
  let india ← BrokerHealthChecker.check service.texts
    (Zerodha.broker service.texts service.zerodha) .india
  let us ← BrokerHealthChecker.check service.texts
    (Alpaca.broker service.texts service.alpaca) .us
  return [india, us]

/-- `statuses`, as one of the calls of the service. -/
def statuses (forceRefresh : Bool) (call : ℕ) :
    Program (KeptReply HealthReply (List CheckedBrokerHealth))
      (Option (List CheckedBrokerHealth)) :=
  serveKept cacheTtl service.refresh forceRefresh call

end BrokerService

/-- A health is the result of the check of its broker within a refresh: it is dated between
the start of the refresh and its store. The broker is healthy for live exactly when there
is no reason against it, and only when the refresh was shown what this takes. -/
structure Vouched (brokerName : BrokerName) (market : Market) (shown : HealthTranscript → Prop)
    (health : CheckedBrokerHealth)
    (stored : Stored HealthReply (List CheckedBrokerHealth)) : Prop where
  brokerName : health.brokerName = brokerName
  market : health.market = market
  dated : stored.started ≤ health.lastCheckedAt ∧ health.lastCheckedAt ≤ stored.storedAt
  reasons : health.isHealthyForLive = true ↔ health.rejectionReasons = []
  shown : health.isHealthyForLive = true → shown stored.seen

/-- The list of a refresh, with what its transcript shows of both brokers. -/
def RefreshReported (service : BrokerService) (healths : List CheckedBrokerHealth)
    (seen : HealthTranscript) : Prop :=
  ∃ india us, healths = [india, us] ∧
    Reported (Zerodha.vouching service.texts service.zerodha) service.texts .india india seen ∧
    Reported (Alpaca.vouching service.texts service.alpaca) service.texts .us us seen

variable {service : BrokerService}

theorem refresh_reported (service : BrokerService) :
    service.refresh.Meets (transcript (TimedReply HealthReply)) (RefreshReported service) [] := by
  apply Program.Meets.bind
  refine (BrokerHealthChecker.check_reported
    (Zerodha.vouching service.texts service.zerodha) []).mono ?_
  intro india between reported
  apply Program.Meets.bind
  refine ((BrokerHealthChecker.check_reported (Alpaca.vouching service.texts service.alpaca)
    between).remembers (grows_reported _) reported).mono ?_
  rintro us seen ⟨later, still⟩
  exact ⟨india, us, rfl, still, later⟩

theorem vouched_of_reported {broker : CheckedBroker} {vouching : Vouching broker}
    {market : Market} {health : CheckedBrokerHealth} {shown : HealthTranscript → Prop}
    {checked : List CheckedBrokerHealth → HealthTranscript → Prop}
    {stored : Stored HealthReply (List CheckedBrokerHealth)} (sound : stored.Sound checked)
    (reported : Reported vouching service.texts market health stored.seen)
    (implies : vouching.Shown service.texts stored.seen → shown stored.seen) :
    Vouched broker.brokerName market shown health stored where
  brokerName := reported.brokerName
  market := reported.market
  dated := sound.timed _ reported.dated
  reasons := reported.reasons
  shown := fun healthy => implies (reported.shown healthy)

/-- However the calls of the broker service interleave, each serves the two healths of one
refresh, which was stored at most 30 seconds before the call started, and not before it
when the call forces a refresh. Each health was made by its check within that refresh, and
only what the broker answered there makes it healthy for live. -/
theorem interleaved_statuses (service : BrokerService) (calls : List Bool) (clock : ℤ)
    (schedule : List (ℕ × Surroundings HealthReply)) :
    Throughout (Watched.turn shelfPerformer KeptLog.observe)
      (fun watched => ∀ answered ∈ watched.monitor.answers,
        ∃ stored ∈ watched.monitor.stores, ∃ india us,
          answered.value = some [india, us] ∧
          YoungFor BrokerService.cacheTtl (calls.getD answered.call false) answered.started
            stored.storedAt ∧
          Vouched .zerodha .india (Zerodha.HealthShown service.zerodha) india stored ∧
          Vouched .alpaca .us (Alpaca.HealthShown service.texts service.alpaca) us stored)
      (startServing BrokerService.cacheTtl service.refresh calls clock) schedule := by
  refine (interleaved_served (refresh_reported service) calls clock schedule).mono ?_
  intro watched served answered member
  obtain ⟨stored, kept, sound, value, young⟩ := served answered member
  obtain ⟨india, us, listed, first, second⟩ := sound.checked
  exact ⟨stored, kept, india, us, listed ▸ value, young,
    vouched_of_reported sound first Zerodha.healthShown,
    vouched_of_reported sound second Alpaca.healthShown⟩

end AlphaAgent.Services
