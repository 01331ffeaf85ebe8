import Courier.Engine.Basic
import Courier.Poll.Config
import Courier.Watchdog.Config

/-!
# Settings

All that can be set from outside, with what holds if nothing is said, what is allowed, and the parts
of the library that the settings make up. Times are whole seconds.
-/
namespace Courier

/-- All that can be set from outside. -/
structure Settings where
  retryMaxCount : UInt32
  retryBackoffSeconds : UInt64
  retryGrowth : Growth
  retryMaxDelaySeconds : UInt64
  retryJitter : Float
  retryRoute : RetryRoute
  pollIntervalSeconds : UInt64
  pollBatchSize : Nat
  lockTimeoutSeconds : UInt64
  healthCheckIntervalSeconds : UInt64
  lossThresholdSeconds : UInt64
  consumerCount : Nat
  workers : Nat
  maxPending : Nat
  shutdownTimeoutSeconds : UInt64
deriving BEq

namespace Settings

def standard : Settings where
  retryMaxCount := 3
  retryBackoffSeconds := 3
  retryGrowth := .fixed
  retryMaxDelaySeconds := 300
  retryJitter := 0.0
  retryRoute := .inProcess
  pollIntervalSeconds := 1
  pollBatchSize := 100
  lockTimeoutSeconds := 10
  healthCheckIntervalSeconds := 15
  lossThresholdSeconds := 60
  consumerCount := 2
  workers := 16
  maxPending := 1000000
  shutdownTimeoutSeconds := 30

instance : Inhabited Settings := ⟨standard⟩

/-! ## The parts that settings make up -/

def policy (s : Settings) : RetryPolicy :=
  ⟨s.retryMaxCount, .ofSeconds s.retryBackoffSeconds, .ofSeconds s.retryMaxDelaySeconds, s.retryJitter,
    s.retryGrowth⟩

def pool (s : Settings) : PoolConfig := ⟨s.workers, s.maxPending⟩

def poll (s : Settings) : PollConfig :=
  ⟨.ofSeconds s.pollIntervalSeconds, s.pollBatchSize, .ofSeconds s.lockTimeoutSeconds⟩

def watchdog (s : Settings) : WatchdogConfig :=
  ⟨.ofSeconds s.healthCheckIntervalSeconds, .ofSeconds s.lossThresholdSeconds⟩

/-- The settings of an engine. Retries can wait in a due store only if there is a broker. -/
def engine (s : Settings) (hasBroker : Bool) : Except DeliveryError EngineConfig :=
  if s.retryRoute = .delayStore ∧ hasBroker = false then
    .error (.configuration "retry_route delay_store requires a transport")
  else .ok ⟨s.policy, s.retryRoute, s.pool, .ofSeconds s.shutdownTimeoutSeconds⟩

/-- A handler's binding to a topic, with as many messages at once as is set. -/
def trigger (s : Settings) (topic : Topic) (handlerId : String) : Trigger :=
  (Trigger.new topic handlerId).withConcurrency s.consumerCount

/-! ## What is allowed -/

def refuse (why : String) : Except DeliveryError Unit := .error (.configuration why)

/-- Whether the settings can be worked with; the first that cannot is named. -/
def validate (s : Settings) : Except DeliveryError Unit :=
  if s.retryMaxCount = 0 then refuse "retry_max_count must be greater than 0"
  else if ¬ (0.0 ≤ s.retryJitter ∧ s.retryJitter ≤ 1.0) then
    refuse "retry_jitter_factor must be between 0.0 and 1.0"
  else if s.retryMaxDelaySeconds < s.retryBackoffSeconds then
    refuse "retry_max_delay_seconds cannot be below retry_backoff_seconds"
  else if s.pollIntervalSeconds = 0 then refuse "poll_interval_seconds must be greater than 0"
  else if s.healthCheckIntervalSeconds = 0 then
    refuse "health_check_interval_seconds must be greater than 0"
  else if s.consumerCount = 0 then refuse "consumer_count must be greater than 0"
  else if s.workers = 0 then refuse "executor_workers must be greater than 0"
  else if s.maxPending = 0 then refuse "executor_max_pending must be greater than 0"
  else s.poll.validate

end Settings
end Courier
