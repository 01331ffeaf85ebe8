import Courier.Settings.Basic

/-!
# Settings as records

The written form of settings. A setting that is missing has its standard value.
-/
namespace Courier

open Json (Value Reader freeField)

/-- The names of the places where retries wait. -/
def RetryRoute.named : List (String × RetryRoute) :=
  [("in_process", .inProcess), ("delay_store", .delayStore)]

/-- The name of a place where retries wait. -/
def RetryRoute.text : RetryRoute → String
  | .inProcess => "in_process"
  | .delayStore => "delay_store"

namespace Settings

def toValue (s : Settings) : Value :=
  .ofMembers [("retry_max_count", .ofNat s.retryMaxCount.toNat),
    ("retry_backoff_seconds", .ofNat s.retryBackoffSeconds.toNat),
    ("retry_strategy", .ofString s.retryGrowth.text),
    ("retry_max_delay_seconds", .ofNat s.retryMaxDelaySeconds.toNat),
    ("retry_jitter_factor", .ofFloat s.retryJitter),
    ("retry_route", .ofString s.retryRoute.text),
    ("poll_interval_seconds", .ofNat s.pollIntervalSeconds.toNat),
    ("poll_batch_size", .ofNat s.pollBatchSize),
    ("delay_lock_timeout_seconds", .ofNat s.lockTimeoutSeconds.toNat),
    ("health_check_interval_seconds", .ofNat s.healthCheckIntervalSeconds.toNat),
    ("connection_loss_threshold_seconds", .ofNat s.lossThresholdSeconds.toNat),
    ("consumer_count", .ofNat s.consumerCount),
    ("executor_workers", .ofNat s.workers),
    ("executor_max_pending", .ofNat s.maxPending),
    ("shutdown_timeout_seconds", .ofNat s.shutdownTimeoutSeconds.toNat)]

/-- Settings being read: their values so far, and the names of those that were given. -/
structure Draft where
  settings : Settings
  given : List String

def inRecord {α : Type} (name : String) (read : Reader α) (set : α → Settings → Settings) :
    Json.Field Draft where
  name := name
  mayLack := true
  isSet d := d.given.contains name
  read v d := do return ⟨set (← read v) d.settings, name :: d.given⟩

def shape : Json.Shape Draft Settings where
  title := "struct HeraldConfig"
  listTitle := Json.listTitle "struct HeraldConfig" 15
  empty := ⟨standard, []⟩
  fields := [
    inRecord "retry_max_count" Json.word (fun a s => { s with retryMaxCount := a }),
    inRecord "retry_backoff_seconds" Json.longWord (fun a s => { s with retryBackoffSeconds := a }),
    inRecord "retry_strategy" (Json.variant Growth.named) (fun a s => { s with retryGrowth := a }),
    inRecord "retry_max_delay_seconds" Json.longWord (fun a s => { s with retryMaxDelaySeconds := a }),
    inRecord "retry_jitter_factor" Json.float (fun a s => { s with retryJitter := a }),
    inRecord "retry_route" (Json.variant RetryRoute.named) (fun a s => { s with retryRoute := a }),
    inRecord "poll_interval_seconds" Json.longWord (fun a s => { s with pollIntervalSeconds := a }),
    inRecord "poll_batch_size" Json.size (fun a s => { s with pollBatchSize := a }),
    inRecord "delay_lock_timeout_seconds" Json.longWord (fun a s => { s with lockTimeoutSeconds := a }),
    inRecord "health_check_interval_seconds" Json.longWord
      (fun a s => { s with healthCheckIntervalSeconds := a }),
    inRecord "connection_loss_threshold_seconds" Json.longWord
      (fun a s => { s with lossThresholdSeconds := a }),
    inRecord "consumer_count" Json.size (fun a s => { s with consumerCount := a }),
    inRecord "executor_workers" Json.size (fun a s => { s with workers := a }),
    inRecord "executor_max_pending" Json.size (fun a s => { s with maxPending := a }),
    inRecord "shutdown_timeout_seconds" Json.longWord
      (fun a s => { s with shutdownTimeoutSeconds := a })]
  strict := false
  make d := .ok d.settings

end Settings
end Courier
