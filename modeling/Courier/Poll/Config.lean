import Courier.Error
import Courier.Span.Record

/-!
# The settings of a poller

How often a poller looks at the due store, how many entries it takes at a time, and how long it locks
them. A lock has to outlast the pause between two polls.
-/
namespace Courier

open Json (Value field need)

/-- The settings of a poller. -/
structure PollConfig where
  interval : Span
  batchSize : Nat
  lockTimeout : Span
deriving DecidableEq

namespace PollConfig

/-- A poll every second of a hundred entries, locked for ten seconds. -/
def standard : PollConfig := ⟨.ofSeconds 1, 100, .ofSeconds 10⟩

/-- Whether a poller can work with the settings. -/
def validate (c : PollConfig) : Except DeliveryError Unit :=
  if c.lockTimeout ≤ c.interval then
    .error (.configuration ("delay lock timeout " ++ c.lockTimeout.text ++
      " must exceed poll interval " ++ c.interval.text))
  else if c.batchSize = 0 then .error (.configuration "poll batch size must be positive")
  else .ok ()

def toValue (c : PollConfig) : Value :=
  .ofMembers [("poll_interval", c.interval.toValue), ("batch_size", .ofNat c.batchSize),
    ("lock_timeout", c.lockTimeout.toValue)]

/-- Settings being read. -/
structure Draft where
  interval : Option Span
  batchSize : Option Nat
  lockTimeout : Option Span

def shape : Json.Shape Draft PollConfig where
  title := "struct SchedulerConfig"
  listTitle := Json.listTitle "struct SchedulerConfig" 3
  empty := ⟨none, none, none⟩
  fields := [
    field "poll_interval" Span.shape.read Draft.interval (fun a d => { d with interval := some a }),
    field "batch_size" Json.size Draft.batchSize (fun a d => { d with batchSize := some a }),
    field "lock_timeout" Span.shape.read Draft.lockTimeout
      (fun a d => { d with lockTimeout := some a })]
  strict := false
  make d := do
    let interval ← need "poll_interval" d.interval
    let batchSize ← need "batch_size" d.batchSize
    let lockTimeout ← need "lock_timeout" d.lockTimeout
    return ⟨interval, batchSize, lockTimeout⟩

end PollConfig
end Courier
