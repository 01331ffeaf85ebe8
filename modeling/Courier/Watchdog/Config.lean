import Courier.Span.Record

/-!
# The size of a watchdog

How often a watchdog looks, and how long a loss has to last before it acts.
-/
namespace Courier

open Json (Value field need)

/-- How a watchdog looks at a connection. -/
structure WatchdogConfig where
  checkInterval : Span
  lossThreshold : Span
deriving DecidableEq

namespace WatchdogConfig

/-- A look every fifteen seconds, and a minute until a loss counts. -/
def standard : WatchdogConfig := ⟨.ofSeconds 15, .ofSeconds 60⟩

def toValue (c : WatchdogConfig) : Value :=
  .ofMembers [("check_interval", c.checkInterval.toValue), ("loss_threshold", c.lossThreshold.toValue)]

/-- The two spans being read. -/
structure Draft where
  checkInterval : Option Span
  lossThreshold : Option Span

def shape : Json.Shape Draft WatchdogConfig where
  title := "struct WatchdogConfig"
  listTitle := Json.listTitle "struct WatchdogConfig" 2
  empty := ⟨none, none⟩
  fields := [
    field "check_interval" Span.shape.read Draft.checkInterval
      (fun a d => { d with checkInterval := some a }),
    field "loss_threshold" Span.shape.read Draft.lossThreshold
      (fun a d => { d with lossThreshold := some a })]
  strict := false
  make d := do
    let checkInterval ← need "check_interval" d.checkInterval
    let lossThreshold ← need "loss_threshold" d.lossThreshold
    return ⟨checkInterval, lossThreshold⟩

end WatchdogConfig
end Courier
