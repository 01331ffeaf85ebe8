import Courier.Attempt.State
import Courier.Error
import Courier.Message.Basic
import Courier.Retry.Policy

/-!
# Attempts

The delivery of one message to one handler, from its first try to its last. An attempt is the only
thing that changes the counters of a message: each try after a failure counts as a delivery, and each
failure as a retry. A move that the states do not allow changes nothing. A try that failed ends half way
if the policy breaks off, which happens between the two moves.
-/
namespace Courier

/-- What is to be done with a message once a try is over. -/
inductive NextAction
  | ack
  | retry (delay : Span)
  | exhaust
deriving DecidableEq

/-- The delivery of a message to a handler. -/
structure Attempt where
  requestId : String
  handlerId : String
  startedAt : Instant
  state : Attempt.State
  nextAction : Option NextAction
deriving DecidableEq

namespace Attempt

def new (m : Message) (handlerId : String) (startedAt : Instant) : Attempt :=
  ⟨m.requestId, handlerId, startedAt, .pending, none⟩

/-- Moves to a state, if the present one allows it. -/
def moveTo (a : Attempt) (next : State) : Except DeliveryError Attempt :=
  if a.state.canMoveTo next then .ok { a with state := next }
  else .error (.invalidTransition a.state next)

/-- Whether the next try follows a failure: the attempt itself failed before, or the message says so. -/
def isRedelivery (a : Attempt) (m : Message) : Bool :=
  a.state = .retryScheduled || (a.state = .pending && m.isRetry)

def begin (a : Attempt) (m : Message) (now : Instant) : Except DeliveryError (Attempt × Message) := do
  let started ← a.moveTo .delivering
  let m := if a.isRedelivery m then { m with deliverCount := bump m.deliverCount } else m
  return ({ started with startedAt := now, nextAction := none }, m)

def acknowledge (a : Attempt) : Except DeliveryError Attempt := do
  let acked ← a.moveTo .acked
  return { acked with nextAction := some .ack }

/-- Ends a try that failed, and asks the policy what follows. If the policy breaks off nothing follows:
the failure stands as it was counted. -/
def fail (a : Attempt) (m : Message) (policy : RetryPolicy) (draw : Float) :
    Except DeliveryError (Attempt × Message × Option NextAction) := do
  let failed ← a.moveTo .failed
  let m := { m with failRetryCount := bump m.failRetryCount }
  match policy.decide m.failRetryCount draw with
  | none => return (failed, m, none)
  | some (.retry delay) =>
    let waiting ← failed.moveTo .retryScheduled
    return ({ waiting with nextAction := some (.retry delay) }, { m with isRetry := true }, some (.retry delay))
  | some .exhaust =>
    let ended ← failed.moveTo .exhausted
    return ({ ended with nextAction := some .exhaust }, m, some .exhaust)

end Attempt
end Courier
