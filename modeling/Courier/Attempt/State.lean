/-!
# States of an attempt

The states that the delivery of one message to one handler goes through, and the moves between them.
-/
namespace Courier.Attempt

/-- Where the delivery of a message to a handler stands. -/
inductive State
  /-- Not yet handed to the handler. -/
  | pending
  /-- The handler is at work. -/
  | delivering
  /-- The handler is done with the message, or an interceptor took its place. -/
  | acked
  /-- The handler failed and nothing has been decided yet. -/
  | failed
  /-- Waiting for the next try. -/
  | retryScheduled
  /-- No tries are left. -/
  | exhausted
deriving DecidableEq, Repr

namespace State

/-- All states, in the order of a delivery. -/
def all : List State := [.pending, .delivering, .acked, .failed, .retryScheduled, .exhausted]

def text : State → String
  | .pending => "pending"
  | .delivering => "delivering"
  | .acked => "acked"
  | .failed => "failed"
  | .retryScheduled => "retry_scheduled"
  | .exhausted => "exhausted"

def isTerminal : State → Bool
  | .acked | .exhausted => true
  | _ => false

/-- Whether a delivery may move from a state to another one. -/
def canMoveTo : State → State → Bool
  | .pending, .delivering => true
  | .retryScheduled, .delivering => true
  | .delivering, .acked => true
  | .delivering, .failed => true
  | .failed, .retryScheduled => true
  | .failed, .exhausted => true
  | _, _ => false

end State
end Courier.Attempt
