import Courier.Engine.Registry
import Courier.Event.Basic

/-!
# Deliveries

A delivery brings one message to one handler, in as many tries as its policy allows. A try asks the
interceptors in order, calls the handler unless an interceptor takes its place, and ends in an
acknowledgement or a failure. What a try lets others know is a list of calls, in the order they are
made.
-/
namespace Courier

/-- What an interceptor decides before the handler is called. -/
inductive Interception
  /-- The next interceptor is asked, or the handler is called. -/
  | proceed
  /-- The message counts as handled. -/
  | shortCircuit
  /-- The interceptor breaks off, and the try with it. -/
  | crash
deriving DecidableEq, Repr

/-- What the interceptors decide on a message. Interceptors are known by their place. -/
abbrev Decisions := Nat → Message → Interception

/-- A call that is made for a delivery. -/
inductive DeliveryCall
  | event (e : Event)
  | before (place : Nat) (m : Message)
  | handler (m : Message)
  | after (place : Nat) (m : Message)
  | failCallback (m : Message) (error : HandlerError)
deriving DecidableEq

/-- What a handler broke off with. -/
inductive Breakdown
  | text (reason : String)
  | other

/-- A handler that breaks off counts as one that failed. -/
def HandlerError.ofBreakdown : Breakdown → HandlerError
  | .text reason => ⟨"handler panicked: " ++ reason⟩
  | .other => ⟨"handler panicked: unknown panic"⟩

/-- A message on its way to a handler. -/
structure Delivery where
  /-- The number of the delivery. Its retries keep it. -/
  serial : Nat
  message : Message
  trigger : Trigger
  attempt : Attempt
deriving DecidableEq

namespace Delivery

/-- The decision of some number of interceptors, the first of them in the given place: that of the
first one that does not let the message pass. -/
def consult (decide : Decisions) (m : Message) : Nat → Nat → List DeliveryCall × Interception
  | _, 0 => ([], .proceed)
  | place, later + 1 =>
    match decide place m with
    | .proceed =>
      let (calls, decision) := consult decide m (place + 1) later
      (.before place m :: calls, decision)
    | decision => ([.before place m], decision)

/-- Starts a try: says so, and asks the interceptors. -/
def start (d : Delivery) (interceptors : Nat) (decide : Decisions) (now : Instant) :
    Except DeliveryError (Delivery × List DeliveryCall × Interception) := do
  let (attempt, message) ← d.attempt.begin d.message now
  let (calls, decision) := consult decide message 0 interceptors
  return ({ d with attempt, message },
    .event (.attemptStarted (attempt.context message)) :: calls, decision)

/-- Ends a try with an acknowledgement. All interceptors are told. -/
def acknowledge (d : Delivery) (interceptors : Nat) (shortCircuited : Bool) :
    Except DeliveryError (Delivery × List DeliveryCall) := do
  let attempt ← d.attempt.acknowledge
  let told := (List.range interceptors).map (fun place => .after place d.message)
  return ({ d with attempt }, told ++ [.event (.acked (attempt.context d.message) shortCircuited)])

/-- A span in whole milliseconds, as far as 64 bits go. -/
def millisCapped (s : Span) : UInt64 := (min s.millis 0xFFFFFFFFFFFFFFFF).toUInt64

/-- Ends a try with a failure. What follows is told; after the last try also to whom it may concern. If
the policy breaks off, nobody is told. -/
def fail (d : Delivery) (error : HandlerError) (policy : RetryPolicy) (draw : Float) :
    Except DeliveryError (Delivery × List DeliveryCall × Option NextAction) := do
  let (attempt, message, action) ← d.attempt.fail d.message policy draw
  let context := attempt.context message
  let calls : List DeliveryCall := match action with
    | none | some .ack => []
    | some (.retry delay) => [.event (.retryScheduled context error.message (millisCapped delay))]
    | some .exhaust =>
      .event (.exhausted context error.message) ::
        if d.trigger.hasFailCallback then [.failCallback message error] else []
  return ({ d with attempt, message }, calls, action)

/-- The delivery as it waits for its next try. Its message is for no handler in particular. -/
def waiting (d : Delivery) : Delivery := { d with message := { d.message with targetHandler := none } }

/-- The message of a delivery as it waits elsewhere: for its handler only. -/
def addressed (d : Delivery) : Message :=
  { d.message with targetHandler := some d.trigger.handlerId }

end Delivery
end Courier
