import Courier.Store.Basic

/-!
# The broker

The broker hands timely messages to a receiver, first come, first served, and keeps delayed ones in a
due store. A message may also be published with a delay of its own, whatever its envelope says. The
broker can be made to refuse messages.
-/
namespace Courier

/-- A receiver's queue and a due store. -/
structure Broker where
  store : DueStore
  /-- Published and not received yet, the oldest first. -/
  timely : List Message
  /-- Whether there is nobody left to receive. -/
  receiverGone : Bool
  /-- What every publication fails with, if it does. -/
  publishError : Option String
  /-- How many messages were kept for later. -/
  delayedPublishes : Nat

namespace Broker

def empty : Broker := ⟨.empty, [], false, none, 0⟩

instance : Inhabited Broker := ⟨empty⟩

def refusal (m : Message) (why : String) : TransportError := .publish m.topic.text why

def keep (b : Broker) (m : Message) (dueAt : Instant) : Broker :=
  { b with store := b.store.schedule m dueAt, delayedPublishes := b.delayedPublishes + 1 }

def publish (b : Broker) (m : Message) : Except TransportError Unit × Broker :=
  match b.publishError with
  | some why => (.error (refusal m why), b)
  | none =>
    if m.isDelayed then (.ok (), b.keep m m.dueAt)
    else if b.receiverGone then (.error (refusal m "receiver dropped"), b)
    else (.ok (), { b with timely := b.timely ++ [m] })

/-- The longest delay in seconds that fits 63 bits in milliseconds. -/
def longestDelay : UInt64 := 9223372036854775

/-- Publishes a message with a delay of its own. It breaks off if the delay is too long to count. -/
def publishDelayed (b : Broker) (m : Message) (seconds : UInt64) (now : Instant) :
    Option (Except TransportError Unit) × Broker :=
  match b.publishError with
  | some why => (some (.error (refusal m why)), b)
  | none =>
    if longestDelay < seconds then (none, b)
    else (some (.ok ()), b.keep m (now.later (.ofSeconds seconds)))

def receive (b : Broker) : Option Message × Broker :=
  (b.timely.head?, { b with timely := b.timely.tail })

/-- The receiver leaves, and with it what it has not received. -/
def dropReceiver (b : Broker) : Broker := { b with timely := [], receiverGone := true }

def failPublishes (b : Broker) (message : Option String) : Broker := { b with publishError := message }

end Broker
end Courier
