import Courier.Error
import Courier.Message.Basic
import Courier.Table

/-!
# Triggers

A trigger binds a handler to a topic. The registry finds triggers by topic, in the order in which they
were registered, and by handler; a handler is registered once.
-/
namespace Courier

/-- A handler's binding to a topic. -/
structure Trigger where
  topic : Topic
  handlerId : String
  /-- How many messages the handler works on at once. -/
  concurrency : Nat
  /-- Whether someone is called when a message has no tries left. -/
  hasFailCallback : Bool
deriving DecidableEq

namespace Trigger

/-- How many messages a handler works on at once if nothing is said. -/
def standardConcurrency : Nat := 2

def new (topic : Topic) (handlerId : String) : Trigger :=
  ⟨topic, handlerId, standardConcurrency, false⟩

/-- Sets how many messages the handler works on at once; one at least. -/
def withConcurrency (t : Trigger) (concurrency : Nat) : Trigger :=
  { t with concurrency := max concurrency 1 }

/-- Has someone called when a message has no tries left. -/
def withFailCallback (t : Trigger) : Trigger := { t with hasFailCallback := true }

end Trigger

/-- The triggers of an engine, by topic and by handler. -/
structure Registry where
  byTopic : Table Topic (List Trigger)
  byHandler : Table String Trigger

namespace Registry

def empty : Registry := ⟨.empty, .empty⟩

instance : Inhabited Registry := ⟨empty⟩

/-- The triggers of a topic, in the order of registration. -/
def triggersFor (r : Registry) (topic : Topic) : List Trigger := (r.byTopic.get? topic).getD []

def find (r : Registry) (handlerId : String) : Option Trigger := r.byHandler.get? handlerId

def size (r : Registry) : Nat := r.byHandler.size

def isEmpty (r : Registry) : Bool := r.size = 0

/-- Adds a trigger, unless its handler has one. -/
def register (r : Registry) (t : Trigger) : Except DeliveryError Registry :=
  if r.byHandler.contains t.handlerId then
    .error (.configuration ("handler " ++ t.handlerId ++ " registered twice"))
  else
    .ok ⟨r.byTopic.insert t.topic (r.triggersFor t.topic ++ [t]), r.byHandler.insert t.handlerId t⟩

end Registry
end Courier
