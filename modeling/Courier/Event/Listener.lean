import Courier.Event.Basic

/-!
# Listeners

Who is told about events: a recorder that keeps them, one that ignores them, or a group that passes
each event on to all its members. Groups may be nested and a recorder may be a member of several.
-/
namespace Courier

/-- Someone who is told about events. Recorders are known by their number. -/
inductive Listener
  | recorder (id : Nat)
  | deaf
  | group (members : List Listener)

namespace Listener

/-- How many listeners an event is passed on to directly. -/
def subscriberCount : Listener → Nat
  | .group members => members.length
  | _ => 0

mutual

/-- The recorders that an event reaches, one entry for each way it gets there. -/
def reached : Listener → List Nat
  | .recorder id => [id]
  | .deaf => []
  | .group members => reachedIn members

/-- The recorders that the members of a group reach. -/
def reachedIn : List Listener → List Nat
  | [] => []
  | l :: rest => l.reached ++ reachedIn rest

end

/-- What the recorders are told, in order, when events come one after the other. -/
def tell (l : Listener) (events : List Event) : List (Nat × Event) :=
  events.flatMap (fun e => l.reached.map (fun id => (id, e)))

def heardBy (id : Nat) (told : List (Nat × Event)) : List Event :=
  (told.filter (fun p => p.1 == id)).map Prod.snd

end Listener
end Courier
