import Courier.Poll.Basic
import Courier.System.Basic

/-!
# Polling in a system

Pollers look at the due store of the system's broker and hand messages to its engine.
-/
namespace Courier.System

def withStore (s : System) (store : DueStore) : System := { s with broker := { s.broker with store } }

def claim (s : System) (e : DueEntry) (ttl : Span) : Option Bool × System :=
  let (result, store) := s.broker.store.claim e ttl s.count
  (result, s.withStore store)

def remove (s : System) (e : DueEntry) : Bool × System :=
  let (result, store) := s.broker.store.remove e
  (result, s.withStore store)

def surroundings : Surroundings System where
  isAccepting s := s.engine.isAccepting
  now := now
  fetch s instant limit := s.broker.store.fetch instant limit
  claim s e ttl :=
    let (result, s) := s.claim e ttl
    (result.map .ok, s)
  remove s e :=
    let (result, s) := s.remove e
    (.ok result, s)
  dispatch := dispatch

end Courier.System
