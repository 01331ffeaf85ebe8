import Courier.Json.Reader
import Courier.Json.Written

/-!
# Counts of an engine

What an engine has done so far, as it is reported.
-/
namespace Courier

/-- What an engine has done. -/
structure Stats where
  /-- Deliveries accepted, retries aside. -/
  dispatched : Nat
  /-- Tries acknowledged. -/
  acked : Nat
  /-- Tries in which an interceptor took the handler's place. -/
  shortCircuited : Nat
  /-- Calls of a handler that failed. -/
  failedAttempts : Nat
  /-- Failures that led to another try. -/
  retriesScheduled : Nat
  /-- Failures without another try. -/
  exhausted : Nat
  /-- Retries that wait on a timer. -/
  pendingRetries : Nat
  /-- Retries that the pool turned away and that wait again. -/
  deferredRetries : Nat
deriving DecidableEq, Repr

namespace Stats

def names : List String :=
  ["dispatched", "acked", "short_circuited", "failed_attempts", "retries_scheduled", "exhausted",
    "pending_retries", "deferred_retries"]

def toList (s : Stats) : List Nat :=
  [s.dispatched, s.acked, s.shortCircuited, s.failedAttempts, s.retriesScheduled, s.exhausted,
    s.pendingRetries, s.deferredRetries]

def toValue (s : Stats) : Json.Value :=
  .ofMembers (names.zip (s.toList.map Json.Value.ofNat))

def read : Json.Reader Stats := fun v => do
  match ← (Json.numbersShape "struct EngineStats" (Json.natural 0x10000000000000000 "u64") names).read v with
  | [a, b, c, d, e, f, g, h] => return ⟨a, b, c, d, e, f, g, h⟩
  | _ => throw .malformed

end Stats
end Courier
