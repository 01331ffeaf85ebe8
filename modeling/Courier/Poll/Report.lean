import Courier.Json.Reader
import Courier.Json.Written

/-!
# Reports of polls

What one poll of the due store came to.
-/
namespace Courier

/-- The counts of one poll. -/
structure PollReport where
  /-- Entries that were due. -/
  fetched : Nat
  /-- Entries whose lock the poller got. -/
  claimed : Nat
  /-- Entries that someone else had locked. -/
  conflicts : Nat
  /-- Deliveries that the engine took. -/
  dispatched : Nat
  /-- Claimed entries that hold no message. -/
  malformed : Nat
  /-- Claimed entries that the engine did not take, or not for all handlers. -/
  deferred : Nat
deriving DecidableEq, Repr

namespace PollReport

/-- The report of a poll that did nothing. -/
def empty : PollReport := ⟨0, 0, 0, 0, 0, 0⟩

def names : List String := ["fetched", "claimed", "conflicts", "dispatched", "malformed", "deferred"]

def toValue (r : PollReport) : Json.Value :=
  .ofMembers (names.zip ([r.fetched, r.claimed, r.conflicts, r.dispatched, r.malformed, r.deferred].map
    Json.Value.ofNat))

def read : Json.Reader PollReport := fun v => do
  match ← (Json.numbersShape "struct PollReport" Json.size names).read v with
  | [a, b, c, d, e, f] => return ⟨a, b, c, d, e, f⟩
  | _ => throw .malformed

end PollReport
end Courier
