import Courier.Instant.Basic

/-!
# Messages

A message travels in an envelope that says who sent it when, on which topic, how often it has been
delivered, and when it may be delivered first. The counters stop at their largest value.
-/
namespace Courier

/-- A stream of messages: a service and a code within the service. -/
structure Topic where
  service : String
  code : String
deriving DecidableEq, Repr

namespace Topic

def text (t : Topic) : String := t.service ++ ":" ++ t.code

/-- Topics are ordered by service, then by code. -/
def order (a b : Topic) : Ordering := (compare a.service b.service).then (compare a.code b.code)

end Topic

/-- When a message may be delivered. -/
inductive Dispatch
  /-- At once. -/
  | timely
  /-- A number of seconds after it was sent. -/
  | delayed (seconds : UInt64)
deriving DecidableEq

/-- A message in its envelope. -/
structure Message where
  requestId : String
  topic : Topic
  body : List UInt8
  /-- Attempts so far, the present one included. -/
  deliverCount : UInt32
  /-- How often a poller saw the message before it could be claimed. -/
  pollingCount : UInt32
  /-- Failures so far. -/
  failRetryCount : UInt32
  /-- Whether a failure came before this delivery. -/
  isRetry : Bool
  dispatch : Dispatch
  createdAt : Instant
  /-- The only handler that is to see the message, if it is not for all. -/
  targetHandler : Option String
deriving DecidableEq

/-- A counter one higher, unless it is at its largest value. -/
def bump (n : UInt32) : UInt32 := if n = 0xFFFFFFFF then n else n + 1

/-- A counter higher by some number, but no higher than its largest value. -/
def raise (n count : UInt32) : UInt32 := if n.toNat + count.toNat < 0x100000000 then n + count else 0xFFFFFFFF

theorem toNat_bump (n : UInt32) : (bump n).toNat = min (n.toNat + 1) 0xFFFFFFFF := by
  unfold bump
  have small := n.toNat_lt
  by_cases full : n = 0xFFFFFFFF
  · subst full; rfl
  · have different : n.toNat ≠ 0xFFFFFFFF := fun h => full (UInt32.toNat_inj.mp h)
    rw [if_neg full, UInt32.toNat_add]
    have one : (1 : UInt32).toNat = 1 := rfl
    omega

theorem toNat_raise (n m : UInt32) : (raise n m).toNat = min (n.toNat + m.toNat) 0xFFFFFFFF := by
  unfold raise
  by_cases fits : n.toNat + m.toNat < 0x100000000
  · rw [if_pos fits, UInt32.toNat_add]; omega
  · rw [if_neg fits]
    have top : (0xFFFFFFFF : UInt32).toNat = 0xFFFFFFFF := rfl
    omega

theorem raise_eq_self_iff {n m : UInt32} : raise n m = n ↔ n = 0xFFFFFFFF ∨ m = 0 := by
  have small := n.toNat_lt
  have top : (0xFFFFFFFF : UInt32).toNat = 0xFFFFFFFF := rfl
  have zero : (0 : UInt32).toNat = 0 := rfl
  rw [← UInt32.toNat_inj, ← UInt32.toNat_inj, ← UInt32.toNat_inj, toNat_raise]
  omega

namespace Message

/-- A message as its sender makes it: for its first delivery, and due at once. -/
def new (requestId : String) (topic : Topic) (body : List UInt8) (createdAt : Instant) : Message where
  requestId := requestId
  topic := topic
  body := body
  deliverCount := 1
  pollingCount := 0
  failRetryCount := 0
  isRetry := false
  dispatch := .timely
  createdAt := createdAt
  targetHandler := none

/-- Whether the message waits before its first delivery. -/
def isDelayed (m : Message) : Bool :=
  match m.dispatch with
  | .timely => false
  | .delayed _ => true

/-- The first instant at which the message may be delivered. -/
def dueAt (m : Message) : Instant :=
  match m.dispatch with
  | .timely => m.createdAt
  | .delayed seconds => m.createdAt.later (.ofSeconds seconds)

end Message
end Courier
