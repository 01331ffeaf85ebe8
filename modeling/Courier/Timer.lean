import Courier.Span

/-!
# Timers

Timers count whole milliseconds: a sleep ends at the first one that is not before its deadline. A
condition that is waited for is looked at every five milliseconds, and given up after the first look
in vain at or after the deadline.
-/
namespace Courier.Timer

/-- The nanosecond at which a sleep ends that begins at a given one. -/
def wakesAt (now : Nat) (s : Span) : Nat := (now + s.nanos + 999999) / 1000000 * 1000000

/-- The pause between two looks at a condition. -/
def pause : Span := .ofMillis 5

/-- How waiting for a condition ended. -/
structure Waited where
  /-- Whether the condition held at the last look. -/
  held : Bool
  /-- How often the condition was looked at. -/
  looks : Nat
  /-- Nanoseconds from the first look to the last. -/
  nanos : Nat
deriving DecidableEq, Repr

/-- Looks at a condition that is told how many looks came before, until it holds or the deadline has
passed. -/
def waitFrom (holds : Nat → Bool) (timeout : Span) (looks now : Nat) : Waited :=
  if holds looks then ⟨true, looks + 1, now⟩
  else if _late : timeout.nanos ≤ now then ⟨false, looks + 1, now⟩
  else waitFrom holds timeout (looks + 1) (wakesAt now pause)
termination_by timeout.nanos - now
decreasing_by
  have later : now < wakesAt now pause := by
    have : pause.nanos = 5000000 := by decide
    unfold wakesAt
    omega
  omega

def wait (holds : Nat → Bool) (timeout : Span) : Waited := waitFrom holds timeout 0 0

/-- Whether a deadline can be told at all: the seconds of a timeout have to fit 63 bits. -/
def isTellable (timeout : Span) : Bool := timeout.seconds < 0x8000000000000000

def timeoutMessage (timeout : Span) (description : String) : String :=
  "timed out after " ++ timeout.text ++ " waiting for " ++ description

/-- Waits for a condition with a description. It breaks off if the deadline cannot be told. -/
def waitUntil (holds : Nat → Bool) (timeout : Span) (description : String) : Option (Except String Unit × Waited) :=
  if isTellable timeout then
    let waited := wait holds timeout
    some (if waited.held then .ok () else .error (timeoutMessage timeout description), waited)
  else none

end Courier.Timer
