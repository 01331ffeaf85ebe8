import Courier.Instant.Basic

/-!
# Clocks

A clock that is moved by hand. It counts the nanoseconds since it was started in 64 bits, so that it
starts over after 2^64 of them; one move is at most 2^64 - 1 nanoseconds. All copies of a clock share
its count.
-/
namespace Courier

/-- A clock that was started at an instant. -/
structure Clock where
  start : Instant
  /-- Nanoseconds since the start. -/
  elapsed : UInt64
deriving DecidableEq

namespace Clock

def startedAt (start : Instant) : Clock := ⟨start, 0⟩

def advance (c : Clock) (s : Span) : Clock :=
  { c with elapsed := c.elapsed + (min s.nanos 0xFFFFFFFFFFFFFFFF).toUInt64 }

/-- Sleeping moves the clock by as much as is slept. -/
def sleep (c : Clock) (s : Span) : Clock := c.advance s

def elapsedSpan (c : Clock) : Span := .ofNanos c.elapsed.toNat

def now (c : Clock) : Instant := c.start.later c.elapsedSpan

theorem nanos_elapsedSpan (c : Clock) : c.elapsedSpan.nanos = c.elapsed.toNat := by
  have := c.elapsed.toNat_lt
  rw [elapsedSpan, Span.nanos_ofNanos]
  omega

theorem toNat_elapsed_advance (c : Clock) (s : Span) :
    (c.advance s).elapsed.toNat = (c.elapsed.toNat + min s.nanos 0xFFFFFFFFFFFFFFFF) % 0x10000000000000000 := by
  rw [advance, UInt64.toNat_add]
  simp only [Nat.toUInt64, UInt64.toNat_ofNat']
  omega

end Clock
end Courier
