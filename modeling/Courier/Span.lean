/-!
# Spans of time

A span is a length of time in whole nanoseconds, at most 2^64 seconds less one nanosecond. Sums and
multiples that would leave the range stop at its end.
-/
namespace Courier

/-- A length of time in nanoseconds, below 2^64 seconds. -/
structure Span where
  nanos : Nat
  bound : nanos < 0x10000000000000000 * 1000000000 := by decide
deriving DecidableEq

namespace Span

instance : LE Span := ⟨fun a b => a.nanos ≤ b.nanos⟩
instance : LT Span := ⟨fun a b => a.nanos < b.nanos⟩
instance (a b : Span) : Decidable (a ≤ b) := inferInstanceAs (Decidable (a.nanos ≤ b.nanos))
instance (a b : Span) : Decidable (a < b) := inferInstanceAs (Decidable (a.nanos < b.nanos))

def zero : Span := ⟨0, by decide⟩

instance : Inhabited Span := ⟨zero⟩

def longest : Span := ⟨0x10000000000000000 * 1000000000 - 1, by decide⟩

/-- A number of nanoseconds, cut off at the longest span. -/
def ofNanos (n : Nat) : Span :=
  if h : n < 0x10000000000000000 * 1000000000 then ⟨n, h⟩ else longest

def ofSeconds (s : UInt64) : Span := ofNanos (s.toNat * 1000000000)

/-- Whole milliseconds, cut off at the longest span. -/
def ofMillis (ms : Nat) : Span := ofNanos (ms * 1000000)

/-- Seconds and the nanoseconds beyond them. Nanoseconds of a second or more carry over; none if
the seconds leave the range. -/
def ofParts? (seconds : Nat) (nanos : Nat) : Option Span :=
  if h : seconds * 1000000000 + nanos < 0x10000000000000000 * 1000000000 then some ⟨_, h⟩ else none

def seconds (s : Span) : Nat := s.nanos / 1000000000

def subNanos (s : Span) : Nat := s.nanos % 1000000000

def millis (s : Span) : Nat := s.nanos / 1000000

/-- The least number of whole seconds that is not below the span. -/
def ceilSeconds (s : Span) : Nat := s.seconds + if s.subNanos = 0 then 0 else 1

/-- The same in 64 bits. It wraps round to no seconds at all for a span that lacks less than a second to 2^64 seconds. -/
def wholeSeconds (s : Span) : UInt64 := s.ceilSeconds.toUInt64

/-- A multiple, cut off at the longest span. -/
def scale (s : Span) (factor : Nat) : Span := ofNanos (s.nanos * factor)

def shorter (a b : Span) : Span := if a ≤ b then a else b

def longer (a b : Span) : Span := if a ≤ b then b else a

/-! ## The text of a span -/

/-- The digits of a number, filled up with zeros on the left to a width. -/
def padded (width n : Nat) : String :=
  let digits := Nat.toDigits 10 n
  String.ofList (List.replicate (width - digits.length) '0' ++ digits)

/-- A number of units and a remainder of `width` decimal places, without closing zeros. -/
def decimalText (whole width fraction : Nat) : String :=
  let places := ((padded width fraction).toList.reverse.dropWhile (· == '0')).reverse
  if places.isEmpty then toString whole else toString whole ++ "." ++ String.ofList places

/-- The text of a span: its largest unit among seconds, milli-, micro- and nanoseconds that is not
zero, and as many places as it needs. -/
def text (s : Span) : String :=
  if 0 < s.seconds then decimalText s.seconds 9 s.subNanos ++ "s"
  else if 1000000 ≤ s.nanos then decimalText (s.nanos / 1000000) 6 (s.nanos % 1000000) ++ "ms"
  else if 1000 ≤ s.nanos then decimalText (s.nanos / 1000) 3 (s.nanos % 1000) ++ "µs"
  else decimalText s.nanos 0 0 ++ "ns"

/-! ## Laws -/

@[ext] theorem ext {a b : Span} (h : a.nanos = b.nanos) : a = b := by
  cases a; cases b; simpa using h

theorem nanos_ofNanos (n : Nat) : (ofNanos n).nanos = min n (0x10000000000000000 * 1000000000 - 1) := by
  unfold ofNanos
  split
  · rename_i h; simp only; omega
  · rename_i h; simp only [longest]; omega

theorem nanos_ofSeconds (s : UInt64) : (ofSeconds s).nanos = s.toNat * 1000000000 := by
  have := s.toNat_lt
  rw [ofSeconds, nanos_ofNanos]
  omega

theorem nanos_scale (s : Span) (factor : Nat) :
    (s.scale factor).nanos = min (s.nanos * factor) (0x10000000000000000 * 1000000000 - 1) := nanos_ofNanos _

theorem nanos_shorter (a b : Span) : (a.shorter b).nanos = min a.nanos b.nanos := by
  unfold shorter
  by_cases h : a ≤ b
  · have : a.nanos ≤ b.nanos := h
    rw [if_pos h]; omega
  · have : ¬ a.nanos ≤ b.nanos := h
    rw [if_neg h]; omega

theorem nanos_longer (a b : Span) : (a.longer b).nanos = max a.nanos b.nanos := by
  unfold longer
  by_cases h : a ≤ b
  · have : a.nanos ≤ b.nanos := h
    rw [if_pos h]; omega
  · have : ¬ a.nanos ≤ b.nanos := h
    rw [if_neg h]; omega

end Span
end Courier
