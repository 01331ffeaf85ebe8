import Courier.Decimal.Shortest
import Courier.Span

/-!
# Spans as binary fractions

A span in seconds as a binary fraction, and back: to the nearest nanosecond, and to an even one if two
are as near.
-/
namespace Courier.Span

/-- A quotient, rounded to the nearest whole number. -/
def rounded (a b : Nat) : Nat :=
  let below := a / b
  let rest := 2 * (a % b)
  if rest < b ∨ (rest = b ∧ below % 2 = 0) then below else below + 1

/-- The seconds of a span, and on top of them its nanoseconds. Each of the two is rounded, and so is
their sum. -/
def toFloat (s : Span) : Float := Float.ofNat s.seconds + Float.ofNat s.subNanos / 1e9

/-- A number of seconds that is not negative; none from 2^64 seconds on. -/
def ofFloat? (seconds : Float) : Option Span :=
  let x := Decimal.Binary.ofBits seconds.toBits
  let parts := x.mantissa * Nat.pow 2 x.exponent.toNat
  ofParts? 0 (rounded (parts * 1000000000) (Nat.pow 2 (-x.exponent).toNat))

end Courier.Span
