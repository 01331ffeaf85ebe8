import Courier.Span
import Courier.Calendar

/-!
# Instants

An instant is a second of universal time, counted from 1970-01-01T00:00:00Z, and the nanoseconds
since it began. A second may hold a leap second: two seconds' worth of nanoseconds. Leap seconds belong
at the end of a minute, but an instant may lie in one elsewhere. Instants reach from the first day of the
year -262143 to the last of 262142.
-/
namespace Courier

/-- A point of universal time, to the nanosecond. -/
structure Instant where
  second : Int
  nano : Nat
  notBefore : -8334601228800 ≤ second
  notAfter : second ≤ 8210266876799
  nano_lt : nano < 2000000000
deriving DecidableEq

namespace Instant

instance : LE Instant := ⟨fun a b => a.second < b.second ∨ a.second = b.second ∧ a.nano ≤ b.nano⟩
instance (a b : Instant) : Decidable (a ≤ b) :=
  inferInstanceAs (Decidable (a.second < b.second ∨ a.second = b.second ∧ a.nano ≤ b.nano))

instance : LT Instant := ⟨fun a b => a.second < b.second ∨ a.second = b.second ∧ a.nano < b.nano⟩
instance (a b : Instant) : Decidable (a < b) :=
  inferInstanceAs (Decidable (a.second < b.second ∨ a.second = b.second ∧ a.nano < b.nano))

/-- The last nanosecond of the last day, leap seconds aside. -/
def latest : Instant := ⟨8210266876799, 999999999, by decide, by decide, by decide⟩

def epoch : Instant := ⟨0, 0, by decide, by decide, by decide⟩

instance : Inhabited Instant := ⟨epoch⟩

/-- The instant of a second and a nanosecond, if there is one. -/
def of? (second : Int) (nano : Nat) : Option Instant :=
  if h : -8334601228800 ≤ second ∧ second ≤ 8210266876799 ∧ nano < 2000000000 then
    some ⟨second, nano, h.1, h.2.1, h.2.2⟩
  else none

/-- The instant a span later, if it is within reach. A span that does not lead out of a leap second
stays in it; a longer one counts the leap second as the second it extends. -/
def later? (t : Instant) (s : Span) : Option Instant :=
  if 1000000000 ≤ t.nano ∧ t.nano + s.nanos < 2000000000 then of? t.second (t.nano + s.nanos)
  else
    let nanos := t.nano % 1000000000 + s.nanos
    of? (t.second + nanos / 1000000000) (nanos % 1000000000)

/-- The instant a span later, or the latest instant if that is out of reach. -/
def later (t : Instant) (s : Span) : Instant := (t.later? s).getD latest

/-! ## The order of instants -/

theorem lt_trans {a b c : Instant} (ab : a < b) (bc : b < c) : a < c := by
  have ab : a.second < b.second ∨ a.second = b.second ∧ a.nano < b.nano := ab
  have bc : b.second < c.second ∨ b.second = c.second ∧ b.nano < c.nano := bc
  show a.second < c.second ∨ a.second = c.second ∧ a.nano < c.nano
  omega

theorem lt_irrefl (a : Instant) : ¬ a < a := by
  intro h
  have h : a.second < a.second ∨ a.second = a.second ∧ a.nano < a.nano := h
  omega

theorem eq_of_not_lt {a b : Instant} (ab : ¬ a < b) (ba : ¬ b < a) : a = b := by
  have ab : ¬ (a.second < b.second ∨ a.second = b.second ∧ a.nano < b.nano) := ab
  have ba : ¬ (b.second < a.second ∨ b.second = a.second ∧ b.nano < a.nano) := ba
  have seconds : a.second = b.second := by omega
  have nanos : a.nano = b.nano := by omega
  cases a; cases b
  simp only at seconds nanos
  subst seconds nanos
  rfl

end Instant
end Courier
