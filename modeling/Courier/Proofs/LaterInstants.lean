import Courier.Instant.Basic

/-!
Instants that are some time later than others. Going on twice is going on once for both spans together,
and a longer span does not lead to an earlier instant, save out of a leap second at the end of the calendar.
-/
namespace Courier

namespace Span

/-- The whole seconds of a span are the fewest that reach it. -/
theorem ceilSeconds_le_iff (s : Span) (n : Nat) : s.ceilSeconds ≤ n ↔ s.nanos ≤ n * 1000000000 := by
  unfold ceilSeconds seconds subNanos
  split <;> omega

theorem toNat_wholeSeconds_le (s : Span) : s.wholeSeconds.toNat ≤ s.ceilSeconds := Nat.mod_le ..

theorem toNat_wholeSeconds {s : Span} (counted : s.ceilSeconds < 0x10000000000000000) :
    s.wholeSeconds.toNat = s.ceilSeconds := Nat.mod_eq_of_lt counted

theorem nanos_le_wholeSeconds (s : Span) (counted : s.ceilSeconds < 0x10000000000000000) :
    s.nanos ≤ s.wholeSeconds.toNat * 1000000000 := by
  rw [toNat_wholeSeconds counted]
  exact (s.ceilSeconds_le_iff _).mp (Nat.le_refl _)

/-- Only a span of nearly 2^64 seconds has whole seconds that wrap round. -/
theorem wholeSeconds_of_uncounted {s : Span} (uncounted : 0x10000000000000000 ≤ s.ceilSeconds) : s.wholeSeconds = 0 := by
  have short : s.ceilSeconds ≤ 0x10000000000000000 := (s.ceilSeconds_le_iff _).mpr (Nat.le_of_lt s.bound)
  rw [wholeSeconds, Nat.le_antisymm short uncounted]
  rfl

end Span

namespace Instant

theorem ext {a b : Instant} (second : a.second = b.second) (nano : a.nano = b.nano) : a = b := by
  obtain ⟨_, _, _, _, _⟩ := a
  obtain ⟨_, _, _, _, _⟩ := b
  simp only at second nano
  subst second nano
  rfl

/-- Where a span leads: it stays in a leap second, or leads to another second within reach, or out of
reach. -/
theorem later_cases (t : Instant) (s : Span) :
    (1000000000 ≤ t.nano ∧ t.nano + s.nanos < 2000000000 ∧
      (t.later s).second = t.second ∧ (t.later s).nano = t.nano + s.nanos) ∨
    ((t.nano < 1000000000 ∨ 2000000000 ≤ t.nano + s.nanos) ∧
      ((t.second + ((t.nano % 1000000000 + s.nanos) / 1000000000 : Nat) ≤ 8210266876799 ∧
        (t.later s).second = t.second + ((t.nano % 1000000000 + s.nanos) / 1000000000 : Nat) ∧
        (t.later s).nano = (t.nano % 1000000000 + s.nanos) % 1000000000) ∨
      (8210266876799 < t.second + ((t.nano % 1000000000 + s.nanos) / 1000000000 : Nat) ∧
        (t.later s).second = 8210266876799 ∧ (t.later s).nano = 999999999))) := by
  have low := t.notBefore
  by_cases stays : 1000000000 ≤ t.nano ∧ t.nano + s.nanos < 2000000000
  · left
    have valid : -8334601228800 ≤ t.second ∧ t.second ≤ 8210266876799 ∧ t.nano + s.nanos < 2000000000 :=
      ⟨low, t.notAfter, stays.2⟩
    have value : t.later? s = some ⟨t.second, t.nano + s.nanos, valid.1, valid.2.1, valid.2.2⟩ := by
      rw [later?, if_pos stays, of?, dif_pos valid]
    refine ⟨stays.1, stays.2, ?_, ?_⟩ <;> simp only [later, value, Option.getD_some]
  · right
    refine ⟨by omega, ?_⟩
    by_cases near : t.second + ((t.nano % 1000000000 + s.nanos) / 1000000000 : Nat) ≤ 8210266876799
    · left
      have valid : -8334601228800 ≤ t.second + ((t.nano % 1000000000 + s.nanos) / 1000000000 : Nat) ∧
          t.second + ((t.nano % 1000000000 + s.nanos) / 1000000000 : Nat) ≤ 8210266876799 ∧
          (t.nano % 1000000000 + s.nanos) % 1000000000 < 2000000000 := by omega
      have value : t.later? s = some ⟨_, _, valid.1, valid.2.1, valid.2.2⟩ := by
        rw [later?, if_neg stays, of?]
        exact dif_pos valid
      refine ⟨near, ?_, ?_⟩ <;> simp only [later, value, Option.getD_some]
    · right
      have value : t.later? s = none := by
        rw [later?, if_neg stays, of?]
        exact dif_neg (fun valid => near valid.2.1)
      refine ⟨Int.not_le.mp near, ?_, ?_⟩ <;> simp only [later, value, Option.getD_none, latest]

theorem later_later (t : Instant) {a b c : Span} (sum : c.nanos = a.nanos + b.nanos) :
    (t.later a).later b = t.later c := by
  have first := t.later_cases a
  have second := (t.later a).later_cases b
  have both := t.later_cases c
  refine ext ?_ ?_
  · omega
  · omega

/-- A longer span leads to no earlier instant, unless it leads out of the leap second at the end of the calendar and the
shorter one does not. -/
theorem later_le_later_iff (t : Instant) {a b : Span} (le : a.nanos ≤ b.nanos) :
    t.later a ≤ t.later b ↔ t ≤ latest ∨ 2000000000 ≤ t.nano + a.nanos ∨ t.nano + b.nanos < 2000000000 := by
  have within := t.notAfter
  have first := t.later_cases a
  have second := t.later_cases b
  show ((t.later a).second < (t.later b).second ∨
    (t.later a).second = (t.later b).second ∧ (t.later a).nano ≤ (t.later b).nano) ↔
    (t.second < 8210266876799 ∨ t.second = 8210266876799 ∧ t.nano ≤ 999999999) ∨ _
  omega

theorem later_mono {t : Instant} (within : t ≤ latest) {a b : Span} (le : a.nanos ≤ b.nanos) :
    t.later a ≤ t.later b :=
  (t.later_le_later_iff le).mpr (.inl within)

/-- The nanoseconds from the epoch to an instant, leap seconds aside. -/
def sinceEpoch (t : Instant) : Int := t.second * 1000000000 + t.nano

/-- Where a span leads, in nanoseconds: on in a leap second as long as that lasts, else to the exact sum if the calendar
reaches that far, with the leap second counted as the second that it extends, and else to the latest instant. -/
theorem later_sum (t : Instant) (s : Span) :
    if 1000000000 ≤ t.nano ∧ t.nano + s.nanos < 2000000000 then
      (t.later s).second = t.second ∧ (t.later s).nano = t.nano + s.nanos
    else if t.second * 1000000000 + (t.nano % 1000000000 : Nat) + s.nanos ≤ latest.sinceEpoch then
      (t.later s).sinceEpoch = t.second * 1000000000 + (t.nano % 1000000000 : Nat) + s.nanos ∧
        (t.later s).nano < 1000000000
    else t.later s = latest := by
  have last : latest.sinceEpoch = 8210266876799 * 1000000000 + 999999999 := rfl
  rcases t.later_cases s with ⟨leap, stays, second, nano⟩ | ⟨leaves, ⟨near, second, nano⟩ | ⟨far, second, nano⟩⟩
  · rw [if_pos ⟨leap, stays⟩]
    exact ⟨second, nano⟩
  · rw [if_neg (by omega), if_pos (by omega), sinceEpoch, second, nano]
    omega
  · rw [if_neg (by omega), if_neg (by omega)]
    exact ext second nano

section Plain
variable {t : Instant} (plain : t.nano < 1000000000)
include plain

theorem le_latest : t ≤ latest := by
  have within := t.notAfter
  show t.second < 8210266876799 ∨ t.second = 8210266876799 ∧ t.nano ≤ 999999999
  omega

/-- An instant that is reached in two steps is no earlier if the steps are no shorter together. -/
theorem later_later_mono {a b c d : Span} (le : a.nanos + b.nanos ≤ c.nanos + d.nanos) :
    (t.later a).later b ≤ (t.later c).later d := by
  have first := t.later_cases a
  have second := (t.later a).later_cases b
  have third := t.later_cases c
  have fourth := (t.later c).later_cases d
  show ((t.later a).later b).second < ((t.later c).later d).second ∨
    ((t.later a).later b).second = ((t.later c).later d).second ∧ ((t.later a).later b).nano ≤ ((t.later c).later d).nano
  omega

theorem later_later_le {a b c : Span} (le : a.nanos + b.nanos ≤ c.nanos) : (t.later a).later b ≤ t.later c := by
  have whole : (t.later c).later .zero = t.later c := t.later_later rfl
  rw [← whole]
  exact later_later_mono plain le

end Plain

end Instant
end Courier
