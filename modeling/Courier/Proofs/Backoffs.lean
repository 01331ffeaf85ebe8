import Mathlib.Algebra.Order.Ring.Nat
import Courier.Proofs.Tries

/-!
How long a policy waits that leaves nothing to chance. A wait is a multiple of the base that ends at the largest
wait. Where spans are held in words, the nanoseconds of a multiple carry over into its seconds, and a multiple whose
seconds leave their word is the longest span there is. No wait can tell: the largest wait is such a span itself, so
that it cuts off whatever the words cannot hold.
-/
namespace Courier

/-! ### Spans in words -/

/-- A span as whole seconds and the nanoseconds beyond them, each in a word of its own. -/
structure SpanWords where
  seconds : UInt64
  nanos : UInt32
  short : nanos.toNat < 1000000000
deriving DecidableEq

namespace SpanWords

/-- The span that the words hold. -/
def span (w : SpanWords) : Span :=
  ⟨w.seconds.toNat * 1000000000 + w.nanos.toNat, by
    have seconds := w.seconds.toNat_lt
    have nanos := w.short
    omega⟩

def longest : SpanWords := ⟨0xFFFFFFFFFFFFFFFF, 999999999, by decide⟩

/-- The product of two words, if it is one. -/
def product? (a b : UInt64) : Option UInt64 := if a.toNat * b.toNat < 2 ^ 64 then some (a * b) else none

/-- The sum of two words, if it is one. -/
def sum? (a b : UInt64) : Option UInt64 := if a.toNat + b.toNat < 2 ^ 64 then some (a + b) else none

/-- The seconds of a multiple: the multiple of the seconds, and what the nanoseconds carry over. -/
def timesSeconds? (w : SpanWords) (factor : UInt32) : Option UInt64 :=
  (product? w.seconds factor.toUInt64).bind (sum? · (w.nanos.toUInt64 * factor.toUInt64 / 1000000000))

/-- The nanoseconds of a multiple beyond its seconds. -/
def timesNanos (w : SpanWords) (factor : UInt32) : UInt32 :=
  (w.nanos.toUInt64 * factor.toUInt64 % 1000000000).toUInt32

theorem toNat_nanos_mul (w : SpanWords) (factor : UInt32) :
    (w.nanos.toUInt64 * factor.toUInt64).toNat = w.nanos.toNat * factor.toNat := by
  have nanos := w.short
  have few := factor.toNat_lt
  have fits : w.nanos.toNat * factor.toNat ≤ 1000000000 * 2 ^ 32 := Nat.mul_le_mul (by omega) (by omega)
  rw [UInt64.toNat_mul, UInt32.toNat_toUInt64, UInt32.toNat_toUInt64]
  exact Nat.mod_eq_of_lt (by omega)

theorem toNat_timesNanos (w : SpanWords) (factor : UInt32) :
    (w.timesNanos factor).toNat = w.nanos.toNat * factor.toNat % 1000000000 := by
  rw [timesNanos, UInt64.toNat_toUInt32, UInt64.toNat_mod, toNat_nanos_mul]
  have short : w.nanos.toNat * factor.toNat % 1000000000 < 1000000000 := Nat.mod_lt _ (by decide)
  exact Nat.mod_eq_of_lt (Nat.lt_trans short (by decide))

/-- A multiple that ends at the longest span. -/
def times (w : SpanWords) (factor : UInt32) : SpanWords :=
  match w.timesSeconds? factor with
  | some seconds =>
    ⟨seconds, w.timesNanos factor, by
      rw [toNat_timesNanos]
      exact Nat.mod_lt _ (by decide)⟩
  | none => longest

def shorter (a b : SpanWords) : SpanWords :=
  if a.seconds < b.seconds ∨ a.seconds = b.seconds ∧ a.nanos ≤ b.nanos then a else b

def ofSpan (s : Span) : SpanWords :=
  ⟨s.seconds.toUInt64, s.subNanos.toUInt32, by
    have short : s.subNanos < 1000000000 := Nat.mod_lt _ (by decide)
    rw [Nat.toUInt32_eq, UInt32.toNat_ofNat_of_lt' (Nat.lt_trans short (by decide))]
    exact short⟩

/-! The words do what spans do. -/

theorem span_ofSpan (s : Span) : (ofSpan s).span = s := by
  have bound := s.bound
  have seconds : s.seconds.toUInt64.toNat = s.nanos / 1000000000 := by
    rw [Nat.toUInt64_eq]
    exact UInt64.toNat_ofNat_of_lt' (by unfold Span.seconds UInt64.size; omega)
  have nanos : s.subNanos.toUInt32.toNat = s.nanos % 1000000000 := by
    rw [Nat.toUInt32_eq]
    exact UInt32.toNat_ofNat_of_lt' (by unfold Span.subNanos UInt32.size; omega)
  apply Span.ext
  simp only [span, ofSpan, seconds, nanos]
  omega

theorem span_longest : longest.span = Span.longest := by decide

theorem nanos_longest : Span.longest.nanos = 0x10000000000000000 * 1000000000 - 1 := by decide

/-- The seconds of a multiple leave their word just if the multiple is no span. -/
theorem toNat_timesSeconds? (w : SpanWords) (factor : UInt32) :
    (w.timesSeconds? factor).map UInt64.toNat =
      if w.span.nanos * factor.toNat < 0x10000000000000000 * 1000000000 then
        some (w.span.nanos * factor.toNat / 1000000000)
      else none := by
  have whole : w.span.nanos * factor.toNat =
      w.seconds.toNat * factor.toNat * 1000000000 + w.nanos.toNat * factor.toNat := by
    rw [span, Nat.add_mul, Nat.mul_right_comm]
  rw [whole, timesSeconds?, product?, UInt32.toNat_toUInt64]
  by_cases product : w.seconds.toNat * factor.toNat < 2 ^ 64
  · have seconds : (w.seconds * factor.toUInt64).toNat = w.seconds.toNat * factor.toNat := by
      rw [UInt64.toNat_mul, UInt32.toNat_toUInt64]
      exact Nat.mod_eq_of_lt product
    rw [if_pos product, Option.bind_some, sum?, UInt64.toNat_div, toNat_nanos_mul, seconds]
    by_cases sum : w.seconds.toNat * factor.toNat + w.nanos.toNat * factor.toNat / 1000000000 < 2 ^ 64
    · have total : (w.seconds * factor.toUInt64 + w.nanos.toUInt64 * factor.toUInt64 / 1000000000).toNat =
          w.seconds.toNat * factor.toNat + w.nanos.toNat * factor.toNat / 1000000000 := by
        rw [UInt64.toNat_add, seconds, UInt64.toNat_div, toNat_nanos_mul]
        exact Nat.mod_eq_of_lt sum
      rw [if_pos (by simpa using sum), if_pos (by omega), Option.map_some, total]
      congr 1
      omega
    · rw [if_neg (by simpa using sum), if_neg (by omega)]
      rfl
  · rw [if_neg product, if_neg (by omega)]
    rfl

theorem span_times (w : SpanWords) (factor : UInt32) : (w.times factor).span = w.span.scale factor.toNat := by
  have counted := w.toNat_timesSeconds? factor
  have nanos : (w.timesNanos factor).toNat = w.span.nanos * factor.toNat % 1000000000 := by
    rw [toNat_timesNanos, span, Nat.add_mul, Nat.mul_right_comm, Nat.mul_add_mod_self_right]
  apply Span.ext
  rw [Span.nanos_scale, times]
  split
  · rename_i seconds found
    rw [found, Option.map_some] at counted
    split at counted
    · have whole : seconds.toNat = w.span.nanos * factor.toNat / 1000000000 := Option.some.inj counted
      show seconds.toNat * 1000000000 + (w.timesNanos factor).toNat = _
      omega
    · cases counted
  · rename_i none
    rw [none, Option.map_none] at counted
    split at counted
    · cases counted
    · rw [span_longest, nanos_longest]
      omega

theorem span_shorter (a b : SpanWords) : (a.shorter b).span = a.span.shorter b.span := by
  have inOrder : (a.seconds < b.seconds ∨ a.seconds = b.seconds ∧ a.nanos ≤ b.nanos) ↔ a.span ≤ b.span := by
    have first := a.short
    have second := b.short
    rw [UInt64.lt_iff_toNat_lt, ← UInt64.toNat_inj, UInt32.le_iff_toNat_le]
    show _ ↔ a.seconds.toNat * 1000000000 + a.nanos.toNat ≤ b.seconds.toNat * 1000000000 + b.nanos.toNat
    omega
  rw [shorter, Span.shorter]
  by_cases before : a.span ≤ b.span
  · rw [if_pos (inOrder.mpr before), if_pos before]
  · rw [if_neg (fun words => before (inOrder.mp words)), if_neg before]

end SpanWords

/-! ### Waits -/

theorem Growth.factor_mono (g : Growth) {n later : Nat} (le : n ≤ later) : g.factor n ≤ g.factor later := by
  cases g with
  | fixed => exact Nat.le_refl 1
  | linear =>
    simp only [factor]
    omega
  | exponential =>
    apply Nat.pow_le_pow_right (by decide)
    omega

/-- A power of two that ends at the largest word. -/
def powerWord (exponent : UInt32) : UInt32 := (min (2 ^ exponent.toNat) 0xFFFFFFFF).toUInt32

theorem toNat_powerWord {exponent : UInt32} (few : exponent.toNat ≤ 20) :
    (powerWord exponent).toNat = 2 ^ exponent.toNat := by
  have small : 2 ^ exponent.toNat ≤ 2 ^ 20 := Nat.pow_le_pow_right (by decide) few
  rw [powerWord, Nat.toUInt32_eq, UInt32.toNat_ofNat_of_lt' (by simp only [UInt32.size]; omega)]
  omega

theorem toNat_maxWord (a b : UInt32) : (max a b).toNat = max a.toNat b.toNat := by
  show (if a ≤ b then b else a).toNat = max a.toNat b.toNat
  by_cases le : a ≤ b
  · rw [if_pos le, Nat.max_eq_right (UInt32.le_iff_toNat_le.mp le)]
  · rw [if_neg le, Nat.max_eq_left (Nat.le_of_not_le (fun less => le (UInt32.le_iff_toNat_le.mpr less)))]

theorem toNat_minWord (a b : UInt32) : (min a b).toNat = min a.toNat b.toNat := by
  show (if a ≤ b then a else b).toNat = min a.toNat b.toNat
  by_cases le : a ≤ b
  · rw [if_pos le, Nat.min_eq_left (UInt32.le_iff_toNat_le.mp le)]
  · rw [if_neg le, Nat.min_eq_right (Nat.le_of_not_le (fun less => le (UInt32.le_iff_toNat_le.mpr less)))]

namespace RetryPolicy

/-- The multiple of the base for the wait after the `n`-th failure, in words. -/
def multipleWords (p : RetryPolicy) (n : UInt32) : SpanWords :=
  let base := SpanWords.ofSpan p.baseDelay
  let n := max n 1
  match p.growth with
  | .fixed => base
  | .linear => base.times n
  | .exponential => base.times (powerWord (min (n - 1) 20))

/-- The wait after the `n`-th failure, chance aside, in words. -/
def backoffWords (p : RetryPolicy) (n : UInt32) : SpanWords := (p.multipleWords n).shorter (.ofSpan p.maxDelay)

theorem span_multipleWords (p : RetryPolicy) (n : UInt32) :
    (p.multipleWords n).span = p.baseDelay.scale (p.growth.factor n.toNat) := by
  have counted : (max n 1).toNat = max n.toNat 1 := toNat_maxWord n 1
  unfold multipleWords
  cases p.growth with
  | fixed =>
    have bound := p.baseDelay.bound
    apply Span.ext
    rw [SpanWords.span_ofSpan, Span.nanos_scale, Growth.factor]
    omega
  | linear => rw [SpanWords.span_times, SpanWords.span_ofSpan, counted, Growth.factor]
  | exponential =>
    have before : (max n 1 - 1).toNat = max n.toNat 1 - 1 := by
      have atLeast : 1 ≤ max n 1 := by
        rw [UInt32.le_iff_toNat_le, counted]
        exact Nat.le_max_right ..
      rw [UInt32.toNat_sub_of_le _ _ atLeast, counted, UInt32.toNat_one]
    have exponent : (min (max n 1 - 1) 20).toNat = min (max n.toNat 1 - 1) 20 := by
      rw [toNat_minWord, before]
      rfl
    rw [SpanWords.span_times, SpanWords.span_ofSpan, toNat_powerWord (by omega), exponent, Growth.factor]
    rfl

theorem span_backoffWords (p : RetryPolicy) (n : UInt32) : (p.backoffWords n).span = p.backoff n := by
  rw [backoffWords, SpanWords.span_shorter, span_multipleWords, SpanWords.span_ofSpan, backoff]

/-- The largest wait hides whether the multiple of the base was cut off before it. -/
theorem nanos_backoff (p : RetryPolicy) (n : UInt32) :
    (p.backoff n).nanos = min p.maxDelay.nanos (p.baseDelay.nanos * p.growth.factor n.toNat) := by
  have bound := p.maxDelay.bound
  rw [backoff, Span.nanos_shorter, Span.nanos_scale]
  omega

theorem backoff_mono (p : RetryPolicy) {n later : UInt32} (le : n ≤ later) : p.backoff n ≤ p.backoff later := by
  have factors := p.growth.factor_mono (UInt32.le_iff_toNat_le.mp le)
  have multiples := Nat.mul_le_mul_left p.baseDelay.nanos factors
  show (p.backoff n).nanos ≤ (p.backoff later).nanos
  rw [nanos_backoff, nanos_backoff]
  omega

/-- How long a policy without jitter waits after any number of failures, whatever chance draws: it never breaks off, and
the wait is the base times a factor that counts the failures, but no longer than the largest wait. It does not matter
whether words can hold that multiple; a wait that is made in words is the same. A later failure never waits less. A
policy gives up from its number of failures on, and before that it retries after this very wait. -/
theorem waits_are_capped_multiples (p : RetryPolicy) (steady : p.jitter ≤ 0.0) :
    (∀ n draw, ∃ wait, p.delay n draw = some wait ∧
      wait.nanos = min p.maxDelay.nanos (p.baseDelay.nanos *
        match p.growth with
        | .fixed => 1
        | .linear => max n.toNat 1
        | .exponential => 2 ^ min (max n.toNat 1 - 1) 20) ∧
      (p.backoffWords n).span = wait ∧
      wait ≤ p.maxDelay ∧
      (p.decide n draw = some .exhaust ↔ p.maxRetries ≤ n) ∧
      ∀ other, p.decide n draw = some (.retry other) ↔ n < p.maxRetries ∧ other = wait) ∧
    ∀ n later draw other wait longer, n ≤ later → p.delay n draw = some wait → p.delay later other = some longer →
      wait ≤ longer := by
  constructor
  · intro n draw
    have delay := p.delay_of_steady steady n draw
    have multiple := p.nanos_backoff n
    refine ⟨p.backoff n, delay, ?_, p.span_backoffWords n, ?_, ?_, ?_⟩
    · rw [multiple]
      cases p.growth with
      | fixed => rfl
      | linear => rfl
      | exponential => rfl
    · show (p.backoff n).nanos ≤ p.maxDelay.nanos
      rw [multiple]
      exact Nat.min_le_left ..
    · unfold decide
      by_cases used : p.maxRetries ≤ n
      · simp [used]
      · simp [used, delay]
    · intro wait
      unfold decide
      by_cases used : p.maxRetries ≤ n
      · simp [used, UInt32.not_lt.mpr used]
      · simp [used, UInt32.not_le.mp used, delay, eq_comm]
  · intro n later draw other wait longer le first second
    rw [p.delay_of_steady steady] at first second
    obtain rfl := Option.some.inj first
    obtain rfl := Option.some.inj second
    exact p.backoff_mono le

/-- A wait that doubles from 2^62 seconds and a bit on. The second double leaves the words. -/
private def doubling : RetryPolicy :=
  ⟨5, ⟨0x4000000000000000 * 1000000000 + 999999999, by decide⟩, .longest, -0.5, .exponential⟩

theorem waits_are_capped_multiples_doubling :
    doubling.jitter ≤ 0.0 ∧
      (∃ wait, doubling.delay 2 0.0 = some wait ∧ wait.nanos = 0x8000000000000001 * 1000000000 + 999999998 ∧
        wait ≤ .longest) ∧
      doubling.delay 3 0.0 = some .longest ∧ (doubling.backoffWords 3).span = .longest ∧
      doubling.decide 4 0.0 = some (.retry .longest) ∧ doubling.decide 5 0.0 = some .exhaust := by
  have steady : doubling.jitter ≤ 0.0 := by decide +kernel
  have law := waits_are_capped_multiples doubling steady
  obtain ⟨second, delay, nanos, -, -, -, -⟩ := law.1 2 0.0
  obtain ⟨third, delay', nanos', words, -, -, -⟩ := law.1 3 0.0
  obtain ⟨fourth, -, nanos'', -, -, -, retries⟩ := law.1 4 0.0
  obtain ⟨fifth, -, -, -, -, exhausts, -⟩ := law.1 5 0.0
  have longest : third = .longest := Span.ext (nanos'.trans (by decide))
  have longest' : fourth = .longest := Span.ext (nanos''.trans (by decide))
  subst longest longest'
  refine ⟨steady, ⟨second, delay, nanos.trans (by decide), law.2 2 3 0.0 0.0 _ _ (by decide) delay delay'⟩, delay',
    words, (retries .longest).mpr ⟨by decide, rfl⟩, exhausts.mpr (by decide)⟩

end RetryPolicy
end Courier
