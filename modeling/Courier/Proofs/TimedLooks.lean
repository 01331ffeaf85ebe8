import Mathlib.Data.Nat.Find
import Mathlib.Order.Bounds.Defs
import Mathlib.Logic.Function.Iterate
import Courier.Timer

/-!
How often a condition is looked at that is waited for, and when. Waiting goes on in rounds: a look, and a pause after it
as long as the condition does not hold and the deadline has not come. Pauses of whole milliseconds end on time, so that
the looks come every five milliseconds, up to the first one at the deadline or after it, which still counts.
-/
namespace Courier.Timer

/-! ### Rounds -/

/-- How far waiting for a condition has come. -/
inductive Phase
  /-- The next look comes, after some others and at a nanosecond. -/
  | looking (looks now : Nat)
  | ended (w : Waited)
deriving DecidableEq, Repr

namespace Phase

/-- The next look and, if it is in vain and not too late, the pause after it. -/
def next (holds : Nat → Bool) (timeout : Span) : Phase → Phase
  | .looking looks now =>
    if holds looks then .ended ⟨true, looks + 1, now⟩
    else if timeout.nanos ≤ now then .ended ⟨false, looks + 1, now⟩
    else .looking (looks + 1) (wakesAt now pause)
  | .ended w => .ended w

/-- How waiting ends that has come so far. -/
def ending (holds : Nat → Bool) (timeout : Span) : Phase → Waited
  | .looking looks now => waitFrom holds timeout looks now
  | .ended w => w

variable {holds : Nat → Bool} {timeout : Span}

theorem ending_next (p : Phase) : (p.next holds timeout).ending holds timeout = p.ending holds timeout := by
  cases p with
  | ended w => rfl
  | looking looks now =>
    rw [next, ending, waitFrom]
    split
    · rfl
    · split <;> rfl

/-- Rounds lead nowhere but to the end. -/
theorem ending_iterate (n : Nat) (p : Phase) :
    ((next holds timeout)^[n] p).ending holds timeout = p.ending holds timeout := by
  induction n generalizing p with
  | zero => rfl
  | succ n ih => rw [Function.iterate_succ_apply, ih, ending_next]

end Phase

/-- Waiting after some rounds. -/
def after (holds : Nat → Bool) (timeout : Span) (rounds : Nat) : Phase :=
  (Phase.next holds timeout)^[rounds] (.looking 0 0)

variable {holds : Nat → Bool} {timeout : Span}

theorem after_succ (n : Nat) : after holds timeout (n + 1) = (after holds timeout n).next holds timeout :=
  Function.iterate_succ_apply' ..

theorem wait_of_after {n : Nat} {w : Waited} (ends : after holds timeout n = .ended w) : wait holds timeout = w := by
  have same : (after holds timeout n).ending holds timeout = wait holds timeout := Phase.ending_iterate ..
  rw [ends] at same
  exact same.symm

/-- From one look to the next it is five milliseconds. -/
theorem wakesAt_pause (n : Nat) : wakesAt (n * 5000000) pause = (n + 1) * 5000000 := by
  have length : pause.nanos = 5000000 := by decide
  unfold wakesAt
  omega

/-- Looks in vain before the deadline come one after the other. -/
theorem after_of_vain {n : Nat} (vain : ∀ i < n, holds i = false) (early : ∀ i < n, i * 5000000 < timeout.nanos) :
    after holds timeout n = .looking n (n * 5000000) := by
  induction n with
  | zero => rfl
  | succ n ih =>
    have last : n < n + 1 := Nat.lt_succ_self n
    have reached := ih (fun i before => vain i (Nat.lt_succ_of_lt before))
      (fun i before => early i (Nat.lt_succ_of_lt before))
    rw [after_succ, reached, Phase.next, vain n last, if_neg Bool.false_ne_true, if_neg (Nat.not_le.mpr (early n last)),
      wakesAt_pause]

/-! ### The look at which a condition holds -/

/-- Whether a condition holds for the first time at a look, the looks being counted from one. -/
def FirstHolds (holds : Nat → Bool) (look : Nat) : Prop :=
  ∃ earlier, look = earlier + 1 ∧ holds earlier = true ∧ ∀ i < earlier, holds i = false

/-- A condition that holds at some look holds for the first time at that look or an earlier one. -/
theorem exists_firstHolds {n : Nat} (here : holds n = true) : ∃ look ≤ n + 1, FirstHolds holds look := by
  have some_ : ∃ i, holds i = true := ⟨n, here⟩
  refine ⟨Nat.find some_ + 1, Nat.succ_le_succ (Nat.find_min' some_ here), Nat.find some_, rfl, Nat.find_spec some_, ?_⟩
  intro i before
  exact Bool.eq_false_iff.mpr (Nat.find_min some_ before)

/-! ### The deadline -/

section Deadline
variable {last : Nat} (least : IsLeast {k : Nat | timeout.nanos ≤ k * 5000000} last)
include least

theorem early_of_least {i : Nat} (before : i < last) : i * 5000000 < timeout.nanos :=
  Nat.lt_of_not_le (fun late => absurd (least.2 late) (Nat.not_le.mpr before))

/-- Up to the first look at the deadline or after it, looks in vain come every five milliseconds. -/
theorem after_of_vain_until {looks : Nat} (inTime : looks ≤ last) (vain : ∀ i < looks, holds i = false) :
    after holds timeout looks = .looking looks (looks * 5000000) :=
  after_of_vain vain (fun _ before => early_of_least least (Nat.lt_of_lt_of_le before inTime))

/-- A condition that holds by that look ends the waiting at once. -/
theorem after_of_firstHolds {look : Nat} (inTime : look ≤ last + 1) (first : FirstHolds holds look) :
    (∀ n < look, after holds timeout n = .looking n (n * 5000000)) ∧
      after holds timeout look = .ended ⟨true, look, (look - 1) * 5000000⟩ := by
  obtain ⟨earlier, rfl, here, vain⟩ := first
  have looks (n : Nat) (le : n ≤ earlier) : after holds timeout n = .looking n (n * 5000000) :=
    after_of_vain_until least (by omega) (fun i before => vain i (by omega))
  refine ⟨fun n before => looks n (Nat.le_of_lt_succ before), ?_⟩
  rw [after_succ, looks earlier (Nat.le_refl _), Phase.next, if_pos here, Nat.add_sub_cancel]

/-- A condition that does not hold by then is given up. -/
theorem after_of_vain_to_the_last (never : ¬ ∃ look ≤ last + 1, FirstHolds holds look) :
    (∀ n < last + 1, after holds timeout n = .looking n (n * 5000000)) ∧
      after holds timeout (last + 1) = .ended ⟨false, last + 1, last * 5000000⟩ := by
  have vain (i : Nat) (le : i ≤ last) : holds i = false := by
    refine Bool.eq_false_iff.mpr (fun held => never ?_)
    obtain ⟨look, early, first⟩ := exists_firstHolds held
    exact ⟨look, by omega, first⟩
  have looks (n : Nat) (le : n ≤ last) : after holds timeout n = .looking n (n * 5000000) :=
    after_of_vain_until least le (fun i before => vain i (by omega))
  have late : timeout.nanos ≤ last * 5000000 := least.1
  refine ⟨fun n before => looks n (Nat.le_of_lt_succ before), ?_⟩
  rw [after_succ, looks last (Nat.le_refl _), Phase.next, vain last (Nat.le_refl _), if_neg Bool.false_ne_true,
    if_pos late]

end Deadline

theorem waitUntil_of_after (tellable : isTellable timeout = true) (description : String) {n : Nat} {w : Waited}
    (ends : after holds timeout n = .ended w) :
    waitUntil holds timeout description =
      some (if w.held then .ok () else .error (timeoutMessage timeout description), w) := by
  rw [waitUntil, if_pos tellable, wait_of_after ends]

/-- How waiting for a condition goes whose deadline can be told. Let the last look be the first one at the deadline or
after it, if the looks come every five milliseconds. A condition that holds for the first time at some look up to the
last one is met after so many looks, also at the last one; any other condition is given up after the last one. In either
case there is a look at least, the looks come every five milliseconds from the start, and after them waiting is over. -/
theorem waits_look_every_five_milliseconds {timeout : Span} (tellable : isTellable timeout = true) {last : Nat}
    (least : IsLeast {k : Nat | timeout.nanos ≤ k * 5000000} last) (holds : Nat → Bool) (description : String) :
    (∀ look ≤ last + 1, FirstHolds holds look →
      waitUntil holds timeout description = some (.ok (), ⟨true, look, (look - 1) * 5000000⟩)) ∧
    ((¬ ∃ look ≤ last + 1, FirstHolds holds look) →
      waitUntil holds timeout description =
        some (.error (timeoutMessage timeout description), ⟨false, last + 1, last * 5000000⟩)) ∧
    ∃ result w, waitUntil holds timeout description = some (result, w) ∧ 1 ≤ w.looks ∧ w.looks ≤ last + 1 ∧
      (∀ n < w.looks, after holds timeout n = .looking n (n * 5000000)) ∧ after holds timeout w.looks = .ended w := by
  refine ⟨?_, ?_, ?_⟩
  · intro look inTime first
    exact waitUntil_of_after tellable description (after_of_firstHolds least inTime first).2
  · intro never
    exact waitUntil_of_after tellable description (after_of_vain_to_the_last least never).2
  · by_cases met : ∃ look ≤ last + 1, FirstHolds holds look
    · obtain ⟨look, inTime, first⟩ := met
      obtain ⟨looks, ends⟩ := after_of_firstHolds least inTime first
      obtain ⟨earlier, rfl, _⟩ := first
      exact ⟨_, _, waitUntil_of_after tellable description ends, Nat.le_add_left .., inTime, looks, ends⟩
    · obtain ⟨looks, ends⟩ := after_of_vain_to_the_last least met
      exact ⟨_, _, waitUntil_of_after tellable description ends, Nat.le_add_left .., Nat.le_refl _, looks, ends⟩

/-- The deadline comes between the third look and the fourth, which is the last one. -/
theorem waits_look_every_five_milliseconds_kettle :
    isTellable (.ofMillis 12) = true ∧ IsLeast {k : Nat | (Span.ofMillis 12).nanos ≤ k * 5000000} 3 ∧
      FirstHolds (3 ≤ ·) 4 ∧ waitUntil (3 ≤ ·) (.ofMillis 12) "tea" = some (.ok (), ⟨true, 4, 15000000⟩) ∧
      (¬ ∃ look ≤ 4, FirstHolds (4 ≤ ·) look) ∧
      waitUntil (4 ≤ ·) (.ofMillis 12) "tea" =
        some (.error (timeoutMessage (.ofMillis 12) "tea"), ⟨false, 4, 15000000⟩) := by
  have tellable : isTellable (.ofMillis 12) = true := by decide
  have length : (Span.ofMillis 12).nanos = 12000000 := by decide
  have least : IsLeast {k : Nat | (Span.ofMillis 12).nanos ≤ k * 5000000} 3 := by
    rw [length]
    constructor
    · show 12000000 ≤ 3 * 5000000
      decide
    · intro k late
      have late : 12000000 ≤ k * 5000000 := late
      omega
  have first : FirstHolds (3 ≤ ·) 4 := ⟨3, rfl, by decide, by decide⟩
  have never : ¬ ∃ look ≤ 3 + 1, FirstHolds (4 ≤ ·) look := by
    rintro ⟨_, inTime, earlier, rfl, here, _⟩
    have here : 4 ≤ earlier := of_decide_eq_true here
    omega
  have met := (waits_look_every_five_milliseconds tellable least (3 ≤ ·) "tea").1 4 (Nat.le_refl _) first
  have missed := (waits_look_every_five_milliseconds tellable least (4 ≤ ·) "tea").2.1 never
  exact ⟨tellable, least, first, met, never, missed⟩

end Courier.Timer
