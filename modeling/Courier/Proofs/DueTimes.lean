import Courier.Proofs.DelayedPublications

/-!
When messages are due. A message that waits is due at the exact sum of the instant it was sent at and its delay, or at
the latest instant if the calendar ends before that. Seconds may leave other ranges on their way to the calendar, that
of a signed word and that of a span counted in signed milliseconds; both reach further than the calendar, so that
nothing else comes of it. The latest instant is not the last one that a message can be sent at: the last minute of the
calendar may end with a leap second, and a message that is sent in it and waits is due before it was sent.
-/
namespace Courier

namespace Message

/-! ### Step by step -/

/-- A word as a signed word, if it is one. -/
def signed? (seconds : UInt64) : Option Int64 := if seconds.toNat < 2 ^ 63 then some seconds.toInt64 else none

/-- A span of seconds that is counted in signed milliseconds, if a word can hold them. -/
def counted? (seconds : Int64) : Option Span :=
  if 0 ≤ seconds ∧ seconds ≤ Broker.longestDelay.toInt64 then some (.ofSeconds seconds.toUInt64) else none

/-- The instant at which a message is due, if each step on the way may give up. -/
def dueAtInSteps (m : Message) : Instant :=
  match m.dispatch with
  | .timely => m.createdAt
  | .delayed seconds => (((signed? seconds).bind counted?).bind m.createdAt.later?).getD .latest

private theorem toInt_toInt64 {seconds : UInt64} (small : seconds.toNat < 2 ^ 63) :
    seconds.toInt64.toInt = seconds.toNat :=
  BitVec.toInt_eq_toNat_of_lt (x := seconds.toBitVec) (by rw [UInt64.toNat_toBitVec]; omega)

/-- The steps before the calendar let through what can be counted in milliseconds. -/
theorem counted?_signed? (seconds : UInt64) :
    (signed? seconds).bind counted? = if seconds ≤ Broker.longestDelay then some (.ofSeconds seconds) else none := by
  have longest : Broker.longestDelay.toInt64.toInt = 9223372036854775 := by decide
  have limit : Broker.longestDelay.toNat = 9223372036854775 := rfl
  unfold signed?
  by_cases small : seconds.toNat < 2 ^ 63
  · have value := toInt_toInt64 small
    have passes : (0 ≤ seconds.toInt64 ∧ seconds.toInt64 ≤ Broker.longestDelay.toInt64) ↔
        seconds ≤ Broker.longestDelay := by
      rw [Int64.le_iff_toInt_le, Int64.le_iff_toInt_le, UInt64.le_iff_toNat_le, value, longest, limit, Int64.toInt_zero]
      omega
    rw [if_pos small, Option.bind_some, counted?, UInt64.toUInt64_toInt64]
    by_cases near : seconds ≤ Broker.longestDelay
    · rw [if_pos near, if_pos (passes.mpr near)]
    · rw [if_neg near, if_neg (fun through => near (passes.mp through))]
  · have far : ¬ seconds ≤ Broker.longestDelay := by
      rw [UInt64.le_iff_toNat_le]
      omega
    rw [if_neg small, if_neg far, Option.bind_none]

/-- Whatever step gives up, the calendar would have done so. -/
theorem dueAtInSteps_eq (m : Message) : m.dueAtInSteps = m.dueAt := by
  unfold dueAtInSteps dueAt
  cases m.dispatch with
  | timely => rfl
  | delayed seconds =>
    simp only [counted?_signed?]
    by_cases near : seconds ≤ Broker.longestDelay
    · rw [if_pos near]
      rfl
    · rw [if_neg near]
      exact (m.dueAt_delayedFrom_of_long m.createdAt (UInt64.not_le.mp near)).symm

/-! ### Before it was sent -/

/-- The message as it is when it waits a number of seconds. -/
def delayedBy (m : Message) (seconds : UInt64) : Message := m.delayedFrom m.createdAt seconds

theorem dueAt_of_timely {m : Message} (timely : m.dispatch = .timely) : m.dueAt = m.createdAt := by
  unfold dueAt
  rw [timely]

theorem delayedBy_of_delayed {m : Message} {seconds : UInt64} (delayed : m.dispatch = .delayed seconds) :
    m.delayedBy seconds = m := by
  unfold delayedBy delayedFrom
  rw [← delayed]

/-- Of two delays the longer one is due no earlier, unless a message is sent in the leap second at the end of the
calendar and the shorter one is none. -/
theorem dueAt_delayedBy_le_iff (m : Message) {fewer more : UInt64} (le : fewer ≤ more) :
    (m.delayedBy fewer).dueAt ≤ (m.delayedBy more).dueAt ↔ m.createdAt ≤ .latest ∨ fewer ≠ 0 ∨ more = 0 := by
  have nano := m.createdAt.nano_lt
  have within := m.createdAt.notAfter
  rw [UInt64.le_iff_toNat_le] at le
  have longer : (Span.ofSeconds fewer).nanos ≤ (Span.ofSeconds more).nanos := by
    rw [Span.nanos_ofSeconds, Span.nanos_ofSeconds]
    exact Nat.mul_le_mul_right _ le
  show m.createdAt.later (.ofSeconds fewer) ≤ m.createdAt.later (.ofSeconds more) ↔ _
  rw [m.createdAt.later_le_later_iff longer, Span.nanos_ofSeconds, Span.nanos_ofSeconds, Ne, ← UInt64.toNat_inj,
    ← UInt64.toNat_inj, UInt64.toNat_zero]
  show (m.createdAt.second < 8210266876799 ∨ m.createdAt.second = 8210266876799 ∧ m.createdAt.nano ≤ 999999999) ∨ _ ↔
    (m.createdAt.second < 8210266876799 ∨ m.createdAt.second = 8210266876799 ∧ m.createdAt.nano ≤ 999999999) ∨ _
  omega

theorem dueAt_delayedBy_zero (m : Message) : (m.delayedBy 0).dueAt = m.createdAt := by
  have law := m.dueAt_delayedFrom m.createdAt 0
  have within : m.createdAt.second + ((0 : UInt64).toNat : Int) ≤ Instant.latest.second := by
    simpa [Instant.latest] using m.createdAt.notAfter
  rw [if_pos within, if_pos rfl] at law
  exact Instant.ext (law.1.trans (by simp)) law.2

theorem createdAt_le_dueAt_iff (m : Message) :
    m.createdAt ≤ m.dueAt ↔ m.createdAt ≤ .latest ∨ m.dispatch = .timely ∨ m.dispatch = .delayed 0 := by
  cases dispatch : m.dispatch with
  | timely => simp [dueAt_of_timely dispatch, Instant.le_refl]
  | delayed seconds =>
    have order : (m.delayedBy 0).dueAt ≤ (m.delayedBy seconds).dueAt ↔ _ := m.dueAt_delayedBy_le_iff UInt64.zero_le
    rw [dueAt_delayedBy_zero, delayedBy_of_delayed dispatch] at order
    rw [order]
    simp

/-- When a message is due. One that does not wait is due at once. One that waits is due at the exact sum if the calendar
reaches that far, with the leap second counted as the second that it extends if there is anything to wait, and otherwise
at the latest instant; steps that give up on their way to the calendar come to the same. Unless a message is sent after
the latest instant, in the leap second that ends the calendar, and waits, it is not due before it was sent, and does not
come due earlier for waiting longer; in that leap second the least delay makes it due earlier than none does. -/
theorem due_times_follow_delays_before_last_leap_second (m : Message) :
    (m.dispatch = .timely → m.dueAt = m.createdAt) ∧
      (∀ seconds, m.dispatch = .delayed seconds →
        if m.createdAt.second + seconds.toNat ≤ Instant.latest.second then
          m.dueAt.second = m.createdAt.second + seconds.toNat ∧
            m.dueAt.nano = if seconds = 0 then m.createdAt.nano else m.createdAt.nano % 1000000000
        else m.dueAt = .latest) ∧
      m.dueAtInSteps = m.dueAt ∧
      (m.createdAt ≤ m.dueAt ↔ m.createdAt ≤ .latest ∨ m.dispatch = .timely ∨ m.dispatch = .delayed 0) ∧
      ∀ fewer more, fewer ≤ more →
        ((m.delayedBy fewer).dueAt ≤ (m.delayedBy more).dueAt ↔ m.createdAt ≤ .latest ∨ fewer ≠ 0 ∨ more = 0) := by
  refine ⟨dueAt_of_timely, fun seconds delayed => ?_, m.dueAtInSteps_eq, m.createdAt_le_dueAt_iff,
    fun fewer more le => m.dueAt_delayedBy_le_iff le⟩
  have law := m.dueAt_delayedFrom m.createdAt seconds
  have same : m.delayedFrom m.createdAt seconds = m := delayedBy_of_delayed delayed
  rwa [same] at law

/-- A message that waits a second, sent in the leap second that ends the calendar. -/
private def lastCall : Message :=
  delayedBy (.new "request" ⟨"orders", "created"⟩ [] ((Instant.of? 8210266876799 1000000000).getD .latest)) 1

/-- Its envelope is accepted, but it is due before it was sent, and earlier than if it did not wait. -/
theorem late_leap_second_is_due_before_sent :
    decode lastCall.encode = .ok lastCall ∧ lastCall.createdAt.text = "+262142-12-31T23:59:60Z" ∧
      lastCall.dueAt < lastCall.createdAt ∧ lastCall.dueAt < (lastCall.delayedBy 0).dueAt := by
  refine ⟨decode_written (by decide) (by decide), by decide +kernel, by decide, by decide⟩

end Message
end Courier
