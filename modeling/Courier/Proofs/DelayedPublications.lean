import Courier.Proofs.DelayedRetries
import Courier.Proofs.Envelopes

/-!
Messages that are published with a delay of their own. The broker keeps one until the instant at which a delayed
message would be due that was sent at the time of publication: that instant is the exact sum, or the latest one if the
sum is out of reach. A message has such an instant for every delay, but the broker breaks off on delays that it cannot
count, all of which lead out of reach.
-/
namespace Courier

namespace Message

/-- A message as it would be if it had been sent at an instant, to be delivered a number of seconds after that. -/
def delayedFrom (m : Message) (sentAt : Instant) (seconds : UInt64) : Message :=
  { m with dispatch := .delayed seconds, createdAt := sentAt }

/-- The instant at which a delayed message is due is the exact sum, or the latest one. Whole seconds lead out of a
leap second if there are any. -/
theorem dueAt_delayedFrom (m : Message) (sentAt : Instant) (seconds : UInt64) :
    let due := (m.delayedFrom sentAt seconds).dueAt
    if sentAt.second + seconds.toNat ≤ Instant.latest.second then
      due.second = sentAt.second + seconds.toNat ∧
        due.nano = if seconds = 0 then sentAt.nano else sentAt.nano % 1000000000
    else due = .latest := by
  intro due
  have cases_ := sentAt.later_cases (.ofSeconds seconds)
  have nano := sentAt.nano_lt
  have within := sentAt.notAfter
  have last : Instant.latest.second = 8210266876799 := rfl
  rw [Span.nanos_ofSeconds] at cases_
  show if _ then (sentAt.later (.ofSeconds seconds)).second = _ ∧ (sentAt.later (.ofSeconds seconds)).nano = _
    else sentAt.later (.ofSeconds seconds) = _
  by_cases none : seconds.toNat = 0
  · have zero : seconds = 0 := UInt64.toNat_inj.mp none
    rw [none] at cases_ ⊢
    rw [if_pos (by omega), if_pos zero]
    omega
  · have some_ : seconds ≠ 0 := fun zero => none (UInt64.toNat_inj.mpr zero)
    rw [if_neg some_]
    split
    · omega
    · refine Instant.ext ?_ ?_
      · omega
      · show _ = 999999999
        omega

/-- Delays that the broker cannot count lead out of reach. -/
theorem dueAt_delayedFrom_of_long (m : Message) (sentAt : Instant) {seconds : UInt64}
    (long : Broker.longestDelay < seconds) : (m.delayedFrom sentAt seconds).dueAt = .latest := by
  have law := m.dueAt_delayedFrom sentAt seconds
  have many : 9223372036854775 < seconds.toNat := UInt64.lt_iff_toNat_lt.mp long
  have first := sentAt.notBefore
  have last : Instant.latest.second = 8210266876799 := rfl
  rwa [if_neg (by omega)] at law

end Message

namespace Broker

/-- What comes of publishing a message with a delay while the broker takes messages. Up to the longest delay that the
broker can count it keeps one entry, which holds the message as its envelope tells it and is due when a message delayed
so would be that was sent now, that is, at the exact sum or at the latest instant. On a longer delay it breaks off and
keeps nothing, although such a message would be due at the latest instant. -/
theorem delayed_messages_kept_unless_too_long {b : Broker} (available : b.publishError = none) {m : Message}
    (delivered : 1 ≤ m.deliverCount) (seconds : UInt64) (now : Instant) :
    let due := (m.delayedFrom now seconds).dueAt
    (if now.second + seconds.toNat ≤ Instant.latest.second then
        due.second = now.second + seconds.toNat ∧ due.nano = if seconds = 0 then now.nano else now.nano % 1000000000
      else due = .latest) ∧
      (seconds ≤ longestDelay → ∃ e : DueEntry,
        e.message = .ok m.told ∧ (¬ m.createdAt.IsStray → e.message = .ok m) ∧ e.dueAt = due ∧
        b.publishDelayed m seconds now =
          (some (.ok ()), { b with store := b.store.insert e, delayedPublishes := b.delayedPublishes + 1 }) ∧
        e ∈ (b.store.insert e).entries) ∧
      (longestDelay < seconds → due = .latest ∧ b.publishDelayed m seconds now = (none, b)) := by
  intro due
  refine ⟨m.dueAt_delayedFrom now seconds, ?_, ?_⟩
  · intro near
    have readable : m.deliverCount ≠ 0 := by
      intro never
      rw [never] at delivered
      exact absurd delivered (by decide)
    exact ⟨.ofMessage m due, Message.decode_encode readable, Message.decode_written readable, rfl,
      publishDelayed_of_near available m near now, DueStore.mem_placed_self _ _⟩
  · intro long
    refine ⟨m.dueAt_delayedFrom_of_long now long, ?_⟩
    simp only [publishDelayed, available, long, if_true]

private def bulletin : Message := .new "request" ⟨"orders", "created"⟩ [] .epoch

theorem delayed_messages_kept_unless_too_long_bulletin :
    empty.publishError = none ∧ 1 ≤ bulletin.deliverCount ∧
      ∃ e : DueEntry, e.message = .ok bulletin ∧ e.dueAt = ((Instant.of? 30 0).getD .latest) ∧
        (empty.publishDelayed bulletin 30 .epoch).2.store.entries = [e] := by
  obtain ⟨_, kept, _⟩ :=
    delayed_messages_kept_unless_too_long (b := empty) rfl (m := bulletin) (by decide) 30 .epoch
  obtain ⟨e, _, holds, due, published, _⟩ := kept (by decide)
  refine ⟨rfl, by decide, e, holds (by decide), due.trans (by decide), ?_⟩
  rw [published]
  rfl

/-- A message is published with a delay, the broker takes messages, and nothing is kept, although a message of the same
delay has an instant at which it is due. -/
theorem long_delay_is_not_kept :
    empty.publishError = none ∧ bulletin.deliverCount = 1 ∧
      (empty.publishDelayed bulletin 9223372036854776 .epoch).1 = none ∧
      (empty.publishDelayed bulletin 9223372036854776 .epoch).2.store.entries = [] ∧
      (bulletin.delayedFrom .epoch 9223372036854776).dueAt = .latest := by
  decide +kernel

end Broker
end Courier
