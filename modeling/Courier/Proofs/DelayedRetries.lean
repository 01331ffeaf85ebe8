import Courier.Proofs.JourneyActs
import Courier.Proofs.Shares
import Courier.Settings.Basic

/-!
Where a retry is once the try that failed has ended, if retries wait in the due store. The broker is asked to keep it
for the wait in whole seconds, rounded up; if it refuses, the retry waits on an alarm. On a wait of more seconds than
the broker can count the worker breaks off between the two, and the retry waits in neither place. Seconds that leave 64
bits wrap round, and the retry is due at once.
-/
namespace Courier

namespace Engine

/-- An engine after a try that failed and left tries. -/
def failed (e : Engine) (ticket : Nat) : Engine :=
  { e with
    failedAttempts := e.failedAttempts + 1, retriesScheduled := e.retriesScheduled + 1
    pool := e.pool.complete ticket }

/-- A try that fails yields its delivery as it is to be tried again, if the policy has it so. -/
theorem finish_of_retry (e : Engine) (ticket : Nat) {b : Delivery} (delivering : b.attempt.state = .delivering)
    (why : HandlerError) {draw : Float} {wait : Span}
    (verdict : e.config.policy.decide (bump b.message.failRetryCount) draw = some (.retry wait)) :
    ∃ d calls, d.trigger = b.trigger ∧ d.message = { b.message.failed with isRetry := true } ∧
      e.config.policy.delay (bump b.message.failRetryCount) draw = some wait ∧
      e.finish ticket b (.error why) draw = (e.failed ticket, calls, some (d, wait)) := by
  unfold RetryPolicy.decide at verdict
  split at verdict
  · cases verdict
  · rename_i more
    obtain ⟨_, waits, same⟩ := Option.map_eq_some_iff.mp verdict
    cases same
    obtain ⟨d, calls, failed, _, trigger, _, message⟩ := Delivery.fail_retry delivering more why waits
    exact ⟨d, calls, trigger, message, waits, by simp only [finish, failed, release, Engine.failed]⟩

end Engine

namespace Broker

/-- A broker that takes messages keeps one for every number of seconds that it can count. -/
theorem publishDelayed_of_near {b : Broker} (publishes : b.publishError = none) (m : Message) {seconds : UInt64}
    (near : seconds ≤ longestDelay) (now : Instant) :
    b.publishDelayed m seconds now = (some (.ok ()), b.keep m (now.later (.ofSeconds seconds))) := by
  simp only [publishDelayed, publishes, UInt64.not_lt.mpr near, if_false]

theorem publishDelayed_of_refuses {b : Broker} {text : String} (refuses : b.publishError = some text) (m : Message)
    (seconds : UInt64) (now : Instant) :
    b.publishDelayed m seconds now = (some (.error (refusal m text)), b) := by
  simp only [publishDelayed, refuses]

end Broker

namespace System

/-- Whether a retry waits somewhere: in the due store, for the handler that failed, or with the engine. -/
def Waits (s : System) (d : Delivery) : Prop :=
  (∃ due, .ofMessage d.addressed due ∈ s.broker.store.entries) ∨ ∃ id, s.engine.pending.get? id = some d.waiting

/-- A system after a try that failed and left tries, before anything becomes of the retry. -/
def failed (s : System) (ticket : Nat) : System := { s with engine := s.engine.failed ticket }

variable {s : System} {d : Delivery} {wait : Span}

theorem waits_await (s : System) (d : Delivery) (wait : Span) : (s.await d wait).Waits d := by
  obtain ⟨alarms, is⟩ := s.await_spec d wait
  refine .inr ⟨s.engine.nextRetry, ?_⟩
  rw [is]
  show (s.engine.pending.insert s.engine.nextRetry d.waiting).get? s.engine.nextRetry = _
  rw [Table.get?_insert, if_pos rfl]

theorem waits_keep (s : System) (d : Delivery) (due : Instant) :
    ({ s with broker := s.broker.keep d.addressed due } : System).Waits d :=
  .inl ⟨due, DueStore.mem_placed_self _ _⟩

section Routes
variable (route : s.engine.config.route = .delayStore)
include route

theorem scheduleRetry_of_refuses {text : String} (refuses : s.broker.publishError = some text) :
    s.scheduleRetry d wait = s.await d wait := by
  simp only [scheduleRetry, route, publishRetry, Broker.publishDelayed_of_refuses refuses]

theorem scheduleRetry_of_near (publishes : s.broker.publishError = none)
    (near : wait.wholeSeconds ≤ Broker.longestDelay) :
    s.scheduleRetry d wait =
      { s with broker := s.broker.keep d.addressed (s.now.later (.ofSeconds wait.wholeSeconds)) } := by
  rcases s.scheduleRetry_cases d wait publishes with ⟨other, _⟩ | ⟨_, _, is⟩ | ⟨_, long, _⟩
  · cases route.symm.trans other
  · exact is
  · exact absurd near (UInt64.not_le.mpr long)

/-- A worker that asks for a delay beyond what the broker can count breaks off. -/
theorem scheduleRetry_of_long (publishes : s.broker.publishError = none)
    (long : Broker.longestDelay < wait.wholeSeconds) : s.scheduleRetry d wait = s := by
  simp only [scheduleRetry, route, publishRetry, Broker.publishDelayed, publishes, long, if_true]

end Routes

/-- Where a retry is whose try has failed on the delay-store route, under a policy without jitter and before a
shutdown. The wait is the policy's, and it is rounded up to whole seconds, the fewest that reach it, unless they wrap
round to none. A broker that takes messages keeps the retry for its handler, for as many seconds; one that it refuses is
pending, with an alarm set for it. But if the seconds are more than a broker that takes messages can count, nothing
becomes of the retry, except that it is counted as scheduled. -/
theorem delayed_retries_wait_unless_too_long {ticket : Nat} {b : Delivery}
    (steady : s.engine.config.policy.jitter ≤ 0.0) (route : s.engine.config.route = .delayStore)
    (timers : s.engine.timersStopped = false) (working : s.engine.atWork? ticket = some b)
    (delivering : b.attempt.state = .delivering) (why : HandlerError) {draw : Float}
    (verdict : s.engine.config.policy.decide (bump b.message.failRetryCount) draw = some (.retry wait)) :
    let after := s.act (.finish ticket (.error why) draw)
    ∃ d : Delivery, d.trigger = b.trigger ∧ d.message = { b.message.failed with isRetry := true } ∧
      (∀ due, (DueEntry.ofMessage d.addressed due).addressee? = some b.trigger.handlerId) ∧
      wait = s.engine.config.policy.backoff d.message.failRetryCount ∧
      (∀ n : Nat, wait.ceilSeconds ≤ n ↔ wait.nanos ≤ n * 1000000000) ∧
      (wait.ceilSeconds < 2 ^ 64 → wait.wholeSeconds.toNat = wait.ceilSeconds) ∧
      (2 ^ 64 ≤ wait.ceilSeconds → wait.wholeSeconds = 0) ∧
      (s.broker.publishError = none → wait.wholeSeconds ≤ Broker.longestDelay →
        after.Waits d ∧ after.engine = s.engine.failed ticket ∧
          s.broker.publishDelayed d.addressed wait.wholeSeconds s.now = (some (.ok ()), after.broker) ∧
          .ofMessage d.addressed (s.now.later (.ofSeconds wait.wholeSeconds)) ∈ after.broker.store.entries) ∧
      (∀ text, s.broker.publishError = some text →
        after.Waits d ∧ after.broker = s.broker ∧
          after.engine.pending = s.engine.pending.insert s.engine.nextRetry d.waiting ∧
          after.alarms = s.alarms.set (s.count + wait.nanos) (.retry s.engine.nextRetry)) ∧
      (s.broker.publishError = none → Broker.longestDelay < wait.wholeSeconds → after = s.failed ticket) := by
  intro after
  obtain ⟨d, calls, trigger, message, waits, finished⟩ := s.engine.finish_of_retry ticket delivering why verdict
  have afterIs : after = (s.failed ticket).scheduleRetry d wait := by
    show s.act (.finish ticket (.error why) draw) = _
    simp only [act, working, finish, finished, failed]
  have route' : (s.failed ticket).engine.config.route = .delayStore := route
  refine ⟨d, trigger, message, fun due => ?_, ?_, wait.ceilSeconds_le_iff, Span.toNat_wholeSeconds,
    Span.wholeSeconds_of_uncounted, ?_, ?_, ?_⟩
  · rw [DueEntry.addressee?, DueEntry.letter?_ofMessage, ← trigger]
    rfl
  · rw [RetryPolicy.delay_of_steady steady] at waits
    rw [message]
    exact (Option.some.inj waits).symm
  · intro publishes near
    rw [afterIs, scheduleRetry_of_near route' publishes near]
    exact ⟨waits_keep _ _ _, rfl, Broker.publishDelayed_of_near publishes d.addressed near s.now,
      DueStore.mem_placed_self _ _⟩
  · intro text refuses
    rw [afterIs, scheduleRetry_of_refuses route' refuses]
    refine ⟨waits_await _ _ _, ?_⟩
    rw [await_eq (s.failed ticket) _ _ timers]
    exact ⟨rfl, rfl, rfl⟩
  · intro publishes long
    rw [afterIs, scheduleRetry_of_long route' publishes long]

private def reminder : Message := ⟨"request", ⟨"orders", "created"⟩, [], 1, 0, 0, false, .timely, .epoch, none⟩

private def reminded : Trigger := .new ⟨"orders", "created"⟩ "mailer"

/-- A system with some settings whose only handler is at work. -/
private def mailing (settings : Settings) : System :=
  [.deliver reminder reminded, .pickUp, .start 0 (fun _ _ => .proceed)].foldl act
    (.new .epoch (.new ⟨settings.policy, settings.retryRoute, settings.pool, .zero⟩ .empty 0))

/-- What the handler is at work on. -/
private def atWork : Delivery := ⟨0, reminder, reminded, ⟨"request", "mailer", .epoch, .delivering, none⟩⟩

private def setback : Act := .finish 0 (.error ⟨"unreachable"⟩) 0

private def inStore : Settings := { Settings.standard with retryRoute := .delayStore }

/-- Waits of a little more than 2^63 milliseconds. -/
private def patient : Settings :=
  { inStore with retryBackoffSeconds := 9223372036854776, retryMaxDelaySeconds := 9223372036854776 }

theorem delayed_retries_wait_unless_too_long_standard :
    let s := mailing inStore
    s.engine.config.policy.jitter ≤ 0.0 ∧ s.engine.config.route = .delayStore ∧ s.engine.timersStopped = false ∧
      s.engine.atWork? 0 = some atWork ∧ atWork.attempt.state = .delivering ∧
      s.engine.config.policy.decide (bump atWork.message.failRetryCount) 0 = some (.retry (.ofSeconds 3)) ∧
      s.broker.publishError = none ∧ ∃ d, d.trigger = reminded ∧ (s.act setback).Waits d := by
  have steady : (mailing inStore).engine.config.policy.jitter ≤ 0.0 := by decide +kernel
  have working : (mailing inStore).engine.atWork? 0 = some atWork := by decide +kernel
  have verdict : (mailing inStore).engine.config.policy.decide (bump atWork.message.failRetryCount) 0 =
      some (.retry (.ofSeconds 3)) := by decide +kernel
  obtain ⟨d, trigger, _, _, _, _, _, _, kept, _⟩ :=
    delayed_retries_wait_unless_too_long (s := mailing inStore) steady rfl rfl working rfl ⟨"unreachable"⟩ verdict
  exact ⟨steady, rfl, rfl, working, rfl, verdict, rfl, d, trigger, (kept rfl (by decide)).1⟩

/-- Under settings that are allowed, a retry that was counted as scheduled waits nowhere once its try has ended. -/
theorem long_retry_waits_nowhere :
    let s := mailing patient
    patient.validate = .ok () ∧ s.engine.config.policy.jitter ≤ 0.0 ∧ s.engine.config.route = .delayStore ∧
      s.engine.timersStopped = false ∧ s.broker.publishError = none ∧ s.engine.atWork? 0 = some atWork ∧
      s.engine.config.policy.decide (bump atWork.message.failRetryCount) 0 =
        some (.retry (.ofSeconds 9223372036854776)) ∧
      (s.act setback).engine.retriesScheduled = 1 ∧ ¬ ∃ d, (s.act setback).Waits d := by
  have stored : ((mailing patient).act setback).broker.store.entries = [] := by decide +kernel
  have pending : ((mailing patient).act setback).engine.pending.entries = [] := by decide +kernel
  refine ⟨by decide +kernel, by decide +kernel, rfl, rfl, rfl, by decide +kernel, by decide +kernel, by decide +kernel, ?_⟩
  rintro ⟨d, ⟨due, inside⟩ | ⟨id, found⟩⟩
  · rw [stored] at inside
    cases inside
  · have inside := Table.get?_eq_some_iff.mp found
    rw [pending] at inside
    cases inside

end System
end Courier
