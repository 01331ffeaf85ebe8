import Courier.Engine.Basic

/-!
What becomes of a delivery in one try. A try that the attempt's state allows never breaks the rules of the states:
it starts, and it ends in an acknowledgement or in a failure, after which there is another try or none. What the
handler is called with, and those who learn of the end, can be told from the message alone.
-/
namespace Courier

/-! ### Policies -/

namespace RetryPolicy
variable {p : RetryPolicy}

/-- Whether there is a wait after every failure, whatever chance decides. -/
def AlwaysWaits (p : RetryPolicy) : Prop := ∀ n draw, ∃ wait, p.delay n draw = some wait

/-- Without jitter chance has no say in the waits. -/
theorem delay_of_steady (steady : p.jitter ≤ 0.0) (n : UInt32) (draw : Float) : p.delay n draw = some (p.backoff n) := by
  simp only [delay, steady, true_or, if_true]

theorem alwaysWaits_of_steady (steady : p.jitter ≤ 0.0) : p.AlwaysWaits :=
  fun n draw => ⟨p.backoff n, delay_of_steady steady n draw⟩

theorem backoff_le (p : RetryPolicy) (n : UInt32) : (p.backoff n).nanos ≤ p.maxDelay.nanos := by
  rw [backoff, Span.nanos_shorter]
  exact Nat.min_le_right ..

/-- No wait passes the largest one. -/
theorem delay_le {n : UInt32} {draw : Float} {wait : Span} (waits : p.delay n draw = some wait) :
    wait.nanos ≤ p.maxDelay.nanos := by
  by_cases steady : p.jitter ≤ 0.0 ∨ p.backoff n = .zero
  · simp only [delay, if_pos steady] at waits
    cases waits
    exact p.backoff_le n
  · simp only [delay, if_neg steady, Option.ite_none_left_eq_some] at waits
    obtain ⟨spread, _, rfl⟩ := Option.map_eq_some_iff.mp waits.2
    rw [Span.nanos_shorter]
    exact Nat.min_le_right ..

end RetryPolicy

/-! ### Counters -/

/-- As long as a count is below some bound, it goes up by one. -/
theorem toNat_bump_of_lt {n bound : UInt32} (below : ¬ bound ≤ bump n) : (bump n).toNat = n.toNat + 1 := by
  have less : (bump n).toNat < bound.toNat := UInt32.lt_iff_toNat_lt.mp (UInt32.not_le.mp below)
  have most := bound.toNat_lt
  rw [toNat_bump] at less ⊢
  omega

namespace Message

/-- The message in a try: one that follows a failure counts as a delivery of its own. -/
def begun (m : Message) : Message := if m.isRetry then { m with deliverCount := bump m.deliverCount } else m

/-- The message after one more failure. -/
def failed (m : Message) : Message := { m with failRetryCount := bump m.failRetryCount }

theorem failRetryCount_begun (m : Message) : m.begun.failRetryCount = m.failRetryCount := by
  unfold begun
  split <;> rfl

end Message

/-! ### Attempts -/

/-- Whether the next try of an attempt may start. -/
def Attempt.IsReady (a : Attempt) : Prop := a.state = .pending ∨ a.state = .retryScheduled

namespace Attempt
variable {a : Attempt}

theorem IsReady.not_delivering (ready : a.IsReady) : a.state ≠ .delivering := by
  intro delivering
  rcases ready with pending | waiting
  · simp [pending] at delivering
  · simp [waiting] at delivering

/-- A try counts as a delivery of its own if a failure came before, wherever that is noted. -/
theorem IsReady.begin_eq (ready : a.IsReady) (m : Message) (now : Instant) :
    a.begin m now = .ok ({ a with state := .delivering, startedAt := now, nextAction := none },
      if a.isRedelivery m then { m with deliverCount := bump m.deliverCount } else m) := by
  have moves : a.moveTo .delivering = .ok { a with state := .delivering } := by
    rcases ready with state | state
    · simp [moveTo, state, State.canMoveTo]
    · simp [moveTo, state, State.canMoveTo]
  simp only [Attempt.begin, moves, bind, Except.bind, pure, Except.pure]

theorem IsReady.begin (ready : a.IsReady) (m : Message) (now : Instant) :
    ∃ started told, a.begin m now = .ok (started, told) ∧ started.state = .delivering :=
  ⟨_, _, ready.begin_eq m now, rfl⟩

variable (delivering : a.state = .delivering)
include delivering

theorem acknowledge_ok : ∃ acked, a.acknowledge = .ok acked := by
  have moves : a.moveTo .acked = .ok { a with state := .acked } := by simp [moveTo, delivering, State.canMoveTo]
  simp only [acknowledge, moves, bind, Except.bind, pure, Except.pure]
  exact ⟨_, rfl⟩

private theorem moves_failed : a.moveTo .failed = .ok { a with state := .failed } := by
  simp [moveTo, delivering, State.canMoveTo]

/-- A failure that leaves no tries. -/
theorem fail_exhaust (m : Message) {policy : RetryPolicy} (last : policy.maxRetries ≤ bump m.failRetryCount)
    (draw : Float) :
    a.fail m policy draw =
      .ok ({ a with state := .exhausted, nextAction := some .exhaust }, m.failed, some .exhaust) := by
  have verdict : policy.decide (bump m.failRetryCount) draw = some .exhaust := if_pos last
  simp only [fail, moves_failed delivering, verdict, bind, Except.bind, pure, Except.pure]
  rfl

/-- A failure that leaves tries, the next one after a wait. -/
theorem fail_retry (m : Message) {policy : RetryPolicy} (more : ¬ policy.maxRetries ≤ bump m.failRetryCount)
    {draw : Float} {wait : Span} (waits : policy.delay (bump m.failRetryCount) draw = some wait) :
    a.fail m policy draw =
      .ok ({ a with state := .retryScheduled, nextAction := some (.retry wait) }, { m.failed with isRetry := true },
        some (.retry wait)) := by
  have verdict : policy.decide (bump m.failRetryCount) draw = some (.retry wait) := by
    rw [RetryPolicy.decide, if_neg more, waits]
    rfl
  simp only [fail, moves_failed delivering, verdict, bind, Except.bind, pure, Except.pure]
  rfl

/-- A failure that leaves tries, under a policy that breaks off. -/
theorem fail_broken (m : Message) {policy : RetryPolicy} (more : ¬ policy.maxRetries ≤ bump m.failRetryCount)
    {draw : Float} (breaks : policy.delay (bump m.failRetryCount) draw = none) :
    a.fail m policy draw = .ok ({ a with state := .failed }, m.failed, none) := by
  have verdict : policy.decide (bump m.failRetryCount) draw = none := by
    rw [RetryPolicy.decide, if_neg more, breaks]
    rfl
  simp only [fail, moves_failed delivering, verdict, bind, Except.bind, pure, Except.pure]
  rfl

/-- A failure is never refused. -/
theorem fail_ok (m : Message) (policy : RetryPolicy) (draw : Float) :
    ∃ next told action, a.fail m policy draw = .ok (next, told, action) := by
  by_cases last : policy.maxRetries ≤ bump m.failRetryCount
  · exact ⟨_, _, _, fail_exhaust delivering m last draw⟩
  · cases waits : policy.delay (bump m.failRetryCount) draw with
    | none => exact ⟨_, _, _, fail_broken delivering m last waits⟩
    | some wait => exact ⟨_, _, _, fail_retry delivering m last waits⟩

end Attempt

/-! ### Calls -/

namespace DeliveryCall

def isHandler : DeliveryCall → Bool
  | .handler _ => true
  | _ => false

/-- Whether a call is one of a handler or of those who learn of the end. -/
def isSeen : DeliveryCall → Bool
  | .handler _ | .failCallback _ _ => true
  | _ => false

end DeliveryCall

/-- The calls of a handler and of those who learn of the end. -/
def seen (calls : List DeliveryCall) : List DeliveryCall := calls.filter DeliveryCall.isSeen

theorem seen_append (a b : List DeliveryCall) : seen (a ++ b) = seen a ++ seen b := List.filter_append ..

/-- How many of some calls are calls of a handler. -/
def handlerCalls (calls : List DeliveryCall) : Nat := calls.countP DeliveryCall.isHandler

theorem handlerCalls_append (a b : List DeliveryCall) : handlerCalls (a ++ b) = handlerCalls a + handlerCalls b :=
  List.countP_append

theorem handlerCalls_seen (calls : List DeliveryCall) : handlerCalls (seen calls) = handlerCalls calls := by
  rw [handlerCalls, seen, List.countP_filter]
  exact List.countP_congr (fun call _ => by cases call <;> simp [DeliveryCall.isHandler, DeliveryCall.isSeen])

theorem handlerCalls_of_seen {calls : List DeliveryCall} (silent : seen calls = []) : handlerCalls calls = 0 := by
  rw [← handlerCalls_seen, silent]
  rfl

/-! ### Deliveries -/

namespace Delivery
variable {d : Delivery}

/-- What an event says about the attempt of a delivery. -/
def context (d : Delivery) : AttemptContext := d.attempt.context d.message

/-- A delivery once its next try has started. -/
def begun (d : Delivery) (now : Instant) : Delivery :=
  { d with
    message :=
      if d.attempt.isRedelivery d.message then { d.message with deliverCount := bump d.message.deliverCount }
      else d.message
    attempt := { d.attempt with state := .delivering, startedAt := now, nextAction := none } }

/-- A delivery whose try has failed and that is to be tried again after a wait. -/
def retrying (d : Delivery) (wait : Span) : Delivery :=
  { d with
    message := { d.message.failed with isRetry := true }
    attempt := { d.attempt with state := .retryScheduled, nextAction := some (.retry wait) } }

theorem seen_consult (decide : Decisions) (m : Message) (place n : Nat) : seen (consult decide m place n).1 = [] := by
  induction n generalizing place with
  | zero => rfl
  | succ n ih =>
    unfold consult
    split
    · exact ih (place + 1)
    · rfl

theorem consult_steady {decide : Decisions} (steady : ∀ place m, decide place m ≠ .crash) (m : Message)
    (place n : Nat) : (consult decide m place n).2 ≠ .crash := by
  induction n generalizing place with
  | zero => nofun
  | succ n ih =>
    have here := steady place m
    unfold consult
    split
    · exact ih (place + 1)
    · exact here

/-- Interceptors that let every message pass let it pass all together. -/
theorem consult_proceed (m : Message) (place n : Nat) : (consult (fun _ _ => .proceed) m place n).2 = .proceed := by
  induction n generalizing place with
  | zero => rfl
  | succ n ih => exact ih (place + 1)

/-- A try that is ready starts, says so, and asks the interceptors. -/
theorem start_eq (ready : d.attempt.IsReady) (interceptors : Nat) (decide : Decisions) (now : Instant) :
    d.start interceptors decide now =
      .ok (d.begun now,
        .event (.attemptStarted (d.begun now).context) :: (consult decide (d.begun now).message 0 interceptors).1,
        (consult decide (d.begun now).message 0 interceptors).2) := by
  simp only [start, ready.begin_eq, bind, Except.bind, pure, Except.pure]
  rfl

theorem start_ok (ready : d.attempt.IsReady) (interceptors : Nat) (decide : Decisions) (now : Instant) :
    ∃ next calls, d.start interceptors decide now =
        .ok (next, calls, (consult decide next.message 0 interceptors).2) ∧
      seen calls = [] ∧ next.trigger = d.trigger ∧ next.attempt.state = .delivering ∧
      next.message =
        if d.attempt.isRedelivery d.message then { d.message with deliverCount := bump d.message.deliverCount }
        else d.message :=
  ⟨_, _, start_eq ready interceptors decide now, seen_consult .., rfl, rfl, rfl⟩

variable (delivering : d.attempt.state = .delivering)
include delivering

/-- An acknowledgement: all interceptors are told, and then everyone. -/
theorem acknowledge_eq (interceptors : Nat) (short : Bool) :
    ∃ next, d.acknowledge interceptors short =
      .ok (next, (List.range interceptors).map (fun place => .after place d.message) ++
        [.event (.acked d.context short)]) := by
  have moves : d.attempt.moveTo .acked = .ok { d.attempt with state := .acked } := by
    simp [Attempt.moveTo, delivering, Attempt.State.canMoveTo]
  simp only [acknowledge, Attempt.acknowledge, moves, bind, Except.bind, pure, Except.pure]
  exact ⟨_, rfl⟩

theorem acknowledge_ok (interceptors : Nat) (short : Bool) :
    ∃ next calls, d.acknowledge interceptors short = .ok (next, calls) ∧ seen calls = [] := by
  obtain ⟨next, acked⟩ := acknowledge_eq delivering interceptors short
  exact ⟨next, _, acked, by simp [seen, DeliveryCall.isSeen]⟩

/-- A failure that leaves no tries: everyone is told, and those who are to learn of it. -/
theorem fail_exhaust_eq {policy : RetryPolicy} (last : policy.maxRetries ≤ bump d.message.failRetryCount)
    (why : HandlerError) (draw : Float) :
    ∃ next, d.fail why policy draw =
      .ok (next, .event (.exhausted d.context why.message) ::
        (if d.trigger.hasFailCallback then [.failCallback d.message.failed why] else []), some .exhaust) := by
  simp only [fail, Attempt.fail_exhaust delivering d.message last draw, bind, Except.bind, pure, Except.pure]
  exact ⟨_, rfl⟩

theorem fail_exhaust {policy : RetryPolicy} (last : policy.maxRetries ≤ bump d.message.failRetryCount)
    (why : HandlerError) (draw : Float) :
    ∃ next calls, d.fail why policy draw = .ok (next, calls, some .exhaust) ∧
      seen calls = if d.trigger.hasFailCallback then [.failCallback d.message.failed why] else [] := by
  obtain ⟨next, failed⟩ := fail_exhaust_eq delivering last why draw
  refine ⟨next, _, failed, ?_⟩
  cases d.trigger.hasFailCallback
  · rfl
  · rfl

section
variable {policy : RetryPolicy} (more : ¬ policy.maxRetries ≤ bump d.message.failRetryCount) (why : HandlerError)
  {draw : Float}
include more

/-- A failure that leaves tries: everyone is told for how long the delivery waits, which is what the policy says. -/
theorem fail_retry_eq {wait : Span} (waits : policy.delay (bump d.message.failRetryCount) draw = some wait) :
    d.fail why policy draw =
      .ok (d.retrying wait,
        [.event (.retryScheduled { d.context with isRetry := true } why.message (millisCapped wait))],
        some (.retry wait)) := by
  simp only [fail, Attempt.fail_retry delivering d.message more waits, bind, Except.bind, pure, Except.pure]
  rfl

theorem fail_retry {wait : Span} (waits : policy.delay (bump d.message.failRetryCount) draw = some wait) :
    ∃ next calls, d.fail why policy draw = .ok (next, calls, some (.retry wait)) ∧
      seen calls = [] ∧ next.trigger = d.trigger ∧ next.attempt.state = .retryScheduled ∧
      next.message = { d.message.failed with isRetry := true } :=
  ⟨_, _, fail_retry_eq delivering more why waits, rfl, rfl, rfl, rfl⟩

/-- A failure that leaves tries, under a policy that breaks off: nobody is told. -/
theorem fail_broken (breaks : policy.delay (bump d.message.failRetryCount) draw = none) :
    ∃ next, d.fail why policy draw = .ok (next, [], none) := by
  simp only [fail, Attempt.fail_broken delivering d.message more breaks, bind, Except.bind, pure, Except.pure]
  exact ⟨_, rfl⟩

end

end Delivery
end Courier
