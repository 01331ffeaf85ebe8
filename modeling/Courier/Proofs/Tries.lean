import Courier.Broker
import Courier.Engine.Basic
import Courier.Poll.Config
import Courier.Proofs.Attempts
import Courier.Proofs.Envelopes

/-!
The tries of one message at one handler. An errand says which message is brought to which handler, under
which settings, and how each call of the handler ends; its plan is what the handler and those who learn of
the end are to see. What a try does to the counters is the same for an attempt that is kept from try to try
and for one that starts anew with a message that failed before.
-/
namespace Courier

/-- A poller can work with settings under which its locks outlast the pauses and it takes some entry at a time. -/
theorem PollConfig.validate_ok {c : PollConfig} (valid : c.validate = .ok ()) :
    c.interval.nanos < c.lockTimeout.nanos ∧ 0 < c.batchSize := by
  unfold validate at valid
  split at valid
  · cases valid
  · rename_i outlasts
    split at valid
    · cases valid
    · exact ⟨Nat.not_le.mp outlasts, by omega⟩

/-! ### Errands -/

/-- How a call of a handler ends. -/
inductive Ending
  | success
  | error (why : HandlerError)
  /-- The handler breaks off. -/
  | panic (breakdown : Breakdown)

namespace Ending

/-- The failure that an ending counts as. -/
def failure? : Ending → Option HandlerError
  | .success => none
  | .error why => some why
  | .panic breakdown => some (.ofBreakdown breakdown)

/-- What the engine learns of an ending. -/
def result (e : Ending) : Except HandlerError Unit :=
  match e.failure? with
  | none => .ok ()
  | some why => .error why

end Ending

namespace Message

/-- Whether a message is on its way for the first time. -/
def IsFresh (m : Message) : Prop :=
  m.deliverCount = 1 ∧ m.failRetryCount = 0 ∧ m.isRetry = false ∧ m.targetHandler = none

instance (m : Message) : Decidable m.IsFresh := inferInstanceAs (Decidable (_ ∧ _))

/-- A message apart from what pollers and retries that wait elsewhere note on it. -/
def plain (m : Message) : Message := { m with pollingCount := 0, targetHandler := none }

/-- A message as its handler sees it in the `k`-th call. -/
def onTry (m : Message) (k : Nat) : Message :=
  { m with deliverCount := k.toUInt32, failRetryCount := (k - 1).toUInt32, isRetry := decide (1 < k) }

/-- A message that has failed `k` times and waits for its next try. -/
def afterFailures (m : Message) (k : Nat) : Message :=
  { m with deliverCount := (max k 1).toUInt32, failRetryCount := k.toUInt32, isRetry := decide (0 < k) }

end Message

/-- A message to be brought to a handler, and how each call of the handler ends, the first call being
number one. Waits do not depend on chance. -/
structure Errand where
  start : Instant
  config : EngineConfig
  registry : Registry
  interceptors : Nat
  polling : PollConfig
  message : Message
  trigger : Trigger
  endings : Nat → Ending
  steady : config.policy.jitter ≤ 0.0
  pollable : polling.validate = .ok ()
  fresh : message.IsFresh
  registered : registry.find trigger.handlerId = some trigger

/-- A call as far as an errand has a say in it: that of the handler, or that of those who learn of the end,
apart from what pollers and retries note on the message. -/
def DeliveryCall.shown? : DeliveryCall → Option DeliveryCall
  | .handler m => some (.handler m.plain)
  | .failCallback m why => some (.failCallback m.plain why)
  | _ => none

/-- The calls that an errand has a say in. -/
def shown (calls : List DeliveryCall) : List DeliveryCall := calls.filterMap DeliveryCall.shown?

namespace Errand

/-- How often the handler is called if it never succeeds: at least once. -/
def tries (e : Errand) : Nat := max 1 e.config.policy.maxRetries.toNat

/-- When the message was sent, as it says after `k` failures. One that comes out of the due store was sent when its
envelope tells. -/
def sentAt (e : Errand) (k : Nat) : Instant :=
  if e.config.route = .delayStore ∧ 0 < k then e.message.createdAt.told else e.message.createdAt

/-- The message as it is brought to its handler after `k` failures, apart from its counters. -/
def brought (e : Errand) (k : Nat) : Message := { e.message with createdAt := e.sentAt k }

/-- The `k`-th call of the handler. -/
def call (e : Errand) (k : Nat) : DeliveryCall := .handler ((e.brought (k - 1)).onTry k).plain

/-- The first `n` calls of the handler. -/
def calls (e : Errand) (n : Nat) : List DeliveryCall := (List.range' 1 n).map e.call

/-- The first call that succeeds, among those that are allowed. -/
def firstSuccess? (e : Errand) : Option Nat :=
  (List.range' 1 e.tries).find? (fun k => (e.endings k).failure?.isNone)

/-- What those learn who are called when no tries are left. -/
def regret (e : Errand) (why : HandlerError) : List DeliveryCall :=
  if e.trigger.hasFailCallback then
    [.failCallback { (e.brought (e.tries - 1)).onTry e.tries with failRetryCount := e.tries.toUInt32 }.plain why]
  else []

/-- How often the handler is called: up to its first success, or as often as is allowed. -/
def last (e : Errand) : Nat := e.firstSuccess?.getD e.tries

/-- All calls that an errand has a say in, in order: the handler is called up to its first success; if it
never succeeds, those who are to learn of it are called once, with the last failure. -/
def plan (e : Errand) : List DeliveryCall :=
  e.calls e.last ++
    match e.firstSuccess? with
    | some _ => []
    | none => ((e.endings e.tries).failure?.map e.regret).getD []

/-- Whether the first `k` calls fail. -/
def Fails (e : Errand) (k : Nat) : Prop := ∀ j, 1 ≤ j → j ≤ k → (e.endings j).failure? ≠ none

/-- Whether a retry can wait after the `k`-th failure: the broker, if it is asked to keep the message, has to count
the seconds. -/
def CanWait (e : Errand) (k : Nat) : Prop :=
  e.config.route = .delayStore → (e.config.policy.backoff k.toUInt32).wholeSeconds ≤ Broker.longestDelay

instance (e : Errand) (k : Nat) : Decidable (e.CanWait k) := inferInstanceAs (Decidable (_ → _))

/-- Whether retries can wait after each of the first `k` failures. -/
def Waited (e : Errand) (k : Nat) : Prop := ∀ j, 0 < j → j ≤ k → e.CanWait j

variable {e : Errand}

theorem brought_of_inProcess (inProcess : e.config.route = .inProcess) (k : Nat) : e.brought k = e.message := by
  have away : ¬ (e.config.route = .delayStore ∧ 0 < k) := by simp [inProcess]
  rw [brought, sentAt, if_neg away]

/-- At first it is brought as it was sent. -/
theorem brought_zero (e : Errand) : e.brought 0 = e.message := by
  rw [brought, sentAt, if_neg (fun away => Nat.lt_irrefl 0 away.2)]

/-- A message that was not sent in a stray leap second is brought to its handler as it was sent. -/
theorem brought_of_regular (regular : ¬ e.message.createdAt.IsStray) (k : Nat) : e.brought k = e.message := by
  rw [brought, sentAt, Instant.told_of_regular regular, ite_self]

/-- What comes out of the due store is what the envelope tells. -/
theorem told_brought (away : e.config.route = .delayStore) {k : Nat} (first : 0 < k) :
    (e.brought (k - 1)).told = e.brought k := by
  have told : (e.sentAt (k - 1)).told = e.message.createdAt.told := by
    unfold sentAt
    split
    · exact Instant.told_of_regular (Instant.told_regular _)
    · rfl
  show { e.message with createdAt := (e.sentAt (k - 1)).told } = e.brought k
  rw [told, brought, sentAt, if_pos ⟨away, first⟩]

/-- Whatever waits in process can wait. -/
theorem waited_of_inProcess (inProcess : e.config.route = .inProcess) (k : Nat) : e.Waited k :=
  fun j _ _ away => by rw [inProcess] at away; cases away

theorem waited_zero : e.Waited 0 := fun _ low high => absurd (Nat.lt_of_lt_of_le low high) (Nat.lt_irrefl 0)

theorem Waited.succ {k : Nat} (waited : e.Waited k) (next : e.CanWait (k + 1)) : e.Waited (k + 1) := by
  intro j low high
  rcases Nat.lt_or_eq_of_le high with earlier | rfl
  · exact waited j low (Nat.lt_succ_iff.mp earlier)
  · exact next

theorem Waited.mono {k n : Nat} (waited : e.Waited n) (le : k ≤ n) : e.Waited k :=
  fun j low high => waited j low (Nat.le_trans high le)

theorem fails_zero : e.Fails 0 := fun _ low high => absurd (Nat.le_trans low high) (by decide)

theorem Fails.succ {k : Nat} (fails : e.Fails k) {why : HandlerError}
    (failed : (e.endings (k + 1)).failure? = some why) : e.Fails (k + 1) := by
  intro j low high
  rcases Nat.lt_or_eq_of_le high with earlier | rfl
  · exact fails j low (Nat.lt_succ_iff.mp earlier)
  · rw [failed]
    nofun

theorem tries_pos (e : Errand) : 0 < e.tries := Nat.lt_of_lt_of_le Nat.zero_lt_one (Nat.le_max_left ..)

theorem tries_lt (e : Errand) : e.tries < 0x100000000 := by
  have small := e.config.policy.maxRetries.toNat_lt
  unfold tries
  omega

theorem calls_succ (e : Errand) (n : Nat) : e.calls (n + 1) = e.calls n ++ [e.call (n + 1)] := by
  rw [calls, List.range'_1_concat, List.map_append, Nat.add_comm 1 n]
  rfl

theorem calls_prefix (e : Errand) {k n : Nat} (le : k ≤ n) : e.calls k <+: e.calls n := by
  obtain ⟨rest, rfl⟩ := Nat.exists_eq_add_of_le le
  induction rest with
  | zero => exact List.prefix_refl _
  | succ rest ih =>
    refine (ih (Nat.le_add_right ..)).trans ?_
    rw [← Nat.add_assoc, calls_succ]
    exact List.prefix_append ..

/-- As long as calls fail and another one is allowed, there is another one. -/
theorem Fails.lt_last {k : Nat} (fails : e.Fails k) (allowed : k < e.tries) : k < e.last := by
  unfold last
  cases first : e.firstSuccess? with
  | none => exact allowed
  | some i =>
    obtain ⟨succeeds, within, _⟩ := List.find?_range'_eq_some.mp first
    refine Nat.lt_of_not_le (fun early => ?_)
    exact fails i (List.mem_range'_1.mp within).1 early (by simpa using succeeds)

/-- As long as calls fail, those up to the next one are planned. -/
theorem calls_prefix_plan {k : Nat} (fails : e.Fails k) (allowed : k < e.tries) : e.calls (k + 1) <+: e.plan :=
  (e.calls_prefix (fails.lt_last allowed)).trans (List.prefix_append ..)

theorem plan_of_success {k : Nat} (fails : e.Fails k) (allowed : k < e.tries)
    (succeeds : (e.endings (k + 1)).failure? = none) : e.last = k + 1 ∧ e.plan = e.calls (k + 1) := by
  have first : e.firstSuccess? = some (k + 1) := by
    refine List.find?_range'_eq_some.mpr ⟨by simp [succeeds], List.mem_range'_1.mpr (by omega), fun j low early => ?_⟩
    have failed := fails j low (Nat.lt_succ_iff.mp early)
    simpa [Option.isSome_iff_ne_none] using failed
  simp only [plan, last, first, Option.getD_some, List.append_nil]
  exact ⟨trivial, trivial⟩

theorem plan_of_fails {why : HandlerError} (fails : e.Fails e.tries)
    (last : (e.endings e.tries).failure? = some why) :
    e.last = e.tries ∧ e.plan = e.calls e.tries ++ e.regret why := by
  have first : e.firstSuccess? = none := by
    refine List.find?_range'_eq_none.mpr (fun j low high => ?_)
    have failed := fails j low (by omega)
    simpa [Option.isSome_iff_ne_none] using failed
  simp only [plan, Errand.last, first, last, Option.map_some, Option.getD_some, Option.getD_none]
  exact ⟨trivial, trivial⟩

/-! ### Counters -/

/-- A delivery of the errand that waits for its next try after `k` failures. -/
structure Waits (e : Errand) (k : Nat) (d : Delivery) : Prop where
  trigger : d.trigger = e.trigger
  message : d.message.plain = ((e.brought k).afterFailures k).plain
  state : d.attempt.state = .pending ∨ (d.attempt.state = .retryScheduled ∧ 0 < k)

theorem Waits.state_ne {e : Errand} {k : Nat} {d : Delivery} (waits : e.Waits k d) :
    d.attempt.state ≠ .delivering := by
  rcases waits.state with state | ⟨state, _⟩ <;> rw [state] <;> decide

/-- A delivery of the errand whose handler is at work for the `k`-th time. -/
structure AtWork (e : Errand) (k : Nat) (d : Delivery) : Prop where
  trigger : d.trigger = e.trigger
  message : d.message.plain = ((e.brought (k - 1)).onTry k).plain
  state : d.attempt.state = .delivering

/-- A delivery of the errand whose handler has just failed for the `k`-th time, and that may be tried again. -/
structure HasFailed (e : Errand) (k : Nat) (d : Delivery) : Prop where
  trigger : d.trigger = e.trigger
  message : d.message.plain = ((e.brought (k - 1)).afterFailures k).plain
  state : d.attempt.state = .retryScheduled
  first : 0 < k

/-- If retries wait in process, the message is at once as it is for its next try. -/
theorem HasFailed.waits {k : Nat} {d : Delivery} (failed : e.HasFailed k d) (inProcess : e.config.route = .inProcess) :
    e.Waits k d where
  trigger := failed.trigger
  message := by rw [failed.message, brought_of_inProcess inProcess, brought_of_inProcess inProcess]
  state := .inr ⟨failed.state, failed.first⟩

private theorem bump_toUInt32 {n : Nat} (small : n + 1 < 0x100000000) : bump n.toUInt32 = (n + 1).toUInt32 := by
  have low : n.toUInt32.toNat = n := by simp [Nat.toUInt32, UInt32.toNat_ofNat']; omega
  have high : (n + 1).toUInt32.toNat = n + 1 := by simp [Nat.toUInt32, UInt32.toNat_ofNat']; omega
  apply UInt32.toNat_inj.mp
  rw [toNat_bump, low, high]
  omega

private theorem shown_seen (calls : List DeliveryCall) : shown (seen calls) = shown calls := by
  rw [shown, seen, List.filterMap_filter]
  exact congrArg (fun f => calls.filterMap f) (funext (fun call => by cases call <;> rfl))

private theorem shown_of_seen {calls : List DeliveryCall} (silent : seen calls = []) : shown calls = [] := by
  rw [← shown_seen, silent]
  rfl

/-- A try that starts is the next call of the handler. -/
theorem Waits.start {k : Nat} {d : Delivery} (waits : e.Waits k d) (allowed : k < e.tries) (interceptors : Nat)
    (now : Instant) :
    ∃ next calls, d.start interceptors (fun _ _ => .proceed) now = .ok (next, calls, .proceed) ∧
      e.AtWork (k + 1) next ∧ shown calls = [] := by
  obtain ⟨trigger, sees, state⟩ := waits
  have small := e.tries_lt
  obtain ⟨next, calls, started, silent, same, atWork, message⟩ :=
    d.start_ok (state.imp_right And.left) interceptors (fun _ _ => .proceed) now
  have retry : d.message.isRetry = decide (0 < k) := congrArg Message.isRetry sees
  have redelivery : d.attempt.isRedelivery d.message = decide (0 < k) := by
    rcases state with state | ⟨state, failed⟩
    · simp [Attempt.isRedelivery, state, retry]
    · simp [Attempt.isRedelivery, state, failed]
  have count : d.message.deliverCount = (max k 1).toUInt32 := congrArg Message.deliverCount sees
  have counted : (if d.attempt.isRedelivery d.message then
      { d.message with deliverCount := bump d.message.deliverCount } else d.message) =
        { d.message with deliverCount := (k + 1).toUInt32 } := by
    rw [redelivery]
    by_cases failed : 0 < k
    · rw [if_pos (decide_eq_true failed), count, Nat.max_eq_left failed, bump_toUInt32 (by omega)]
    · obtain rfl : k = 0 := by omega
      exact congrArg (fun n => { d.message with deliverCount := n }) count
  rw [counted] at message
  refine ⟨next, calls, ?_, ⟨same.trans trigger, ?_, atWork⟩, shown_of_seen silent⟩
  · rw [started, Delivery.consult_proceed]
  · have fields := congrArg (fun m : Message => { m with deliverCount := (k + 1).toUInt32 }) sees
    rw [message]
    refine Eq.trans fields ?_
    simp [Message.plain, Message.onTry, Message.afterFailures]

theorem AtWork.acknowledge {k : Nat} {d : Delivery} (atWork : e.AtWork k d) (interceptors : Nat) :
    ∃ next calls, d.acknowledge interceptors false = .ok (next, calls) ∧ shown calls = [] := by
  obtain ⟨next, calls, acked, silent⟩ := Delivery.acknowledge_ok atWork.state interceptors false
  exact ⟨next, calls, acked, shown_of_seen silent⟩

private theorem AtWork.failRetryCount {k : Nat} {d : Delivery} (atWork : e.AtWork k d) (first : 0 < k)
    (allowed : k ≤ e.tries) : bump d.message.failRetryCount = k.toUInt32 := by
  have small := e.tries_lt
  have count : d.message.failRetryCount = (k - 1).toUInt32 := congrArg Message.failRetryCount atWork.message
  rw [count, bump_toUInt32 (by omega), Nat.sub_add_cancel first]

private theorem maxRetries_le {k : Nat} (first : 0 < k) (allowed : k ≤ e.tries) :
    e.config.policy.maxRetries ≤ k.toUInt32 ↔ k = e.tries := by
  have small := e.tries_lt
  have value : k.toUInt32.toNat = k := by simp [Nat.toUInt32, UInt32.toNat_ofNat']; omega
  rw [UInt32.le_iff_toNat_le, value]
  unfold tries at *
  omega

theorem delay_eq (e : Errand) (n : UInt32) (draw : Float) :
    e.config.policy.delay n draw = some (e.config.policy.backoff n) :=
  RetryPolicy.delay_of_steady e.steady n draw

/-- A failure that leaves tries: the delivery is to wait, for as long as the policy says. -/
theorem AtWork.fail {k : Nat} {d : Delivery} (atWork : e.AtWork k d) (first : 0 < k) (allowed : k < e.tries)
    (why : HandlerError) (draw : Float) :
    ∃ next calls,
      d.fail why e.config.policy draw = .ok (next, calls, some (.retry (e.config.policy.backoff k.toUInt32))) ∧
        e.HasFailed k next ∧ shown calls = [] := by
  have count := atWork.failRetryCount first (Nat.le_of_lt allowed)
  have left : ¬ e.config.policy.maxRetries ≤ bump d.message.failRetryCount := by
    rw [count, maxRetries_le first (Nat.le_of_lt allowed)]
    omega
  have wait := e.delay_eq (bump d.message.failRetryCount) draw
  obtain ⟨next, calls, failed, silent, trigger, state, message⟩ := Delivery.fail_retry atWork.state left why wait
  rw [count] at failed
  refine ⟨next, calls, failed, ⟨trigger.trans atWork.trigger, ?_, state, first⟩, shown_of_seen silent⟩
  have fields := congrArg (fun m : Message => { m with failRetryCount := k.toUInt32, isRetry := true }) atWork.message
  rw [message, Message.failed, count]
  refine Eq.trans fields ?_
  simp [Message.plain, Message.onTry, Message.afterFailures, first, Nat.max_eq_left first]

/-- A failure that leaves no tries: those who are to learn of it do. -/
theorem AtWork.exhaust {d : Delivery} (atWork : e.AtWork e.tries d) (why : HandlerError) (draw : Float) :
    ∃ next calls, d.fail why e.config.policy draw = .ok (next, calls, some .exhaust) ∧ shown calls = e.regret why := by
  have count := atWork.failRetryCount e.tries_pos (Nat.le_refl _)
  have last : e.config.policy.maxRetries ≤ bump d.message.failRetryCount := by
    rw [count]
    exact (maxRetries_le e.tries_pos (Nat.le_refl _)).mpr rfl
  obtain ⟨next, calls, failed, told⟩ := Delivery.fail_exhaust atWork.state last why draw
  have message : d.message.failed.plain =
      { (e.brought (e.tries - 1)).onTry e.tries with failRetryCount := e.tries.toUInt32 }.plain := by
    rw [Message.failed, count]
    exact congrArg (fun m : Message => { m with failRetryCount := e.tries.toUInt32 }) atWork.message
  refine ⟨next, calls, failed, ?_⟩
  rw [← shown_seen, told]
  unfold regret
  rw [← atWork.trigger, ← message]
  cases d.trigger.hasFailCallback <;> rfl

end Errand
end Courier
