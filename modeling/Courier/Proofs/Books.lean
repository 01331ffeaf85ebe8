import Courier.Proofs.Accounts

/-!
The books of an engine from its first message on: which handlers are at work, what was called, and how many
retries the broker took. Messages and other work come in, workers go on, alarms go off, others use the broker and
make it refuse messages, in any order. Whenever the pool has nothing outstanding, the counts of the engine add
up, as long as it is not shut down, its policy never breaks off, and no wait is too long for the broker.
-/
namespace Courier

namespace System

variable (s : System)

/-- A retry whose wait is not too long goes to the broker or waits on an alarm. -/
theorem scheduleRetry_near (d : Delivery) {wait : Span} (near : wait.nanos ≤ 2 ^ 52 * 1000000000) :
    s.scheduleRetry d wait = s.await d wait ∨
      (s.scheduleRetry d wait).engine = s.engine ∧
        (s.scheduleRetry d wait).broker.delayedPublishes = s.broker.delayedPublishes + 1 := by
  have short : ¬ Broker.longestDelay < wait.wholeSeconds := by
    have limit : Broker.longestDelay.toNat = 9223372036854775 := rfl
    have few : wait.ceilSeconds ≤ 2 ^ 52 := (wait.ceilSeconds_le_iff _).mpr near
    have value := wait.toNat_wholeSeconds_le
    rw [UInt64.lt_iff_toNat_lt, limit]
    omega
  unfold scheduleRetry publishRetry Broker.publishDelayed
  cases s.engine.config.route with
  | inProcess => exact .inl rfl
  | delayStore =>
    cases s.broker.publishError with
    | some why => exact .inl rfl
    | none =>
      simp only [short, if_false]
      exact .inr ⟨trivial, rfl⟩

end System

/-- A system, the tickets of the handlers that are at work in it, all calls that were made for deliveries, and
how many retries the broker has taken. -/
structure Books where
  system : System
  working : List Nat
  calls : List DeliveryCall
  kept : Nat

namespace Books

/-- The books of an engine that has seen no message. -/
def opened (clock : Clock) (broker : Broker) (config : EngineConfig) (registry : Registry) (interceptors : Nat) :
    Books :=
  ⟨⟨clock, .new config registry interceptors, broker, .none⟩, [], [], 0⟩

/-- What happens is put down. A worker starts what it holds once, and is done with a delivery once the handler
is; other acts that are not possible change nothing. -/
def act (b : Books) : System.Act → Books
  | .start ticket decide =>
    match b.system.engine.atWork? ticket with
    | none => b
    | some d =>
      if ticket ∈ b.working then b
      else
        let (system, calls, atWork) := b.system.start ticket d decide
        { b with system, calls := b.calls ++ calls, working := if atWork then ticket :: b.working else b.working }
  | .finish ticket outcome draw =>
    match b.system.engine.atWork? ticket with
    | none => b
    | some d =>
      if ticket ∈ b.working then
        let (system, calls) := b.system.finish ticket d outcome draw
        { system
          working := b.working.erase ticket
          calls := b.calls ++ calls
          kept := b.kept + (system.broker.delayedPublishes - b.system.broker.delayedPublishes) }
      else b
  | .release ticket =>
    match b.system.engine.atWork? ticket with
    | none => { b with system := b.system.release ticket }
    | some _ => b
  | a => { b with system := b.system.act a }

def run (b : Books) (acts : List System.Act) : Books := acts.foldl act b

/-- Whether an act belongs to no shutdown, and no interceptor breaks off in it. -/
def Steady : System.Act → Prop
  | .start _ decide => ∀ place m, decide place m ≠ .crash
  | .stopAccepting | .beginShutdown | .timeOut | .endShutdown => False
  | _ => True

/-- The counts of the engine are in balance with the rest of the books. -/
def Balanced (b : Books) : Prop := b.system.engine.Balanced b.working (handlerCalls b.calls) b.kept

variable {b : Books}

private theorem Balanced.start (balanced : b.Balanced) (ticket : Nat) {decide : Decisions}
    (steady : ∀ place m, decide place m ≠ .crash) : (b.act (.start ticket decide)).Balanced := by
  simp only [act]
  split
  · exact balanced
  · rename_i d found
    obtain ⟨job, held, is⟩ := Engine.atWork?_some found
    split
    · exact balanced
    · rename_i idle
      have next := Engine.Balanced.start balanced held is idle steady b.system.now
      rw [← handlerCalls_append] at next
      exact next

private theorem Balanced.finish (balanced : b.Balanced) (ticket : Nat) (outcome : Except HandlerError Unit)
    (draw : Float) : (b.act (.finish ticket outcome draw)).Balanced := by
  simp only [act]
  split
  · exact balanced
  · rename_i d found
    obtain ⟨job, held, is⟩ := Engine.atWork?_some found
    split
    · rename_i busy
      have next := Engine.Balanced.finish balanced held is busy outcome draw
      simp only [System.finish]
      generalize b.system.engine.finish ticket d outcome draw = result at next ⊢
      obtain ⟨engine, calls, retry⟩ := result
      rcases next with ⟨ends, next⟩ | ⟨d', wait, waits, state, short, next⟩
      · obtain rfl : retry = none := ends
        rw [← handlerCalls_append] at next
        show engine.Balanced _ _ (b.kept + (b.system.broker.delayedPublishes - b.system.broker.delayedPublishes))
        rw [Nat.sub_self]
        exact next
      · obtain rfl : retry = some (d', wait) := waits
        rw [← handlerCalls_append] at next
        have near := Nat.le_trans short balanced.near
        generalize schedules : ({ b.system with engine } : System) = s
        have same : s.engine = engine ∧ s.broker = b.system.broker := by rw [← schedules]; exact ⟨rfl, rfl⟩
        rcases s.scheduleRetry_near d' near with waits | ⟨stays, taken⟩
        · have awaited : (engine.await d').2.Balanced _ _ b.kept := Engine.Balanced.await next state
          obtain ⟨alarms, is⟩ := s.await_spec d' wait
          simp only [waits, is, Balanced, same.1, same.2, Nat.sub_self]
          exact awaited
        · simp only [Balanced, stays, taken, same.1, same.2]
          rw [show b.system.broker.delayedPublishes + 1 - b.system.broker.delayedPublishes = 1 by omega]
          exact next
    · exact balanced

/-- As long as nobody shuts the engine down, the counts stay in balance. -/
theorem Balanced.act (balanced : b.Balanced) {a : System.Act} (steady : Steady a) : (b.act a).Balanced := by
  cases a with
  | insert e => exact balanced
  | takeOut e => exact balanced
  | claim e ttl => exact balanced
  | failFetches why => exact balanced
  | publish m => exact balanced
  | publishDelayed m seconds => exact balanced
  | failPublishes why => exact balanced
  | receive => exact balanced
  | dropReceiver => exact balanced
  | dispatch m => exact Engine.Balanced.dispatch balanced m b.system.now
  | deliver m t =>
    simp only [Books.act, System.act, System.deliver]
    split
    · rename_i engine taken
      exact Engine.Balanced.deliver balanced taken
    · exact balanced
  | occupy name limit =>
    simp only [Books.act, System.act]
    split
    · rename_i pool taken
      refine Engine.Balanced.withPool balanced (balanced.manned.submit taken (fun d is => by cases is)) ?_
      simpa [Task.delivery?] using (Pool.deliveries_submit taken).length_eq
    · exact balanced
  | pickUp =>
    simp only [Books.act, System.act, System.pickUp]
    cases picked : b.system.engine.pool.pickUp with
    | none => exact balanced
    | some p =>
      obtain ⟨job, pool⟩ := p
      exact Engine.Balanced.withPool balanced (balanced.manned.pickUp picked)
        (Pool.deliveries_pickUp balanced.manned.open_ picked).length_eq
  | start ticket decide => exact balanced.start ticket steady
  | finish ticket outcome draw => exact balanced.finish ticket outcome draw
  | release ticket =>
    simp only [Books.act]
    split
    · rename_i free
      exact Engine.Balanced.release balanced free
    · exact balanced
  | ring place draw =>
    simp only [Books.act, System.act]
    split
    · rename_i alarm _
      obtain ⟨engine, alarms, is, rfl | ⟨id, _, rfl⟩⟩ := b.system.goOff_spec alarm draw
      · rw [is]
        exact balanced
      · rw [is]
        exact Engine.Balanced.resubmit balanced id draw
    · exact balanced
  | passTo count => exact balanced
  | stopAccepting => cases steady
  | beginShutdown => cases steady
  | timeOut => cases steady
  | endShutdown => cases steady

theorem balanced_run (balanced : b.Balanced) {acts : List System.Act} (steady : ∀ a ∈ acts, Steady a) :
    (b.run acts).Balanced := by
  induction acts generalizing b with
  | nil => exact balanced
  | cons a rest ih =>
    exact ih (balanced.act (steady a List.mem_cons_self)) (fun x member => steady x (List.mem_cons_of_mem a member))

/-- As long as an engine is not shut down and its policy never breaks off, as one without jitter never does, its
counts add up whenever its pool has nothing outstanding: every delivery that it has taken is acknowledged, out of
tries, pending or kept by the broker, every failure has led to a retry or was the last, and a handler was called once
for each message that no interceptor took and for each failure. And no try is ever started, acknowledged or failed in
a state that does not allow it. -/
theorem counts_add_up (clock : Clock) (broker : Broker) {config : EngineConfig} (registry : Registry)
    (interceptors : Nat) {acts : List System.Act} (steady : ∀ a ∈ acts, Steady a)
    (near : config.policy.maxDelay.nanos ≤ 2 ^ 52 * 1000000000) (always : config.policy.AlwaysWaits) :
    let last := (opened clock broker config registry interceptors).run acts
    let stats := last.system.engine.stats
    (last.system.engine.pool.outstanding = 0 →
        stats.dispatched = stats.acked + stats.exhausted + stats.pendingRetries + last.kept ∧
          stats.failedAttempts = stats.retriesScheduled + stats.exhausted ∧ stats.shortCircuited ≤ stats.acked ∧
          handlerCalls last.calls = (stats.acked - stats.shortCircuited) + stats.failedAttempts) ∧
      ∀ ticket d, last.system.engine.atWork? ticket = some d →
        (ticket ∉ last.working → ∀ now, ∃ started told, d.attempt.begin d.message now = .ok (started, told) ∧
          ∃ acked, started.acknowledge = .ok acked) ∧
        (ticket ∈ last.working → (∃ acked, d.attempt.acknowledge = .ok acked) ∧
          ∀ policy draw, ∃ next, d.attempt.fail d.message policy draw = .ok next) := by
  intro last stats
  have balanced : last.Balanced := balanced_run (b := opened clock broker config registry interceptors)
    (Engine.balanced_new near always registry interceptors) steady
  constructor
  · intro none
    have tasks := balanced.manned.open_.tasks_eq_nil none
    have taken := balanced.taken
    have called := balanced.called
    have short := balanced.short
    have deliveries : last.system.engine.pool.deliveries = [] := by rw [Pool.deliveries, tasks, List.filterMap_nil]
    have idle : last.working = [] := by
      refine List.eq_nil_iff_forall_not_mem.mpr (fun ticket member => ?_)
      obtain ⟨job, held, _⟩ := balanced.manned.busy ticket member
      have inside := Pool.mem_tasks_of_held held
      rw [tasks] at inside
      cases inside
    rw [deliveries, List.length_nil] at taken
    rw [idle, List.length_nil] at called
    refine ⟨taken, balanced.failures, short, ?_⟩
    show handlerCalls last.calls =
      last.system.engine.acked - last.system.engine.shortCircuited + last.system.engine.failedAttempts
    omega
  · intro ticket d found
    obtain ⟨job, held, is⟩ := Engine.atWork?_some found
    constructor
    · intro idle now
      obtain ⟨started, told, begun, state⟩ := (balanced.manned.isReady held is idle).begin d.message now
      exact ⟨started, told, begun, Attempt.acknowledge_ok state⟩
    · intro busy
      have state := balanced.manned.delivering held is busy
      refine ⟨Attempt.acknowledge_ok state, fun policy draw => ?_⟩
      obtain ⟨next, told, action, failed⟩ := Attempt.fail_ok state d.message policy draw
      exact ⟨_, failed⟩

/-- Retries that wait in the broker's store. -/
private def remote : EngineConfig := ⟨.standard, .delayStore, .standard, .zero⟩

private def mailer : Trigger := .new ⟨"orders", "created"⟩ "mailer"

private def greeting : Message := ⟨"request", ⟨"orders", "created"⟩, [], 1, 0, 0, false, .timely, .epoch, none⟩

/-- A retry that the broker takes, and another one that it refuses and that succeeds once its alarm goes off. -/
private def outage : List System.Act :=
  [.deliver greeting mailer, .pickUp, .start 0 (fun _ _ => .proceed), .finish 0 (.error ⟨"unreachable"⟩) 0,
    .failPublishes (some "down"), .deliver greeting mailer, .pickUp, .start 1 (fun _ _ => .proceed),
    .finish 1 (.error ⟨"unreachable"⟩) 0, .passTo 3000000000, .ring 0 0, .pickUp, .start 2 (fun _ _ => .proceed),
    .finish 2 (.ok ()) 0]

theorem counts_add_up_outage :
    let last := (opened (.startedAt .epoch) .empty remote .empty 0).run outage
    let stats := last.system.engine.stats
    (last.system.engine.pool.outstanding = 0 ∧ last.kept = 1 ∧ stats.dispatched = 2 ∧ stats.retriesScheduled = 2) ∧
      stats.dispatched = stats.acked + stats.exhausted + stats.pendingRetries + last.kept := by
  have seen : let last := (opened (.startedAt .epoch) .empty remote .empty 0).run outage
      last.system.engine.pool.outstanding = 0 ∧ last.kept = 1 ∧ last.system.engine.stats.dispatched = 2 ∧
        last.system.engine.stats.retriesScheduled = 2 := by decide +kernel
  have steady : ∀ a ∈ outage, Steady a := by simp [outage, Steady]
  have always : remote.policy.AlwaysWaits := RetryPolicy.alwaysWaits_of_steady (by decide +kernel)
  exact ⟨seen, ((counts_add_up (.startedAt .epoch) .empty .empty 0 steady (by decide) always).1 seen.1).1⟩

end Books
end Courier
