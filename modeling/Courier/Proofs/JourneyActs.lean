import Courier.Proofs.EngineActs
import Courier.Proofs.JourneyPolls

/-!
What each act does to the message of an errand. Most acts leave it where it is; a worker that starts it, a
handler that is done, an alarm and a poller move it on to the next place, with its counters as they should be.
-/
namespace Courier

namespace Engine

/-- An engine once a worker is done with a task: all that waits is as it was. -/
structure Relieved (engine after : Engine) (ticket : Nat) : Prop where
  pool : after.pool = engine.pool.complete ticket
  config : after.config = engine.config
  registry : after.registry = engine.registry
  timers : after.timersStopped = engine.timersStopped
  pending : after.pending = engine.pending

end Engine

theorem shown_append (a b : List DeliveryCall) : shown (a ++ b) = shown a ++ shown b :=
  List.filterMap_append ..

namespace System

/-- A wait that the broker cannot count is longer than a clock can count. -/
theorem nanos_of_longestDelay_lt {wait : Span} (long : Broker.longestDelay < wait.wholeSeconds) :
    0x10000000000000000 ≤ wait.nanos := by
  have limit : Broker.longestDelay.toNat = 9223372036854775 := rfl
  have far := Nat.lt_of_lt_of_le (UInt64.lt_iff_toNat_lt.mp long) wait.toNat_wholeSeconds_le
  unfold Span.ceilSeconds Span.seconds at far
  split at far <;> omega

/-- A retry waits on an alarm or in the store, as the route has it, or gets lost because the broker cannot count
its wait. -/
theorem scheduleRetry_cases (s : System) (d : Delivery) (wait : Span) (publishes : s.broker.publishError = none) :
    (s.engine.config.route = .inProcess ∧ s.scheduleRetry d wait = s.await d wait) ∨
      (s.engine.config.route = .delayStore ∧ wait.wholeSeconds ≤ Broker.longestDelay ∧
        s.scheduleRetry d wait =
          { s with broker := s.broker.keep d.addressed (s.now.later (.ofSeconds wait.wholeSeconds)) }) ∨
      (s.engine.config.route = .delayStore ∧ Broker.longestDelay < wait.wholeSeconds ∧ s.scheduleRetry d wait = s) := by
  unfold scheduleRetry publishRetry Broker.publishDelayed
  cases s.engine.config.route with
  | inProcess => exact .inl ⟨rfl, rfl⟩
  | delayStore =>
    right
    by_cases long : Broker.longestDelay < wait.wholeSeconds
    · refine .inr ⟨rfl, long, ?_⟩
      simp only [publishes, long, if_true]
    · refine .inl ⟨rfl, UInt64.not_lt.mp long, ?_⟩
      simp only [publishes, long, if_false]

end System

/-- A retry can wait anywhere if a clock can count its wait. -/
theorem Errand.canWait_of_counted {e : Errand} {k : Nat}
    (counted : (e.config.policy.backoff k.toUInt32).nanos < 2 ^ 64) : e.CanWait k :=
  fun _ => UInt64.not_lt.mp (fun long => Nat.not_lt.mpr (System.nanos_of_longestDelay_lt long) counted)

namespace Journey

variable {e : Errand} {been : DueEntry → Prop} {w : Journey}

/-! ### Other tasks -/

/-- The journey with another system. -/
def withSystem (w : Journey) (system : System) : Journey := { w with system }

/-- The journey with another pool. -/
def withPool (w : Journey) (pool : Pool Task) : Journey :=
  { w with system := { w.system with engine := { w.system.engine with pool } } }

/-- The journey after some more calls. -/
def told (w : Journey) (calls : List DeliveryCall) : Journey := { w with calls := w.calls ++ calls }

theorem Sound.told (sound : w.Sound e) (calls : List DeliveryCall) : (w.told calls).Sound e :=
  ⟨sound.toFit, sound.clock, sound.publishes, sound.fetches, sound.locks, sound.polling⟩

/-- Nothing but the engine, the alarms and the entries of the store has to be looked at. -/
theorem Sound.withSystem (sound : w.Sound e) {system : System} (fit : Fit e system.engine)
    (clock : system.clock = w.system.clock) (publishes : system.broker.publishError = w.system.broker.publishError)
    (fetches : system.broker.store.fetchError = w.system.broker.store.fetchError)
    (locks : system.broker.store.locks = w.system.broker.store.locks) : (w.withSystem system).Sound e where
  toFit := fit
  clock := (congrArg Clock.start clock).trans sound.clock
  publishes := publishes.trans sound.publishes
  fetches := fetches.trans sound.fetches
  locks key ends found := by
    have count : system.count = w.system.count := System.count_congr clock
    show ends ≤ system.count + _
    rw [count]
    exact sound.locks key ends (locks ▸ found)
  polling := sound.polling

theorem Fit.withPool {engine : Engine} (fit : Fit e engine) {pool : Pool Task} (open_ : pool.Open) :
    Fit e { engine with pool } :=
  ⟨fit.config, fit.registry, fit.timers, open_⟩

theorem Sound.withPool (sound : w.Sound e) {pool : Pool Task} (open_ : pool.Open) : (w.withPool pool).Sound e :=
  sound.withSystem (sound.toFit.withPool open_) rfl rfl rfl rfl

private theorem shuffled (sound : w.Sound e) {after : Journey} {pool : Pool Task}
    (next : after = w.withPool pool) (shuffled : w.system.engine.pool.Shuffled pool) : after.Sound e ∧ w.Stays after := by
  rw [next]
  exact ⟨sound.withPool shuffled.open_,
    ⟨⟨shuffled.deliveries, shuffled.held, rfl, rfl, rfl, Nat.le_refl _⟩, ⟨rfl, rfl⟩⟩⟩

theorem occupy (sound : w.Sound e) (name : String) (limit : Nat) :
    (e.act w (.occupy name limit)).Sound e ∧ w.Stays (e.act w (.occupy name limit)) := by
  obtain ⟨pool, is, same⟩ := w.system.act_occupy sound.pool name limit
  exact shuffled sound (by simp only [Errand.act, is, withPool]) same

theorem pickUp (sound : w.Sound e) : (e.act w .pickUp).Sound e ∧ w.Stays (e.act w .pickUp) := by
  obtain ⟨pool, is, same⟩ := w.system.act_pickUp sound.pool
  exact shuffled sound (by simp only [Errand.act, is, withPool]) same

theorem act_pickUp {job : Job Task} {pool : Pool Task} (picked : w.system.engine.pool.pickUp = some (job, pool)) :
    e.act w .pickUp = w.withPool pool := by
  simp only [Errand.act, System.act, System.pickUp, picked, withPool]

theorem act_release {ticket : Nat} (foreign : w.system.engine.atWork? ticket = none) :
    e.act w (.release ticket) = w.withPool (w.system.engine.pool.complete ticket) := by
  simp only [Errand.act, foreign]
  rfl

theorem release (sound : w.Sound e) (ticket : Nat) :
    (e.act w (.release ticket)).Sound e ∧ w.Stays (e.act w (.release ticket)) := by
  cases found : w.system.engine.atWork? ticket with
  | some d =>
    have same : e.act w (.release ticket) = w := by simp only [Errand.act, found]
    rw [same]
    exact ⟨sound, .refl w⟩
  | none =>
    obtain ⟨pool, is, same⟩ := w.system.act_release sound.pool found
    exact shuffled sound (by simp only [Errand.act, found, is, withPool]) same

theorem passTo (sound : w.Sound e) (count : Nat) :
    (e.act w (.passTo count)).Sound e ∧ w.Stays (e.act w (.passTo count)) := by
  by_cases counts : count < 2 ^ 64
  · have next : e.act w (.passTo count) = { w with system := w.system.passTo count } := by
      simp only [Errand.act, counts, if_true, System.act]
    have later : w.system.count ≤ (w.system.passTo count).count := by
      rw [System.count_passTo _ counts]
      exact Nat.le_max_left ..
    rw [next]
    refine ⟨⟨⟨sound.config, sound.registry, sound.timers, sound.pool⟩, sound.clock, sound.publishes, sound.fetches,
      fun key ends found => ?_, sound.polling⟩, ⟨List.Perm.refl _, fun _ inside _ _ => inside, rfl, rfl, rfl, later⟩,
      ⟨rfl, rfl⟩⟩
    exact Nat.le_trans (sound.locks key ends found) (Nat.add_le_add_right later _)
  · have same : e.act w (.passTo count) = w := by simp only [Errand.act, counts, if_false]
    rw [same]
    exact ⟨sound, .refl w⟩

/-! ### The handler -/

private theorem At.of_mem (place : w.At e been) {d : Delivery} (inside : d ∈ w.deliveries) :
    ∃ k, w.Cleared ∧ w.Dated been k ∧ (w.Queued e k d ∨ w.Working e k d) := by
  have elsewhere (none : w.deliveries = []) : False := by
    rw [none] at inside
    cases inside
  cases place with
  | apart k site cleared dated =>
    cases site with
    | queued other queued =>
      obtain rfl : d = other := by simpa [queued.only] using inside
      exact ⟨k, cleared, dated, .inl queued⟩
    | working other working =>
      obtain rfl : d = other := by simpa [working.only] using inside
      exact ⟨k, cleared, dated, .inr working⟩
    | pending other id alarm pending => exact (elsewhere pending.none).elim
    | ended ended => exact (elsewhere ended.none).elim
    | lost lost => exact (elsewhere lost.none).elim
  | stored k x m stored => exact (elsewhere stored.none).elim

/-- A worker that starts the message's delivery calls the handler. -/
theorem Queued.start (sound : w.Sound e) {k : Nat} {d : Delivery} (queued : w.Queued e k d) {ticket : Nat}
    (found : w.system.engine.atWork? ticket = some d) :
    (e.act w (.start ticket)).Sound e ∧ w.Rests (e.act w (.start ticket)) ∧
      ∃ next, (e.act w (.start ticket)).Working e k next := by
  obtain ⟨job, held, is⟩ := Engine.atWork?_some found
  obtain ⟨next, calls, started, atWork, silent⟩ :=
    queued.waits.start queued.course.allowed w.system.engine.interceptors w.system.now
  have after : e.act w (.start ticket) =
      (w.withPool (w.system.engine.pool.revise ticket (.delivery next))).told (calls ++ [.handler next.message]) := by
    simp only [Errand.act, found, queued.waits.state_ne, if_false, System.start, Engine.start, started, withPool, told]
  have revised : (w.system.engine.pool.revise ticket (.delivery next)).deliveries = [next] := by
    obtain ⟨others, before, now⟩ := Pool.deliveries_revise sound.pool next held is
    have size := before.length_eq
    rw [show w.system.engine.pool.deliveries = [d] from queued.only] at size
    have alone : others = [] := by simpa using size
    exact List.perm_singleton.mp (alone ▸ now)
  have seen : shown (w.calls ++ (calls ++ [.handler next.message])) = e.calls (k + 1) := by
    rw [shown_append, shown_append, queued.course.seen, silent, Errand.calls_succ]
    show e.calls k ++ [.handler next.message.plain] = _
    rw [atWork.message]
    rfl
  rw [after]
  exact ⟨(sound.withPool (sound.pool.revise ticket _)).told _, ⟨rfl, rfl⟩, next,
    ⟨queued.course.fails, queued.course.allowed, seen⟩, revised, atWork, ⟨_, Pool.mem_held_revise _ held, rfl⟩,
    ⟨queued.quiet.pending, queued.quiet.alarms⟩, queued.waited⟩

private theorem start (sound : w.Sound e) (place : w.At e been) (ticket : Nat) :
    (e.act w (.start ticket)).Sound e ∧ (e.act w (.start ticket)).At e been := by
  have idle (same : e.act w (.start ticket) = w) :
      (e.act w (.start ticket)).Sound e ∧ (e.act w (.start ticket)).At e been := by
    rw [same]
    exact ⟨sound, place⟩
  cases found : w.system.engine.atWork? ticket with
  | none => exact idle (by simp only [Errand.act, found])
  | some d =>
    obtain ⟨k, cleared, dated, queued | working⟩ := place.of_mem (Engine.mem_deliveries_of_atWork? found)
    · obtain ⟨sound, rests, next, working⟩ := queued.start sound found
      exact ⟨sound, .apart k (.working next working) (rests.cleared cleared) (rests.dated dated (fun _ stood => stood))⟩
    · exact idle (by simp only [Errand.act, found, working.atWork.state, if_true])

/-! ### Retries -/

theorem backoff_le_ceil (e : Errand) (k : Nat) :
    (e.config.policy.backoff k.toUInt32).nanos ≤ (e.config.policy.backoff k.toUInt32).ceilSeconds * 1000000000 := by
  unfold Span.ceilSeconds Span.seconds Span.subNanos
  split <;> omega

/-- Where a message is that has failed and may be tried again: on an alarm, in the store, or lost. -/
inductive Away (e : Errand) (been : DueEntry → Prop) (w : Journey) (k : Nat) : Prop
  | pending (d : Delivery) (id : Nat) (alarm : Alarm Purpose) (pending : w.Pending e k d id alarm)
      (cleared : w.Cleared) (dated : w.Dated been k)
  | stored (x : DueEntry) (m : Message) (stored : w.Stored e k x m) (dated : w.Dated been (k - 1))
  | lost (lost : w.Lost e been k) (cleared : w.Cleared) (dated : w.Dated been k)

theorem Away.at {k : Nat} (away : Away e been w k) : w.At e been := by
  cases away with
  | pending d id alarm pending cleared dated => exact .apart k (.pending d id alarm pending) cleared dated
  | stored x m stored dated => exact .stored k x m stored dated
  | lost lost cleared dated => exact .apart k (.lost lost) cleared dated

/-- A delivery that is done with its `k`-th try, which failed; another one is allowed. -/
structure Failed (e : Errand) (w : Journey) (k : Nat) (d : Delivery) : Prop where
  course : w.Course e k k
  first : 0 < k
  none : w.deliveries = []
  failed : e.HasFailed k d
  quiet : w.Quiet
  cleared : w.Cleared
  waited : e.Waited (k - 1)

/-- A retry that the engine keeps waits for an alarm. -/
theorem Failed.await (inProcess : e.config.route = .inProcess) (sound : w.Sound e) {k : Nat} {d : Delivery}
    (failed : w.Failed e k d) :
    (w.withSystem (w.system.await d (e.config.policy.backoff k.toUInt32))).Sound e ∧
      w.Rests (w.withSystem (w.system.await d (e.config.policy.backoff k.toUInt32))) ∧
      ∃ id alarm, (w.withSystem (w.system.await d (e.config.policy.backoff k.toUInt32))).Pending e k d.waiting id alarm := by
  obtain ⟨course, first, none, failed, quiet, _⟩ := failed
  have waits := failed.waits inProcess
  have pending : (w.system.engine.pending.insert w.system.engine.nextRetry d.waiting).entries =
      [(w.system.engine.nextRetry, d.waiting)] := by
    show Table.writtenTo _ _ w.system.engine.pending.entries = _
    rw [quiet.pending]
    rfl
  have alarms : (w.system.alarms.set (w.system.count + (e.config.policy.backoff k.toUInt32).nanos)
      (.retry w.system.engine.nextRetry)).waiting =
        [⟨w.system.count + (e.config.policy.backoff k.toUInt32).nanos, w.system.alarms.nextSerial,
          .retry w.system.engine.nextRetry⟩] := by
    show w.system.alarms.waiting ++ _ = _
    rw [quiet.alarms]
    rfl
  have soon : w.system.count + (e.config.policy.backoff k.toUInt32).nanos ≤ w.system.count + e.slot k := by
    have rounded := backoff_le_ceil e k
    unfold Errand.slot
    omega
  rw [System.await_eq _ _ _ sound.timers]
  exact ⟨sound.withSystem ⟨sound.config, sound.registry, sound.timers, sound.pool⟩ rfl rfl rfl rfl, ⟨rfl, rfl⟩, _, _,
    ⟨course.fails, course.allowed, course.seen⟩, first, none, ⟨waits.trigger, waits.message, waits.state⟩, pending,
    alarms, rfl, soon, Errand.waited_of_inProcess inProcess k⟩

private theorem toNat_toUInt32 {k : Nat} (small : k < 0x100000000) : k.toUInt32.toNat = k := by
  simp only [Nat.toUInt32, UInt32.toNat_ofNat']
  omega

/-- An entry holds the message as its envelope tells it. -/
private theorem holds_addressed {k : Nat} {d : Delivery} (failed : e.HasFailed k d) (allowed : k < e.tries)
    (due : Instant) : (DueEntry.ofMessage d.addressed due).message = .ok d.addressed.told := by
  refine Message.decode_encode (fun none => ?_)
  have count : d.message.deliverCount = (max k 1).toUInt32 := congrArg Message.deliverCount failed.message
  have small := e.tries_lt
  have value : (max k 1).toUInt32.toNat = max k 1 := toNat_toUInt32 (by omega)
  rw [← count, show d.message.deliverCount = 0 from none] at value
  have positive : 0 = max k 1 := value
  omega

private theorem now_later (sound : w.Sound e) {seconds : UInt64} (near : seconds.toNat < 0x8000000000000000) :
    w.system.now.later (.ofSeconds seconds) =
      e.start.later (.ofNanos (w.system.count + seconds.toNat * 1000000000)) := by
  have counted : w.system.count < 0x10000000000000000 := w.system.clock.elapsed.toNat_lt
  show (w.system.clock.start.later (.ofNanos w.system.count)).later (.ofSeconds seconds) = _
  rw [sound.clock]
  refine Instant.later_later _ ?_
  rw [Span.nanos_ofNanos, Span.nanos_ofNanos, Span.nanos_ofSeconds]
  omega

private theorem publish (away : e.config.route = .delayStore) (sound : w.Sound e) {k : Nat} {d : Delivery}
    (failed : w.Failed e k d) (dated : w.Dated been (k - 1)) {seconds : UInt64}
    (whole : seconds = (e.config.policy.backoff k.toUInt32).wholeSeconds)
    (near : (e.config.policy.backoff k.toUInt32).wholeSeconds ≤ Broker.longestDelay)
    (now : been (.ofMessage d.addressed (w.system.now.later (.ofSeconds seconds)))) :
    (w.withSystem { w.system with
      broker := w.system.broker.keep d.addressed (w.system.now.later (.ofSeconds seconds)) }).Sound e ∧
    Away e been (w.withSystem { w.system with
      broker := w.system.broker.keep d.addressed (w.system.now.later (.ofSeconds seconds)) }) k := by
  obtain ⟨course, first, none, failed, quiet, cleared, waited⟩ := failed
  refine ⟨sound.withSystem ⟨sound.config, sound.registry, sound.timers, sound.pool⟩ rfl rfl rfl rfl, ?_⟩
  have counted : seconds.toNat < 0x8000000000000000 := by
    have limit : Broker.longestDelay.toNat = 9223372036854775 := rfl
    have short := UInt64.le_iff_toNat_le.mp (whole ▸ near)
    omega
  generalize dueIs : w.system.now.later (.ofSeconds seconds) = due at now ⊢
  have message := holds_addressed failed course.allowed due
  have sees : d.addressed.told.plain = ((e.brought k).afterFailures k).plain := by
    rw [← Errand.told_brought away first]
    exact congrArg Message.told failed.message
  have failures : d.addressed.told.failRetryCount.toNat = k := by
    have small := e.tries_lt
    have allowed := course.allowed
    have count : d.message.failRetryCount = k.toUInt32 := congrArg Message.failRetryCount failed.message
    show d.message.failRetryCount.toNat = k
    rw [count, toNat_toUInt32 (by omega)]
  by_cases taken : ∃ y, w.poll.stage = .clearing y ∧ y.SamePlace (.ofMessage d.addressed due)
  · -- the poller is about to take the new entry out, together with the old one in whose place it is
    obtain ⟨y, clearing, same⟩ := taken
    obtain ⟨stood, old, holds, earlier⟩ := dated y clearing
    have different : y.member ≠ (DueEntry.ofMessage d.addressed due).member := by
      intro bytes
      have equal : y.message = (DueEntry.ofMessage d.addressed due).message := congrArg Message.decode bytes
      rw [holds, message] at equal
      rw [Except.ok.inj equal, failures] at earlier
      omega
    refine .lost ⟨⟨course.fails, course.allowed, course.seen⟩, .inl ⟨y, _, stood, now, same, different⟩, none,
      ⟨quiet.pending, quiet.alarms⟩, waited⟩ ⟨cleared.rest, cleared.free, fun z inside => ?_⟩ (dated.mono (Nat.sub_le k 1))
    rcases DueStore.mem_placed inside with rfl | old
    · exact ⟨y, clearing, same⟩
    · exact cleared.entries z old
  · have waited : e.Waited k := by
      obtain ⟨before, rfl⟩ := Nat.exists_eq_succ_of_ne_zero (Nat.pos_iff_ne_zero.mp first)
      exact waited.succ (fun _ => near)
    refine .stored (.ofMessage d.addressed due) d.addressed.told ⟨⟨course.fails, course.allowed, course.seen⟩, first,
      none, ⟨quiet.pending, quiet.alarms⟩, DueStore.mem_placed_self _ _, message, sees, ?_, ?_, ?_, waited⟩ dated
    · show some d.trigger.handlerId = _
      rw [failed.trigger]
    · refine ⟨_, dueIs.symm.trans (now_later sound counted), ?_⟩
      have rounded := whole ▸ (e.config.policy.backoff k.toUInt32).toNat_wholeSeconds_le
      show _ ≤ w.system.count + e.slot k
      unfold Errand.slot
      omega
    · refine ⟨fun z inside => ?_, fun y clearing same => taken ⟨y, clearing, same⟩, .inl cleared.rest,
        fun y holding => absurd holding (cleared.free y)⟩
      rcases DueStore.mem_placed inside with is | old
      · exact .inl is
      · exact .inr (cleared.entries z old)

private theorem scheduleRetry (sound : w.Sound e) {k : Nat} {d : Delivery} (failed : w.Failed e k d)
    (dated : w.Dated been (k - 1))
    (now : ∀ x ∈ (w.withSystem (w.system.scheduleRetry d (e.config.policy.backoff k.toUInt32))).entries, been x) :
    (w.withSystem (w.system.scheduleRetry d (e.config.policy.backoff k.toUInt32))).Sound e ∧
      Away e been (w.withSystem (w.system.scheduleRetry d (e.config.policy.backoff k.toUInt32))) k := by
  rcases w.system.scheduleRetry_cases d (e.config.policy.backoff k.toUInt32) sound.publishes with
    ⟨here, waiting⟩ | ⟨away, near, kept⟩ | ⟨away, long, gone⟩
  · rw [waiting]
    obtain ⟨sound, rests, id, alarm, pending⟩ := failed.await (sound.config ▸ here) sound
    exact ⟨sound, .pending d.waiting id alarm pending (rests.cleared failed.cleared)
      (rests.dated (dated.mono (Nat.sub_le k 1)) (fun _ stood => stood))⟩
  · rw [kept] at now ⊢
    exact publish (sound.config ▸ away) sound failed dated rfl near (now _ (DueStore.mem_placed_self _ _))
  · rw [gone]
    have excuse : e.Excuse been k :=
      .inr ⟨failed.first, failed.course.fails.lt_last failed.course.allowed,
        fun can => UInt64.not_lt.mpr (can (sound.config ▸ away)) long⟩
    exact ⟨sound, .lost ⟨failed.course, excuse, failed.none, failed.quiet, failed.waited⟩ failed.cleared
      (dated.mono (Nat.sub_le k 1))⟩

/-- What the engine does when the handler is done for the `k + 1`-th time: the plan is done, or there is
another try. -/
private theorem finish_cases {engine : Engine} (config : engine.config = e.config) {k : Nat} {d : Delivery}
    (fails : e.Fails k) (allowed : k < e.tries) (atWork : e.AtWork (k + 1) d) (ticket : Nat) (draw : Float) :
    ∃ after calls, engine.Relieved after ticket ∧
      ((e.last = k + 1 ∧ e.plan = e.calls (k + 1) ++ shown calls ∧
          engine.finish ticket d (e.endings (k + 1)).result draw = (after, calls, none)) ∨
        ∃ next, e.Fails (k + 1) ∧ k + 1 < e.tries ∧ e.HasFailed (k + 1) next ∧ shown calls = [] ∧
          engine.finish ticket d (e.endings (k + 1)).result draw =
            (after, calls, some (next, e.config.policy.backoff (k + 1).toUInt32))) := by
  cases failed : (e.endings (k + 1)).failure? with
  | none =>
    obtain ⟨next, calls, acknowledged, silent⟩ := atWork.acknowledge engine.interceptors
    have result : (e.endings (k + 1)).result = .ok () := by simp only [Ending.result, failed]
    obtain ⟨last, plan⟩ := Errand.plan_of_success fails allowed failed
    refine ⟨{ engine with acked := engine.acked + 1 }.release ticket, calls, ⟨rfl, rfl, rfl, rfl, rfl⟩,
      .inl ⟨last, ?_, ?_⟩⟩
    · rw [plan, silent, List.append_nil]
    · simp only [result, Engine.finish, Engine.acknowledge, acknowledged]
  | some why =>
    have result : (e.endings (k + 1)).result = .error why := by simp only [Ending.result, failed]
    have fails := fails.succ failed
    rcases Nat.lt_or_eq_of_le (Nat.succ_le_of_lt allowed) with more | last
    · obtain ⟨next, calls, told, waits, silent⟩ := atWork.fail (Nat.succ_pos k) more why draw
      refine ⟨{ engine with
          failedAttempts := engine.failedAttempts + 1, retriesScheduled := engine.retriesScheduled + 1 }.release ticket,
        calls, ⟨rfl, rfl, rfl, rfl, rfl⟩, .inr ⟨next, fails, more, waits, silent, ?_⟩⟩
      simp only [result, Engine.finish, config, told]
    · have last : k + 1 = e.tries := last
      rw [last] at atWork fails failed result ⊢
      obtain ⟨next, calls, told, regret⟩ := atWork.exhaust why draw
      refine ⟨{ engine with
          failedAttempts := engine.failedAttempts + 1, exhausted := engine.exhausted + 1 }.release ticket,
        calls, ⟨rfl, rfl, rfl, rfl, rfl⟩, .inl ⟨(Errand.plan_of_fails fails failed).1, ?_, ?_⟩⟩
      · rw [(Errand.plan_of_fails fails failed).2, regret]
      · simp only [result, Engine.finish, config, told]

private theorem Sound.relieved (sound : w.Sound e) {engine : Engine} {ticket : Nat}
    (relieved : w.system.engine.Relieved engine ticket) : (w.withSystem { w.system with engine }).Sound e := by
  have open_ : engine.pool.Open := by
    rw [relieved.pool]
    exact sound.pool.complete ticket
  exact sound.withSystem ⟨relieved.config.trans sound.config, relieved.registry.trans sound.registry,
    relieved.timers.trans sound.timers, open_⟩ rfl rfl rfl rfl

/-- Calls of the handler are among those that the errand has a say in. -/
theorem handlerCalls_shown (calls : List DeliveryCall) : handlerCalls (shown calls) = handlerCalls calls := by
  rw [handlerCalls, shown, List.countP_filterMap]
  exact List.countP_congr (fun call _ => by cases call <;> rfl)

theorem handlerCalls_planned (e : Errand) (n : Nat) : handlerCalls (e.calls n) = n := by
  rw [handlerCalls, Errand.calls, List.countP_map]
  exact (List.countP_eq_length.mpr (fun k _ => rfl)).trans List.length_range'

/-- How often the handler was called can be told from the calls that the errand has a say in. -/
theorem handled_eq_handlerCalls (w : Journey) : w.handled = handlerCalls (shown w.calls) :=
  (handlerCalls_shown w.calls).symm

private theorem handled_eq {n : Nat} (seen : shown w.calls = e.calls n) : w.handled = n := by
  rw [handled_eq_handlerCalls, seen, handlerCalls_planned]

private theorem Working.relieved {k : Nat} {d : Delivery} (sound : w.Sound e) (working : w.Working e k d) {job : Job Task}
    {ticket : Nat} (held : w.system.engine.pool.held.find? (fun job => job.ticket == ticket) = some job)
    (is : job.work = .delivery d) {engine : Engine} (relieved : w.system.engine.Relieved engine ticket) :
    engine.pool.deliveries = [] ∧ engine.pending.entries = [] := by
  have before := Pool.deliveries_complete sound.pool held
  rw [show w.system.engine.pool.deliveries = [d] from working.only, is] at before
  have size := before.length_eq
  rw [relieved.pool, relieved.pending]
  exact ⟨by simpa [Task.delivery?] using size, working.quiet.pending⟩

/-- When the handler is done, the message is at its end, or it has failed and its retry is scheduled. -/
theorem Working.ends_or_fails (sound : w.Sound e) {k : Nat} {d : Delivery} (working : w.Working e k d)
    (cleared : w.Cleared) {ticket : Nat} (found : w.system.engine.atWork? ticket = some d) (draw : Float) :
    ((e.act w (.finish ticket draw)).Sound e ∧ (e.act w (.finish ticket draw)).Over e ∧
        w.Rests (e.act w (.finish ticket draw))) ∨
      ∃ mid next, mid.Sound e ∧ mid.Failed e (k + 1) next ∧ w.Rests mid ∧
        e.act w (.finish ticket draw) =
          mid.withSystem (mid.system.scheduleRetry next (e.config.policy.backoff (k + 1).toUInt32)) := by
  obtain ⟨job, held, is⟩ := Engine.atWork?_some found
  have course := working.course
  have atWork := working.atWork
  obtain ⟨engine, calls, relieved, cases⟩ :=
    finish_cases sound.config course.fails course.allowed atWork ticket draw
  obtain ⟨none, pending⟩ := working.relieved sound held is relieved
  have sound' := (sound.relieved relieved).told calls
  have quiet' : ((w.withSystem { w.system with engine }).told calls).Quiet := ⟨pending, working.quiet.alarms⟩
  have seen : shown (w.calls ++ calls) = e.calls (k + 1) ++ shown calls := by rw [shown_append, course.seen]
  rcases cases with ⟨last, plan, finished⟩ | ⟨next, fails, left, hasFailed, silent, finished⟩
  · have after : e.act w (.finish ticket draw) = (w.withSystem { w.system with engine }).told calls := by
      simp only [Errand.act, found, atWork.state, if_true, System.finish, handled_eq course.seen, finished]
      rfl
    rw [after]
    have waited : e.Waited (e.last - 1) := by
      rw [last]
      exact working.waited
    exact .inl ⟨sound', ⟨seen.trans plan.symm, none, quiet', waited⟩, ⟨rfl, rfl⟩⟩
  · have course : ((w.withSystem { w.system with engine }).told calls).Course e (k + 1) (k + 1) := by
      refine ⟨fails, left, seen.trans ?_⟩
      rw [silent, List.append_nil]
    refine .inr ⟨(w.withSystem { w.system with engine }).told calls, next, sound', ?_, ⟨rfl, rfl⟩, ?_⟩
    · exact ⟨course, Nat.succ_pos k, none, hasFailed, quiet', ⟨cleared.rest, cleared.free, cleared.entries⟩,
        working.waited⟩
    · simp only [Errand.act, found, atWork.state, if_true, System.finish, handled_eq working.course.seen, finished]
      rfl

/-- When the handler is done, the message is at its end or waits for its next try. -/
theorem Working.finish (sound : w.Sound e) {k : Nat} {d : Delivery} (working : w.Working e k d) (cleared : w.Cleared)
    (dated : w.Dated been k) {ticket : Nat} (found : w.system.engine.atWork? ticket = some d) (draw : Float)
    (now : ∀ x ∈ (e.act w (.finish ticket draw)).entries, been x) :
    (e.act w (.finish ticket draw)).Sound e ∧
      (((e.act w (.finish ticket draw)).Over e ∧ w.Rests (e.act w (.finish ticket draw))) ∨
        Away e been (e.act w (.finish ticket draw)) (k + 1)) := by
  rcases working.ends_or_fails sound cleared found draw with ⟨sound, ended, rests⟩ | ⟨mid, next, sound, failed, rests, after⟩
  · exact ⟨sound, .inl ⟨ended, rests⟩⟩
  · rw [after] at now ⊢
    obtain ⟨sound, away⟩ := scheduleRetry sound failed (rests.dated dated (fun _ stood => stood)) now
    exact ⟨sound, .inr away⟩

private theorem finish (sound : w.Sound e) (place : w.At e been) (ticket : Nat) (draw : Float)
    (now : ∀ x ∈ (e.act w (.finish ticket draw)).entries, been x) :
    (e.act w (.finish ticket draw)).Sound e ∧ (e.act w (.finish ticket draw)).At e been := by
  have idle (same : e.act w (.finish ticket draw) = w) :
      (e.act w (.finish ticket draw)).Sound e ∧ (e.act w (.finish ticket draw)).At e been := by
    rw [same]
    exact ⟨sound, place⟩
  cases found : w.system.engine.atWork? ticket with
  | none => exact idle (by simp only [Errand.act, found])
  | some d =>
    obtain ⟨k, cleared, dated, queued | working⟩ := place.of_mem (Engine.mem_deliveries_of_atWork? found)
    · exact idle (by simp only [Errand.act, found, queued.waits.state_ne, if_false])
    · obtain ⟨sound, ⟨ended, rests⟩ | away⟩ := working.finish sound cleared dated found draw now
      · exact ⟨sound, .apart k (.ended ended) (rests.cleared cleared) (rests.dated dated (fun _ stood => stood))⟩
      · exact ⟨sound, away.at⟩

/-! ### Alarms -/

/-- When the retry is brought back the pool takes the message, or it waits once more if the pool is full. -/
theorem Pending.resubmit (sound : w.Sound e) {k : Nat} {d : Delivery} {id : Nat} {alarm : Alarm Purpose}
    (pending : w.Pending e k d id alarm) (draw : Float) {after : Journey}
    (next : after = w.withSystem
      ({ w.system with alarms := { w.system.alarms with waiting := [] } }.resubmit id draw)) :
    after.Sound e ∧ w.Rests after ∧
      (after.Queued e k d ∨
        (w.system.engine.pool.config.capacity ≤ w.system.engine.pool.outstanding ∧
          ∃ next, after.Pending e k d id next)) := by
  obtain ⟨course, first, none, waits, pending, alarms, purpose, _, waited⟩ := pending
  have found : w.system.engine.pending.get? id = some d := Table.get?_eq_some_iff.mpr (by simp [pending])
  rw [next]
  rcases Engine.resubmit_cases sound.pool found draw with ⟨pool, taken, answer⟩ | ⟨full, answer⟩
  · have erased : (w.system.engine.pending.erase id).entries = [] := by simp [Table.erase, Table.filterKeys, pending]
    have only : pool.deliveries = [d] := by
      have entered := Pool.deliveries_submit taken
      rw [show w.system.engine.pool.deliveries = [] from none] at entered
      exact List.perm_singleton.mp entered
    simp only [System.resubmit, answer]
    exact ⟨sound.withSystem ⟨sound.config, sound.registry, sound.timers, sound.pool.submit taken⟩ rfl rfl rfl rfl,
      ⟨rfl, rfl⟩,
      .inl ⟨⟨course.fails, course.allowed, course.seen⟩, only, waits, ⟨erased, rfl⟩, waited⟩⟩
  · have failures : d.message.failRetryCount = k.toUInt32 := congrArg Message.failRetryCount waits.message
    have soon : w.system.count + ((e.config.policy.backoff k.toUInt32).longer Engine.shortestWait).nanos ≤
        w.system.count + e.slot k := by
      have rounded := backoff_le_ceil e k
      rw [Span.nanos_longer]
      unfold Errand.slot
      omega
    have wait : w.system.engine.config.policy.delay d.message.failRetryCount draw =
        some (e.config.policy.backoff k.toUInt32) := by
      rw [sound.config, e.delay_eq, failures]
    rw [wait, Option.map_some] at answer
    simp only [System.resubmit, answer]
    exact ⟨sound.withSystem ⟨sound.config, sound.registry, sound.timers, sound.pool⟩ rfl rfl rfl rfl, ⟨rfl, rfl⟩,
      .inr ⟨full, ⟨_, _, .retry id⟩, ⟨course.fails, course.allowed, course.seen⟩, first, none, waits, pending, rfl, rfl,
        soon, waited⟩⟩

/-- An alarm that is the only one goes off, and the retry that it is for comes back. -/
theorem Pending.goOff_eq {k : Nat} {d : Delivery} {id : Nat} {alarm : Alarm Purpose}
    (pending : w.Pending e k d id alarm) (draw : Float) :
    w.system.goOff alarm draw =
      { w.system with alarms := { w.system.alarms with waiting := [] } }.resubmit id draw := by
  have others : [alarm].filter (fun other => other.serial ≠ alarm.serial) = [] := by simp
  simp only [System.goOff, Alarms.without, pending.purpose, pending.alarms, others]

/-- An alarm that goes off is the one that the message waits for, and it is due. -/
theorem Pending.dueAt?_some {k : Nat} {d : Delivery} {id : Nat} {alarm other : Alarm Purpose}
    (pending : w.Pending e k d id alarm) {place : Nat}
    (due : w.system.alarms.dueAt? place w.system.count = some other) :
    other = alarm ∧ alarm.deadline ≤ w.system.count := by
  obtain ⟨inside, early⟩ := Alarms.dueAt?_some due
  rw [pending.alarms] at inside
  obtain rfl := List.mem_singleton.mp inside
  exact ⟨rfl, early⟩

/-- If an alarm goes off, the pool takes the message, or it waits once more if the pool is full. -/
theorem Pending.rings (sound : w.Sound e) {k : Nat} {d : Delivery} {id : Nat} {alarm other : Alarm Purpose}
    (pending : w.Pending e k d id alarm) {place : Nat}
    (due : w.system.alarms.dueAt? place w.system.count = some other) (draw : Float) :
    (e.act w (.ring place draw)).Sound e ∧ w.Rests (e.act w (.ring place draw)) ∧
      ((e.act w (.ring place draw)).Queued e k d ∨
        (w.system.engine.pool.config.capacity ≤ w.system.engine.pool.outstanding ∧
          ∃ next, (e.act w (.ring place draw)).Pending e k d id next)) := by
  obtain ⟨rfl, _⟩ := pending.dueAt?_some due
  refine pending.resubmit sound draw ?_
  simp only [Errand.act, System.act, due, pending.goOff_eq]
  rfl

/-- When the alarm goes off the pool takes the message, or it waits once more if the pool is full. -/
theorem Pending.ring (sound : w.Sound e) {k : Nat} {d : Delivery} {id : Nat} {alarm : Alarm Purpose}
    (pending : w.Pending e k d id alarm) (ended : alarm.deadline ≤ w.system.count) (draw : Float) :
    (e.act w (.ring 0 draw)).Sound e ∧ w.Rests (e.act w (.ring 0 draw)) ∧
      ((e.act w (.ring 0 draw)).Queued e k d ∨
        (w.system.engine.pool.config.capacity ≤ w.system.engine.pool.outstanding ∧
          ∃ next, (e.act w (.ring 0 draw)).Pending e k d id next)) := by
  have due : w.system.alarms.dueAt? 0 w.system.count = some alarm := by
    simp [Alarms.dueAt?, pending.alarms, ended]
  exact pending.rings sound due draw

theorem act_ring_of_none {place : Nat} (none : w.system.alarms.dueAt? place w.system.count = .none) (draw : Float) :
    e.act w (.ring place draw) = w := by
  simp only [Errand.act, System.act, none]

/-- Without alarms none goes off. -/
theorem Quiet.dueAt? (quiet : w.Quiet) (place : Nat) : w.system.alarms.dueAt? place w.system.count = .none := by
  simp [Alarms.dueAt?, quiet.alarms]

private theorem ring (sound : w.Sound e) (at_ : w.At e been) (place : Nat) (draw : Float) :
    (e.act w (.ring place draw)).Sound e ∧ (e.act w (.ring place draw)).At e been := by
  have idle (none : w.system.alarms.dueAt? place w.system.count = .none) :
      (e.act w (.ring place draw)).Sound e ∧ (e.act w (.ring place draw)).At e been := by
    rw [act_ring_of_none none]
    exact ⟨sound, at_⟩
  cases at_ with
  | apart k site cleared dated =>
    cases site with
    | queued d queued => exact idle (queued.quiet.dueAt? place)
    | working d working => exact idle (working.quiet.dueAt? place)
    | ended ended => exact idle (ended.quiet.dueAt? place)
    | lost lost => exact idle (lost.quiet.dueAt? place)
    | pending d id alarm pending =>
      cases due : w.system.alarms.dueAt? place w.system.count with
      | none => exact idle due
      | some other =>
        obtain ⟨sound, rests, queued | ⟨_, next, pending⟩⟩ := pending.rings sound due draw
        · exact ⟨sound, .apart k (.queued d queued) (rests.cleared cleared) (rests.dated dated (fun _ stood => stood))⟩
        · exact ⟨sound, .apart k (.pending d id next pending) (rests.cleared cleared)
            (rests.dated dated (fun _ stood => stood))⟩
  | stored k x m stored => exact idle (stored.quiet.dueAt? place)

/-! ### All acts -/

/-- Whatever happens, the message stays in one place. -/
theorem At.act (sound : w.Sound e) (place : w.At e been) (a : Act) (before : ∀ x ∈ w.entries, been x)
    (now : ∀ x ∈ (e.act w a).entries, been x) : (e.act w a).Sound e ∧ (e.act w a).At e been := by
  have stays {after : Journey} (next : after.Sound e ∧ w.Stays after) : after.Sound e ∧ after.At e been :=
    ⟨next.1, next.2.place place (fun _ stood => stood)⟩
  cases a with
  | occupy name limit => exact stays (occupy sound name limit)
  | pickUp => exact stays (pickUp sound)
  | start ticket => exact start sound place ticket
  | finish ticket draw => exact finish sound place ticket draw now
  | release ticket => exact stays (release sound ticket)
  | ring spot draw => exact ring sound place spot draw
  | poll => exact place.goOn sound before
  | passTo count => exact stays (passTo sound count)

end Journey
end Courier
