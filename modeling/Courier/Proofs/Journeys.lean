import Courier.Proofs.Envelopes
import Courier.Proofs.LaterInstants
import Courier.Proofs.OpenPools
import Courier.Proofs.Rounds
import Courier.Proofs.Tries

/-!
The way of an errand's message through an engine, a due store and a poller, together with other tasks of
the pool. All of them move in any order: workers pick tasks up and finish them, alarms go off, the poller does
its polls step by step, and time passes, in all less than a clock can count. At any time the message is in one
place (`Journey.At`): in the pool, with its handler, on an alarm, in the store, or at its end.
-/
namespace Courier

/-- A system and its poller with the last poll, and all calls that were made. -/
structure Journey where
  system : System
  poller : Poller
  poll : Poll
  calls : List DeliveryCall

namespace Journey

/-! ### Acts -/

/-- Something that may happen on the way. -/
inductive Act
  /-- Someone gives the pool a task that is no delivery. -/
  | occupy (name : String) (limit : Nat)
  | pickUp
  /-- A worker starts the delivery that it has picked up under a ticket. -/
  | start (ticket : Nat)
  /-- The handler that is at work under a ticket is done. -/
  | finish (ticket : Nat) (draw : Float)
  /-- A worker is done with a task that is no delivery. -/
  | release (ticket : Nat)
  /-- The alarm at a place in the line goes off, if it is due. -/
  | ring (place : Nat) (draw : Float)
  /-- The poller does the next step of its poll, or starts a new one. -/
  | poll
  | passTo (count : Nat)

/-- How often the handler was called. -/
def handled (w : Journey) : Nat :=
  w.calls.countP (fun call => match call with | .handler _ => true | _ => false)

/-- The store's entries. -/
def entries (w : Journey) : List DueEntry := w.system.broker.store.entries

/-- The poller goes on. -/
def goOn (w : Journey) : Journey :=
  if w.poll.isOver then
    match w.poller.startPoll System.surroundings w.system with
    | .ok poll => { w with poll }
    | .error _ => w
  else
    let (poll, poller, system) := w.poll.step System.surroundings w.poller w.system
    { w with poll, poller, system }

end Journey

namespace Errand

/-- What happens on the way. An act that is not possible changes nothing. No interceptor takes the handler's
place. -/
def act (e : Errand) (w : Journey) : Journey.Act → Journey
  | .occupy name limit => { w with system := w.system.act (.occupy name limit) }
  | .pickUp => { w with system := w.system.act .pickUp }
  | .start ticket =>
    match w.system.engine.atWork? ticket with
    | some d =>
      if d.attempt.state = .delivering then w
      else
        let (system, calls, _) := w.system.start ticket d (fun _ _ => .proceed)
        { w with system, calls := w.calls ++ calls }
    | none => w
  | .finish ticket draw =>
    match w.system.engine.atWork? ticket with
    | some d =>
      if d.attempt.state = .delivering then
        let (system, calls) := w.system.finish ticket d (e.endings w.handled).result draw
        { w with system, calls := w.calls ++ calls }
      else w
    | none => w
  | .release ticket =>
    match w.system.engine.atWork? ticket with
    | some _ => w
    | none => { w with system := w.system.act (.release ticket) }
  | .ring place draw => { w with system := w.system.act (.ring place draw) }
  | .poll => w.goOn
  | .passTo count => if count < 2 ^ 64 then { w with system := w.system.act (.passTo count) } else w

/-- The journey when the engine has just taken the message, the first one it sees. -/
def begun (e : Errand) : Journey where
  system := ((System.new e.start (.new e.config e.registry e.interceptors)).deliver e.message e.trigger).2
  poller := ⟨e.polling, .empty⟩
  poll := ⟨.empty, [], [], .ended .complete⟩
  calls := []

/-- The journey after some things have happened. -/
def run (e : Errand) (acts : List Journey.Act) : Journey := acts.foldl e.act e.begun

/-- Whether the store holds an entry at some time in the course of a run. -/
def Stored (e : Errand) (acts : List Journey.Act) (x : DueEntry) : Prop :=
  ∃ before, before <+: acts ∧ x ∈ (e.run before).entries

/-- The longest that the message waits after its `k`-th failure, in nanoseconds: until it is due, until nobody
has the lock of its entry, and until a pool that turned it away is asked again. -/
def slot (e : Errand) (k : Nat) : Nat :=
  (e.config.policy.backoff k.toUInt32).ceilSeconds * 1000000000 + e.polling.lockTimeout.nanos +
    Engine.shortestWait.nanos

/-- Why the retry after the `k`-th failure may be lost: two entries of the store have one digest, or the broker
cannot count its wait. -/
def Excuse (e : Errand) (been : DueEntry → Prop) (k : Nat) : Prop :=
  (∃ x y, been x ∧ been y ∧ x.Collides y) ∨ (0 < k ∧ k < e.last ∧ ¬ e.CanWait k)

theorem Excuse.mono {e : Errand} {been later : DueEntry → Prop} {k : Nat} (excuse : e.Excuse been k)
    (more : ∀ x, been x → later x) : e.Excuse later k := by
  rcases excuse with ⟨x, y, first, second, collides⟩ | long
  · exact .inl ⟨x, y, more x first, more y second, collides⟩
  · exact .inr long

end Errand

namespace Journey

/-! ### Places -/

/-- The deliveries in the pool. -/
def deliveries (w : Journey) : List Delivery := w.system.engine.pool.deliveries

/-- An engine that works as the errand says. -/
structure Fit (e : Errand) (engine : Engine) : Prop where
  config : engine.config = e.config
  registry : engine.registry = e.registry
  timers : engine.timersStopped = false
  pool : engine.pool.Open

/-- What never changes on the way. -/
structure Sound (e : Errand) (w : Journey) : Prop extends Fit e w.system.engine where
  clock : w.system.clock.start = e.start
  publishes : w.system.broker.publishError = none
  fetches : w.system.broker.store.fetchError = none
  locks : ∀ key ends, w.system.broker.store.locks.get? key = some ends →
    ends ≤ w.system.count + e.polling.lockTimeout.nanos
  polling : w.poller.config = e.polling

/-- After `k` failures another try is allowed, and the first `n` calls were made. -/
structure Course (e : Errand) (w : Journey) (k n : Nat) : Prop where
  fails : e.Fails k
  allowed : k < e.tries
  seen : shown w.calls = e.calls n

/-- No retry waits for an alarm. -/
structure Quiet (w : Journey) : Prop where
  pending : w.system.engine.pending.entries = []
  alarms : w.system.alarms.waiting = []

/-- No entry is to be handed to the engine; what the store holds is about to be taken out. -/
structure Cleared (w : Journey) : Prop where
  rest : w.poll.rest = []
  free : ∀ x, w.poll.stage ≠ .holding x
  entries : ∀ z ∈ w.entries, ∃ y, w.poll.stage = .clearing y ∧ y.SamePlace z

/-- The entry that is about to be taken out holds the message after `k` failures at most. -/
def Dated (been : DueEntry → Prop) (w : Journey) (k : Nat) : Prop :=
  ∀ y, w.poll.stage = .clearing y → been y ∧ ∃ m, y.message = .ok m ∧ m.failRetryCount.toNat ≤ k

/-- The store holds no other entry that stays, and the poller looks at no other one. -/
structure Alone (w : Journey) (x : DueEntry) : Prop where
  entries : ∀ z ∈ w.entries, z = x ∨ ∃ y, w.poll.stage = .clearing y ∧ y.SamePlace z
  apart : ∀ y, w.poll.stage = .clearing y → ¬ y.SamePlace x
  rest : w.poll.rest = [] ∨ (w.poll.rest = [x] ∧ w.poll.IsFree)
  held : ∀ y, w.poll.stage = .holding y → y = x

/-- The message is in the pool, for its next try. -/
structure Queued (e : Errand) (w : Journey) (k : Nat) (d : Delivery) : Prop where
  course : w.Course e k k
  only : w.deliveries = [d]
  waits : e.Waits k d
  quiet : w.Quiet
  waited : e.Waited k

/-- The message is with its handler. -/
structure Working (e : Errand) (w : Journey) (k : Nat) (d : Delivery) : Prop where
  course : w.Course e k (k + 1)
  only : w.deliveries = [d]
  atWork : e.AtWork (k + 1) d
  held : ∃ job ∈ w.system.engine.pool.held, job.work = .delivery d
  quiet : w.Quiet
  waited : e.Waited k

/-- The message waits for an alarm. -/
structure Pending (e : Errand) (w : Journey) (k : Nat) (d : Delivery) (id : Nat) (alarm : Alarm Purpose) : Prop where
  course : w.Course e k k
  first : 0 < k
  none : w.deliveries = []
  waits : e.Waits k d
  pending : w.system.engine.pending.entries = [(id, d)]
  alarms : w.system.alarms.waiting = [alarm]
  purpose : alarm.purpose = .retry id
  deadline : alarm.deadline ≤ w.system.count + e.slot k
  waited : e.Waited k

/-- The message is at its end. -/
structure Over (e : Errand) (w : Journey) : Prop where
  done : shown w.calls = e.plan
  none : w.deliveries = []
  quiet : w.Quiet
  waited : e.Waited (e.last - 1)

/-- The message is lost. -/
structure Lost (e : Errand) (been : DueEntry → Prop) (w : Journey) (k : Nat) : Prop where
  course : w.Course e k k
  excuse : e.Excuse been k
  none : w.deliveries = []
  quiet : w.Quiet
  waited : e.Waited (k - 1)

/-- The message is held by an entry of the store, which holds no other entry that stays. -/
structure Stored (e : Errand) (w : Journey) (k : Nat) (x : DueEntry) (m : Message) : Prop where
  course : w.Course e k k
  first : 0 < k
  none : w.deliveries = []
  quiet : w.Quiet
  inside : x ∈ w.entries
  message : x.message = .ok m
  sees : m.plain = ((e.brought k).afterFailures k).plain
  target : m.targetHandler = some e.trigger.handlerId
  due : ∃ count, x.dueAt = e.start.later (.ofNanos count) ∧ count ≤ w.system.count + e.slot k
  alone : w.Alone x
  waited : e.Waited k

/-- Where the message is if no entry holds it, after `k` failures and given which entries have been in the
store. -/
inductive Site (e : Errand) (been : DueEntry → Prop) (w : Journey) (k : Nat) : Prop
  | queued (d : Delivery) (queued : w.Queued e k d)
  | working (d : Delivery) (working : w.Working e k d)
  | pending (d : Delivery) (id : Nat) (alarm : Alarm Purpose) (pending : w.Pending e k d id alarm)
  | ended (ended : w.Over e)
  | lost (lost : w.Lost e been k)

/-- Where the message is, given which entries have been in the store. -/
inductive At (e : Errand) (been : DueEntry → Prop) (w : Journey) : Prop
  | apart (k : Nat) (site : w.Site e been k) (cleared : w.Cleared) (dated : w.Dated been k)
  | stored (k : Nat) (x : DueEntry) (m : Message) (stored : w.Stored e k x m) (dated : w.Dated been (k - 1))

variable {e : Errand} {been later : DueEntry → Prop} {w after : Journey}

theorem Dated.mono {k n : Nat} (dated : w.Dated been k) (le : k ≤ n) : w.Dated been n := by
  intro y clearing
  obtain ⟨stood, m, holds, earlier⟩ := dated y clearing
  exact ⟨stood, m, holds, Nat.le_trans earlier le⟩

theorem Dated.imp {k : Nat} (dated : w.Dated been k) (more : ∀ x, been x → later x) : w.Dated later k :=
  fun y clearing => (dated y clearing).imp_left (more y)

theorem Course.prefix_plan {k n : Nat} (course : w.Course e k n) (few : n ≤ k + 1) : shown w.calls <+: e.plan := by
  rw [course.seen]
  exact (e.calls_prefix few).trans (Errand.calls_prefix_plan course.fails course.allowed)

/-- The calls that were made are planned. -/
theorem At.prefix_plan (place : w.At e been) : shown w.calls <+: e.plan := by
  cases place with
  | apart k site =>
    cases site with
    | queued d queued => exact queued.course.prefix_plan (Nat.le_succ k)
    | working d working => exact working.course.prefix_plan (Nat.le_refl _)
    | pending d id alarm pending => exact pending.course.prefix_plan (Nat.le_succ k)
    | ended ended => exact ended.done ▸ List.prefix_refl _
    | lost lost => exact lost.course.prefix_plan (Nat.le_succ k)
  | stored k x m stored => exact stored.course.prefix_plan (Nat.le_succ k)

/-! ### What leaves the message where it is -/

/-- What happens while the message stays where it is, the store and the poller apart: the deliveries stay in
the pool and with their workers, and time may pass. -/
structure Lasts (w after : Journey) : Prop where
  deliveries : after.deliveries.Perm w.deliveries
  held : ∀ job ∈ w.system.engine.pool.held, ∀ d, job.work = .delivery d → job ∈ after.system.engine.pool.held
  pending : after.system.engine.pending = w.system.engine.pending
  alarms : after.system.alarms = w.system.alarms
  calls : after.calls = w.calls
  count : w.system.count ≤ after.system.count

namespace Lasts

theorem refl (w : Journey) : w.Lasts w :=
  ⟨List.Perm.refl _, fun _ inside _ _ => inside, rfl, rfl, rfl, Nat.le_refl _⟩

variable (lasts : w.Lasts after)
include lasts

theorem course {k n : Nat} (course : w.Course e k n) : after.Course e k n :=
  ⟨course.fails, course.allowed, lasts.calls ▸ course.seen⟩

theorem quiet (quiet : w.Quiet) : after.Quiet :=
  ⟨lasts.pending ▸ quiet.pending, lasts.alarms ▸ quiet.alarms⟩

theorem none (none : w.deliveries = []) : after.deliveries = [] :=
  List.perm_nil.mp (none ▸ lasts.deliveries)

theorem only {d : Delivery} (only : w.deliveries = [d]) : after.deliveries = [d] :=
  List.perm_singleton.mp (only ▸ lasts.deliveries)

theorem soon {deadline k : Nat} (soon : deadline ≤ w.system.count + e.slot k) :
    deadline ≤ after.system.count + e.slot k :=
  Nat.le_trans soon (Nat.add_le_add_right lasts.count _)

theorem queued {k : Nat} {d : Delivery} (queued : w.Queued e k d) : after.Queued e k d :=
  ⟨lasts.course queued.course, lasts.only queued.only, queued.waits, lasts.quiet queued.quiet, queued.waited⟩

theorem working {k : Nat} {d : Delivery} (working : w.Working e k d) : after.Working e k d := by
  obtain ⟨job, inside, is⟩ := working.held
  exact ⟨lasts.course working.course, lasts.only working.only, working.atWork, ⟨job, lasts.held job inside d is, is⟩,
    lasts.quiet working.quiet, working.waited⟩

theorem pending_ {k : Nat} {d : Delivery} {id : Nat} {alarm : Alarm Purpose} (pending : w.Pending e k d id alarm) :
    after.Pending e k d id alarm where
  course := lasts.course pending.course
  first := pending.first
  none := lasts.none pending.none
  waits := pending.waits
  pending := lasts.pending ▸ pending.pending
  alarms := lasts.alarms ▸ pending.alarms
  purpose := pending.purpose
  deadline := lasts.soon pending.deadline
  waited := pending.waited

theorem stored {k : Nat} {x : DueEntry} {m : Message} (stored : w.Stored e k x m) (inside : x ∈ after.entries)
    (alone : after.Alone x) : after.Stored e k x m where
  course := lasts.course stored.course
  first := stored.first
  none := lasts.none stored.none
  quiet := lasts.quiet stored.quiet
  inside := inside
  message := stored.message
  sees := stored.sees
  target := stored.target
  due := by
    obtain ⟨count, due, early⟩ := stored.due
    exact ⟨count, due, lasts.soon early⟩
  alone := alone
  waited := stored.waited

theorem over_after (ended : w.Over e) : after.Over e :=
  ⟨lasts.calls ▸ ended.done, lasts.none ended.none, lasts.quiet ended.quiet, ended.waited⟩

theorem site {k : Nat} (site : w.Site e been k) (more : ∀ x, been x → later x) : after.Site e later k := by
  cases site with
  | queued d queued => exact .queued d (lasts.queued queued)
  | working d working => exact .working d (lasts.working working)
  | pending d id alarm pending => exact .pending d id alarm (lasts.pending_ pending)
  | ended ended => exact .ended (lasts.over_after ended)
  | lost lost =>
    exact .lost ⟨lasts.course lost.course, lost.excuse.mono more, lasts.none lost.none, lasts.quiet lost.quiet,
      lost.waited⟩

end Lasts

/-- The store holds the same entries, and the poller is where it was. -/
structure Rests (w after : Journey) : Prop where
  poll : after.poll = w.poll
  entries : after.entries = w.entries

namespace Rests

variable (rests : w.Rests after)
include rests

theorem cleared (cleared : w.Cleared) : after.Cleared := by
  refine ⟨?_, ?_, ?_⟩
  · rw [rests.poll]
    exact cleared.rest
  · rw [rests.poll]
    exact cleared.free
  · rw [rests.poll, rests.entries]
    exact cleared.entries

theorem alone {x : DueEntry} (alone : w.Alone x) : after.Alone x := by
  refine ⟨?_, ?_, ?_, ?_⟩
  · rw [rests.poll, rests.entries]
    exact alone.entries
  · rw [rests.poll]
    exact alone.apart
  · rw [rests.poll]
    exact alone.rest
  · rw [rests.poll]
    exact alone.held

theorem dated {k : Nat} (dated : w.Dated been k) (more : ∀ x, been x → later x) : after.Dated later k := by
  intro y clearing
  rw [rests.poll] at clearing
  exact dated.imp more y clearing

end Rests

/-- What happens while the message stays where it is and the store and the poller do as well. -/
structure Stays (w after : Journey) : Prop extends w.Lasts after, w.Rests after

namespace Stays

theorem refl (w : Journey) : w.Stays w := ⟨.refl w, ⟨rfl, rfl⟩⟩

theorem trans {a b c : Journey} (ab : a.Stays b) (bc : b.Stays c) : a.Stays c where
  deliveries := bc.deliveries.trans ab.deliveries
  held job inside d is := bc.held job (ab.held job inside d is) d is
  pending := bc.pending.trans ab.pending
  alarms := bc.alarms.trans ab.alarms
  calls := bc.calls.trans ab.calls
  count := Nat.le_trans ab.count bc.count
  poll := bc.poll.trans ab.poll
  entries := bc.entries.trans ab.entries

variable (stays : w.Stays after)
include stays

theorem stored_ {k : Nat} {x : DueEntry} {m : Message} (stored : w.Stored e k x m) : after.Stored e k x m := by
  have inside : x ∈ after.entries := by
    rw [stays.entries]
    exact stored.inside
  exact stays.stored stored inside (stays.alone stored.alone)

theorem place (place : w.At e been) (more : ∀ x, been x → later x) : after.At e later := by
  cases place with
  | apart k site cleared dated =>
    exact .apart k (stays.site site more) (stays.cleared cleared) (stays.dated dated more)
  | stored k x m stored dated => exact .stored k x m (stays.stored_ stored) (stays.dated dated more)

end Stays

end Journey
end Courier
