import Courier.Proofs.DueEntries
import Courier.Proofs.LaterInstants
import Courier.System.Polling

/-!
What may happen in a system, apart from what its pollers do: others use the due store and the broker,
messages and other work come in, workers and retries go on, time passes, the engine shuts down. Alarms that
are due go off in any order. Only someone who takes entries out of the store makes entries leave it.
-/
namespace Courier

namespace Alarms

theorem dueAt?_some {α : Type} {a : Alarms α} {place now : Nat} {alarm : Alarm α}
    (due : a.dueAt? place now = some alarm) : alarm ∈ a.waiting ∧ alarm.deadline ≤ now := by
  obtain ⟨found, early⟩ := Option.filter_eq_some_iff.mp due
  exact ⟨List.mem_of_getElem? found, by simpa using early⟩

theorem beyondAt?_some {α : Type} {a : Alarms α} {place : Nat} {alarm : Alarm α}
    (far : a.beyondAt? place = some alarm) : alarm ∈ a.waiting ∧ 0x10000000000000000 ≤ alarm.deadline := by
  obtain ⟨found, late⟩ := Option.filter_eq_some_iff.mp far
  exact ⟨List.mem_of_getElem? found, by simpa using late⟩

/-- An alarm that is due goes off at its place. -/
theorem exists_dueAt? {α : Type} {a : Alarms α} {alarm : Alarm α} (inside : alarm ∈ a.waiting) {now : Nat}
    (early : alarm.deadline ≤ now) : ∃ place, a.dueAt? place now = some alarm := by
  obtain ⟨place, there⟩ := List.mem_iff_getElem?.mp inside
  exact ⟨place, Option.filter_eq_some_iff.mpr ⟨there, by simpa using early⟩⟩

private theorem mem_firstOf {α : Type} {alarms : List (Alarm α)} {alarm : Alarm α}
    (first : firstOf alarms = some alarm) : alarm ∈ alarms := by
  induction alarms generalizing alarm with
  | nil => cases first
  | cons a rest ih =>
    unfold firstOf at first
    split at first
    · cases first
      exact List.mem_cons_self
    · rename_i b found
      split at first
      · cases first
        exact List.mem_cons_of_mem a (ih found)
      · cases first
        exact List.mem_cons_self

/-- The alarm with the earliest deadline is one of those that may go off. -/
theorem dueAt?_of_due? {α : Type} {a others : Alarms α} {now : Nat} {alarm : Alarm α}
    (due : a.due? now = some (alarm, others)) :
    others = a.without alarm ∧ ∃ place, a.dueAt? place now = some alarm := by
  unfold due? first? at due
  split at due
  · cases due
  · rename_i found first
    split at due
    · rename_i early
      cases due
      exact ⟨rfl, exists_dueAt? (mem_firstOf first) early⟩
    · cases due

end Alarms

namespace System

/-- Something that may happen in a system apart from its pollers. -/
inductive Act
  /-- Someone puts an entry into the store. -/
  | insert (e : DueEntry)
  /-- Someone takes an entry out of the store. -/
  | takeOut (e : DueEntry)
  /-- Someone claims an entry. -/
  | claim (e : DueEntry) (ttl : Span)
  | failFetches (why : Option String)
  | publish (m : Message)
  | publishDelayed (m : Message) (seconds : UInt64)
  | failPublishes (why : Option String)
  | receive
  | dropReceiver
  | dispatch (m : Message)
  | deliver (m : Message) (t : Trigger)
  /-- Someone gives the pool a task that is no delivery. -/
  | occupy (name : String) (limit : Nat)
  | pickUp
  /-- A worker starts the delivery that it holds under a ticket. -/
  | start (ticket : Nat) (decide : Decisions)
  /-- The handler that is at work under a ticket is done. -/
  | finish (ticket : Nat) (outcome : Except HandlerError Unit) (draw : Float)
  /-- A worker is done with a task that is no delivery. -/
  | release (ticket : Nat)
  /-- The alarm at a place in the line goes off, if it is due. -/
  | ring (place : Nat) (draw : Float)
  | passTo (count : Nat)
  /-- Someone closes the pool to new tasks. -/
  | stopAccepting
  | beginShutdown
  /-- The time that a shutdown gives the engine is over. -/
  | timeOut
  | endShutdown

/-- An alarm goes off. -/
def goOff (s : System) (alarm : Alarm Purpose) (draw : Float) : System :=
  let others := { s with alarms := s.alarms.without alarm }
  match alarm.purpose with
  | .retry id => others.resubmit id draw
  | .outside _ => others

/-- The alarm at a place in the line goes off though no clock counts to its deadline: a sleeper whose time is too
far off to be told wakes at some time or other. -/
def outlast (s : System) (place : Nat) (draw : Float) : System :=
  match s.alarms.beyondAt? place with
  | some alarm => s.goOff alarm draw
  | none => s

/-- The system after something has happened. -/
def act (s : System) : Act → System
  | .insert e => s.withStore (s.broker.store.insert e)
  | .takeOut e => (s.remove e).2
  | .claim e ttl => (s.claim e ttl).2
  | .failFetches why => s.withStore (s.broker.store.failFetches why)
  | .publish m => { s with broker := (s.broker.publish m).2 }
  | .publishDelayed m seconds => { s with broker := (s.broker.publishDelayed m seconds s.now).2 }
  | .failPublishes why => { s with broker := s.broker.failPublishes why }
  | .receive => { s with broker := s.broker.receive.2 }
  | .dropReceiver => { s with broker := s.broker.dropReceiver }
  | .dispatch m => (s.dispatch m).2
  | .deliver m t => (s.deliver m t).2
  | .occupy name limit =>
    match s.engine.pool.submit name limit (.foreign name) with
    | .ok pool => { s with engine := { s.engine with pool } }
    | .error _ => s
  | .pickUp =>
    match s.pickUp with
    | some (_, s) => s
    | none => s
  | .start ticket decide =>
    match s.engine.atWork? ticket with
    | some d => (s.start ticket d decide).1
    | none => s
  | .finish ticket outcome draw =>
    match s.engine.atWork? ticket with
    | some d => (s.finish ticket d outcome draw).1
    | none => s
  | .release ticket => s.release ticket
  | .ring place draw =>
    match s.alarms.dueAt? place s.count with
    | some alarm => s.goOff alarm draw
    | none => s
  | .passTo count => s.passTo count
  | .stopAccepting => { s with engine := { s.engine with pool := s.engine.pool.stopAccepting } }
  | .beginShutdown => s.beginShutdown
  | .timeOut => s.timeOut
  | .endShutdown => s.endShutdown.2

/-! ### The store -/

section Store
variable (s : System)

@[simp] theorem store_withStore (store : DueStore) : (s.withStore store).broker.store = store := rfl

theorem store_dispatch (m : Message) : (s.dispatch m).2.broker.store = s.broker.store := rfl

theorem store_deliver (m : Message) (t : Trigger) : (s.deliver m t).2.broker.store = s.broker.store := by
  unfold deliver
  split <;> rfl

end Store

end System

namespace DueStore

/-- Whether nothing became of a store but that an entry may have been put in. -/
def FilledTo (s after : DueStore) : Prop := after = s ∨ ∃ e, after = s.insert e

theorem FilledTo.locks {s after : DueStore} (filled : s.FilledTo after) : after.locks = s.locks := by
  rcases filled with rfl | ⟨e, rfl⟩
  · rfl
  · rfl

theorem FilledTo.grewTo {s after : DueStore} (filled : s.FilledTo after) : s.GrewTo after := by
  rcases filled with rfl | ⟨e, rfl⟩
  · exact .of_eq rfl
  · exact .inr ⟨e, rfl⟩

end DueStore

namespace Broker

theorem store_publish (b : Broker) (m : Message) : b.store.FilledTo (b.publish m).2.store := by
  unfold publish
  split
  · exact .inl rfl
  · split
    · exact .inr ⟨_, rfl⟩
    · split <;> exact .inl rfl

theorem store_publishDelayed (b : Broker) (m : Message) (seconds : UInt64) (now : Instant) :
    b.store.FilledTo (b.publishDelayed m seconds now).2.store := by
  unfold publishDelayed
  split
  · exact .inl rfl
  · split
    · exact .inl rfl
    · exact .inr ⟨_, rfl⟩

/-- What the broker takes for later is in its store. -/
theorem mem_publishDelayed {b : Broker} {m : Message} {seconds : UInt64} {now : Instant}
    (taken : (b.publishDelayed m seconds now).1 = some (.ok ())) :
    .ofMessage m (now.later (.ofSeconds seconds)) ∈ (b.publishDelayed m seconds now).2.store.entries := by
  unfold publishDelayed at taken ⊢
  split at taken
  · cases taken
  · split at taken
    · cases taken
    · rename_i near
      simp only [near, if_false]
      exact DueStore.mem_placed_self _ _

end Broker

namespace System

/-! ### Retries -/

section Retries
variable (s : System)

/-- A retry that waits here is kept by the engine, and there may be an alarm for it. -/
theorem await_spec (d : Delivery) (wait : Span) :
    ∃ alarms, s.await d wait = { s with engine := (s.engine.await d).2, alarms } := by
  simp only [await]
  split
  · exact ⟨s.alarms, rfl⟩
  · exact ⟨_, rfl⟩

/-- As long as the timers run there is one. -/
theorem await_eq (d : Delivery) (wait : Span) (timers : s.engine.timersStopped = false) :
    s.await d wait =
      { s with
        engine := { s.engine with
          pending := s.engine.pending.insert s.engine.nextRetry d.waiting, nextRetry := s.engine.nextRetry + 1 }
        alarms := s.alarms.set (s.count + wait.nanos) (.retry s.engine.nextRetry) } := by
  simp only [await, Engine.await, timers, Bool.false_eq_true, if_false]
  rfl

theorem resubmit_spec (id : Nat) (draw : Float) :
    ∃ alarms, s.resubmit id draw = { s with engine := (s.engine.resubmit id draw).1, alarms } := by
  unfold resubmit
  split
  · rename_i engine told
    rw [told]
    exact ⟨s.alarms, rfl⟩
  · rename_i engine wait told
    rw [told]
    exact ⟨_, rfl⟩

/-- An alarm that goes off leaves all but the engine and the alarms alone. -/
theorem goOff_spec (alarm : Alarm Purpose) (draw : Float) :
    ∃ engine alarms, s.goOff alarm draw = { s with engine, alarms } ∧
      (engine = s.engine ∨ ∃ id, alarm.purpose = .retry id ∧ engine = (s.engine.resubmit id draw).1) := by
  unfold goOff
  cases purpose : alarm.purpose with
  | retry id =>
    obtain ⟨alarms, is⟩ := ({ s with alarms := s.alarms.without alarm } : System).resubmit_spec id draw
    exact ⟨_, alarms, is, .inr ⟨id, rfl, rfl⟩⟩
  | outside id => exact ⟨_, _, rfl, .inl rfl⟩

theorem publishRetry_spec (d : Delivery) (wait : Span) :
    ∃ broker, (s.publishRetry d wait).2 = { s with broker } ∧ s.broker.store.FilledTo broker.store :=
  ⟨_, rfl, s.broker.store_publishDelayed ..⟩

/-- Wherever a retry goes, the pool is what it was, and the store may have one more entry. -/
theorem scheduleRetry_spec (d : Delivery) (wait : Span) :
    ∃ broker engine alarms, s.scheduleRetry d wait = { s with broker, engine, alarms } ∧
      s.broker.store.FilledTo broker.store ∧ engine.pool = s.engine.pool := by
  obtain ⟨broker, published, filled⟩ := s.publishRetry_spec d wait
  unfold scheduleRetry
  split
  · obtain ⟨alarms, is⟩ := s.await_spec d wait
    exact ⟨s.broker, _, alarms, is, .inl rfl, rfl⟩
  · split
    · rename_i after told
      rw [told] at published
      obtain rfl : after = { s with broker } := published
      obtain ⟨alarms, is⟩ := ({ s with broker } : System).await_spec d wait
      exact ⟨broker, _, alarms, is, filled, rfl⟩
    · rename_i after told
      rw [told] at published
      exact ⟨broker, s.engine, s.alarms, published, filled, rfl⟩

theorem engine_await (d : Delivery) (wait : Span) : (s.await d wait).engine = (s.engine.await d).2 := by
  obtain ⟨alarms, is⟩ := s.await_spec d wait
  rw [is]

/-- Wherever a retry goes, the engine is what it was, or has kept it. -/
theorem engine_scheduleRetry (d : Delivery) (wait : Span) :
    (s.scheduleRetry d wait).engine = s.engine ∨ (s.scheduleRetry d wait).engine = (s.engine.await d).2 := by
  obtain ⟨broker, published, _⟩ := s.publishRetry_spec d wait
  unfold scheduleRetry
  split
  · exact .inr (s.engine_await d wait)
  · split
    · rename_i after told
      rw [told] at published
      obtain rfl : after = { s with broker } := published
      exact .inr (engine_await _ d wait)
    · rename_i answer after _ told
      rw [told] at published
      obtain rfl : after = { s with broker } := published
      exact .inl rfl

theorem finish_spec (ticket : Nat) (d : Delivery) (outcome : Except HandlerError Unit) (draw : Float) :
    ∃ broker engine alarms, (s.finish ticket d outcome draw).1 = { s with broker, engine, alarms } ∧
      s.broker.store.FilledTo broker.store ∧ engine.pool = (s.engine.finish ticket d outcome draw).1.pool := by
  unfold finish
  generalize s.engine.finish ticket d outcome draw = result
  obtain ⟨engine, calls, retry⟩ := result
  cases retry with
  | none => exact ⟨s.broker, engine, s.alarms, rfl, .inl rfl, rfl⟩
  | some retry =>
    obtain ⟨broker, after, alarms, is, filled, pool⟩ :=
      ({ s with engine } : System).scheduleRetry_spec retry.1 retry.2
    exact ⟨broker, after, alarms, is, filled, pool⟩

end Retries

/-! ### Acts and the store -/

/-- All that may become of the store when something happens apart from the pollers. -/
theorem store_act_cases (s : System) (a : Act) :
    s.broker.store.FilledTo (s.act a).broker.store ∨
      (∃ e, a = .takeOut e ∧ (s.act a).broker.store = (s.broker.store.remove e).2) ∨
      (∃ why, (s.act a).broker.store = s.broker.store.failFetches why) ∨
      ∃ e ttl, a = .claim e ttl ∧ (s.act a).broker.store = (s.broker.store.claim e ttl s.count).2 := by
  cases a with
  | insert e => exact .inl (.inr ⟨e, rfl⟩)
  | takeOut e => exact .inr (.inl ⟨e, rfl, rfl⟩)
  | claim e ttl => exact .inr (.inr (.inr ⟨e, ttl, rfl, rfl⟩))
  | failFetches why => exact .inr (.inr (.inl ⟨why, rfl⟩))
  | publish m => exact .inl (s.broker.store_publish m)
  | publishDelayed m seconds => exact .inl (s.broker.store_publishDelayed m seconds s.now)
  | failPublishes why => exact .inl (.inl rfl)
  | receive => exact .inl (.inl rfl)
  | dropReceiver => exact .inl (.inl rfl)
  | dispatch m => exact .inl (.inl (by rw [act, store_dispatch]))
  | deliver m t => exact .inl (.inl (by rw [act, store_deliver]))
  | occupy name limit =>
    refine .inl (.inl ?_)
    unfold act
    simp only
    split <;> rfl
  | pickUp =>
    refine .inl (.inl ?_)
    simp only [act, pickUp]
    cases s.engine.pool.pickUp <;> rfl
  | start ticket decide =>
    refine .inl (.inl ?_)
    simp only [act]
    cases s.engine.atWork? ticket <;> rfl
  | finish ticket outcome draw =>
    left
    simp only [act]
    cases s.engine.atWork? ticket with
    | none => exact .inl rfl
    | some d =>
      obtain ⟨broker, engine, alarms, is, filled, _⟩ := s.finish_spec ticket d outcome draw
      simp only [is]
      exact filled
  | release ticket => exact .inl (.inl rfl)
  | ring place draw =>
    refine .inl (.inl ?_)
    simp only [act]
    split
    · rename_i alarm _
      obtain ⟨engine, alarms, is, _⟩ := s.goOff_spec alarm draw
      rw [is]
    · rfl
  | passTo count => exact .inl (.inl rfl)
  | stopAccepting => exact .inl (.inl rfl)
  | beginShutdown => exact .inl (.inl rfl)
  | timeOut => exact .inl (.inl rfl)
  | endShutdown => exact .inl (.inl rfl)

/-- Whatever happens apart from the pollers, an entry leaves the store only if someone takes it out. -/
theorem store_act (s : System) (a : Act) :
    s.broker.store.GrewTo (s.act a).broker.store ∨
      ∃ e, a = .takeOut e ∧ (s.act a).broker.store = (s.broker.store.remove e).2 := by
  rcases s.store_act_cases a with filled | taken | ⟨why, failed⟩ | ⟨e, ttl, _, claimed⟩
  · exact .inl filled.grewTo
  · exact .inr taken
  · exact .inl (.of_eq (by rw [failed]; rfl))
  · exact .inl (.of_eq (by rw [claimed, DueStore.entries_claim]))

/-- Locks change only if someone claims an entry. -/
theorem locks_act (s : System) {a : Act} (other : ∀ e ttl, a ≠ .claim e ttl) :
    (s.act a).broker.store.locks = s.broker.store.locks := by
  rcases s.store_act_cases a with filled | ⟨e, _, taken⟩ | ⟨why, failed⟩ | ⟨e, ttl, claims, _⟩
  · exact filled.locks
  · rw [taken]
    rfl
  · rw [failed]
    rfl
  · exact absurd claims (other e ttl)

/-! ### Acts and the clock -/

theorem count_congr {s after : System} (clock : after.clock = s.clock) : after.count = s.count :=
  congrArg (fun c : Clock => c.elapsed.toNat) clock

theorem now_le_of_count_le {s after : System} (within : s.clock.start ≤ Instant.latest)
    (start : after.clock.start = s.clock.start) (later : s.count ≤ after.count) : s.now ≤ after.now := by
  show s.clock.start.later s.clock.elapsedSpan ≤ after.clock.start.later after.clock.elapsedSpan
  rw [start]
  refine Instant.later_mono within ?_
  rw [Clock.nanos_elapsedSpan, Clock.nanos_elapsedSpan]
  exact later

/-- As long as the clock counts, time passes up to what is asked for. -/
theorem count_passTo (s : System) {target : Nat} (counts : target < 0x10000000000000000) :
    (s.passTo target).count = max s.count target := by
  have small : s.count < 0x10000000000000000 := s.clock.elapsed.toNat_lt
  have move : (Span.ofNanos (target - s.count)).nanos = target - s.count := by
    rw [Span.nanos_ofNanos]
    omega
  show (s.clock.advance (.ofNanos (target - s.count))).elapsed.toNat = _
  rw [Clock.toNat_elapsed_advance, move]
  show (s.count + _) % _ = _
  omega

/-- Only the passing of time moves the clock. -/
theorem clock_act (s : System) {a : Act} (still : ∀ count, a ≠ .passTo count) : (s.act a).clock = s.clock := by
  cases a with
  | insert e => rfl
  | takeOut e => rfl
  | claim e ttl => rfl
  | failFetches why => rfl
  | publish m => rfl
  | publishDelayed m seconds => rfl
  | failPublishes why => rfl
  | receive => rfl
  | dropReceiver => rfl
  | dispatch m => rfl
  | deliver m t =>
    simp only [act, deliver]
    split <;> rfl
  | occupy name limit =>
    simp only [act]
    split <;> rfl
  | pickUp =>
    simp only [act, pickUp]
    cases s.engine.pool.pickUp <;> rfl
  | start ticket decide =>
    simp only [act]
    cases s.engine.atWork? ticket <;> rfl
  | finish ticket outcome draw =>
    simp only [act]
    cases s.engine.atWork? ticket with
    | none => rfl
    | some d =>
      obtain ⟨broker, engine, alarms, is, _⟩ := s.finish_spec ticket d outcome draw
      simp only [is]
  | release ticket => rfl
  | ring place draw =>
    simp only [act]
    split
    · rename_i alarm _
      obtain ⟨engine, alarms, is, _⟩ := s.goOff_spec alarm draw
      rw [is]
    · rfl
  | passTo count => exact absurd rfl (still count)
  | stopAccepting => rfl
  | beginShutdown => rfl
  | timeOut => rfl
  | endShutdown => rfl

theorem start_act (s : System) (a : Act) : (s.act a).clock.start = s.clock.start := by
  by_cases passes : ∃ count, a = .passTo count
  · obtain ⟨count, rfl⟩ := passes
    rfl
  · refine congrArg Clock.start (s.clock_act ?_)
    intro count is
    exact passes ⟨count, is⟩

/-- As long as the clock counts, it does not go back. -/
theorem count_le_act (s : System) {a : Act} (counts : ∀ count, a = .passTo count → count < 0x10000000000000000) :
    s.count ≤ (s.act a).count := by
  by_cases passes : ∃ count, a = .passTo count
  · obtain ⟨count, rfl⟩ := passes
    show s.count ≤ (s.passTo count).count
    rw [s.count_passTo (counts count rfl)]
    exact Nat.le_max_left ..
  · have clock : (s.act a).clock = s.clock := by
      refine s.clock_act ?_
      intro count is
      exact passes ⟨count, is⟩
    exact Nat.le_of_eq (count_congr clock).symm

end System
end Courier
