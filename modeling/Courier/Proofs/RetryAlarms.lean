import Courier.Proofs.Chronicles

/-!
The alarms of the retries that the engine keeps. As long as no shutdown has stopped the timers there is one alarm for
each of them and none for any other; afterwards there is none. What happens in a depot leaves the retries alone,
brings another one, offers one to the pool because its alarm is due, or stops the timers.
-/
namespace Courier

/-! ### Counts -/

namespace Engine

theorem deferredRetries_dispatch (e : Engine) (m : Message) (now : Instant) :
    (e.dispatch m now).2.deferredRetries = e.deferredRetries := by
  refine dispatch_keeps (P := fun after => after.deferredRetries = e.deferredRetries) (fun b t after same taken => ?_) rfl
  rw [deliver_ok taken]
  exact same

private theorem deferredRetries_acknowledge (e : Engine) (ticket : Nat) (d : Delivery) (short : Bool) :
    (e.acknowledge ticket d short).1.deferredRetries = e.deferredRetries := by
  unfold acknowledge
  split
  · rfl
  · rfl

theorem deferredRetries_start (e : Engine) (ticket : Nat) (d : Delivery) (decide : Decisions) (now : Instant) :
    (e.start ticket d decide now).1.deferredRetries = e.deferredRetries := by
  unfold start
  split
  · rfl
  · rfl
  · exact deferredRetries_acknowledge ..
  · rfl

theorem deferredRetries_finish (e : Engine) (ticket : Nat) (d : Delivery) (outcome : Except HandlerError Unit)
    (draw : Float) : (e.finish ticket d outcome draw).1.deferredRetries = e.deferredRetries := by
  unfold finish
  split
  · exact deferredRetries_acknowledge ..
  · simp only
    split
    · rfl
    · rfl
    · rfl
    · rfl

/-- A delivery that failed and is to be tried again waits for that. -/
theorem state_of_finish {e : Engine} {ticket : Nat} {d : Delivery} {outcome : Except HandlerError Unit} {draw : Float}
    {retry : Delivery × Span} (fails : (e.finish ticket d outcome draw).2.2 = some retry) :
    retry.1.attempt.state = .retryScheduled := by
  obtain ⟨delivering, -, -⟩ := (e.finish_tells ticket d outcome draw .epoch).2 retry fails
  cases outcome with
  | ok done => simp [finish] at fails
  | error why =>
    by_cases last : e.config.policy.maxRetries ≤ bump d.message.failRetryCount
    · obtain ⟨next, calls, failed, _⟩ := Delivery.fail_exhaust delivering last why draw
      simp [finish, failed] at fails
    · cases waits : e.config.policy.delay (bump d.message.failRetryCount) draw with
      | none =>
        obtain ⟨ended, breaks⟩ := Delivery.fail_broken delivering last why waits
        simp [finish, breaks] at fails
      | some wait =>
        obtain ⟨next, calls, failed, _, _, state, _⟩ := Delivery.fail_retry delivering last why waits
        obtain rfl := by simpa [finish, failed] using fails
        exact state

end Engine

/-! ### Alarms for retries -/

namespace Alarms

/-- The alarms for a retry. -/
def ofRetry (a : Alarms Purpose) (id : Nat) : List (Alarm Purpose) := a.waiting.filter (fun b => b.purpose = .retry id)

/-- Whether no two alarms have one number, and the next one has a new one. -/
structure Numbered {α : Type} (a : Alarms α) : Prop where
  distinct : (a.waiting.map Alarm.serial).Nodup
  fresh : ∀ b ∈ a.waiting, b.serial < a.nextSerial

variable {a : Alarms Purpose}

theorem Numbered.sublist {b : Alarms Purpose} (numbered : a.Numbered) (fewer : b.waiting.Sublist a.waiting)
    (serial : b.nextSerial = a.nextSerial) : b.Numbered where
  distinct := numbered.distinct.sublist (fewer.map _)
  fresh x inside := by
    rw [serial]
    exact numbered.fresh x (fewer.subset inside)

theorem Numbered.set (numbered : a.Numbered) (deadline : Nat) (purpose : Purpose) : (a.set deadline purpose).Numbered where
  distinct := by
    simp only [Alarms.set, List.map_append, List.map_cons, List.map_nil]
    refine List.Nodup.append numbered.distinct (List.nodup_singleton _) ?_
    rintro serial old new
    obtain ⟨b, inside, rfl⟩ := List.mem_map.mp old
    exact absurd (List.mem_singleton.mp new) (Nat.ne_of_lt (numbered.fresh b inside))
  fresh b inside := by
    rcases List.mem_append.mp inside with old | new
    · exact Nat.lt_succ_of_lt (numbered.fresh b old)
    · rw [List.mem_singleton.mp new]
      exact Nat.lt_succ_self _

theorem ofRetry_set (a : Alarms Purpose) (deadline id : Nat) (other : Nat) :
    (a.set deadline (.retry id)).ofRetry other =
      a.ofRetry other ++ if id = other then [⟨deadline, a.nextSerial, .retry id⟩] else [] := by
  by_cases same : id = other
  · simp [ofRetry, Alarms.set, same]
  · simp [ofRetry, Alarms.set, same]

theorem mem_ofRetry {alarm : Alarm Purpose} {id : Nat} :
    alarm ∈ a.ofRetry id ↔ alarm ∈ a.waiting ∧ alarm.purpose = .retry id := by
  simp [ofRetry]

/-- An alarm that goes is missed only by the retry that it is for. -/
theorem ofRetry_without (numbered : a.Numbered) {alarm : Alarm Purpose} (member : alarm ∈ a.waiting) (id : Nat) :
    (a.without alarm).ofRetry id = (a.ofRetry id).filter (fun b => b ≠ alarm) := by
  simp only [ofRetry, without, List.filter_filter]
  refine List.filter_congr (fun b inside => ?_)
  by_cases same : b.serial = alarm.serial
  · obtain rfl := List.inj_on_of_nodup_map numbered.distinct inside member same
    simp
  · have apart : b ≠ alarm := fun is => same (congrArg Alarm.serial is)
    simp [same, apart, Bool.and_comm]

theorem ofRetry_without_other (numbered : a.Numbered) {alarm : Alarm Purpose} (member : alarm ∈ a.waiting) {id : Nat}
    (other : alarm.purpose ≠ .retry id) : (a.without alarm).ofRetry id = a.ofRetry id := by
  rw [ofRetry_without numbered member]
  refine List.filter_eq_self.mpr (fun b inside => ?_)
  have is := (mem_ofRetry.mp inside).2
  have apart : b ≠ alarm := fun same => other (same ▸ is)
  simpa using apart

theorem ofRetry_without_self (numbered : a.Numbered) {alarm : Alarm Purpose} (member : alarm ∈ a.waiting) {id : Nat}
    (only : a.ofRetry id = [alarm]) : (a.without alarm).ofRetry id = [] := by
  rw [ofRetry_without numbered member, only]
  simp

end Alarms

namespace System

/-! ### Offers -/

/-- A retry that is offered to the pool, and what the pool answers. -/
structure Offer where
  id : Nat
  retry : Delivery
  /-- When it is offered, by the clock. -/
  count : Nat
  answer : Except DeliveryError Unit

/-- Whether the pool had no room. -/
def Offer.isRefused (o : Offer) : Bool :=
  match o.answer with
  | .error (.queueFull _ _) => true
  | _ => false

/-- The offer that is made of a retry when its alarm goes off. -/
def offer? (s : System) : Purpose → Option Offer
  | .retry id => (s.engine.pending.get? id).map (fun d => ⟨id, d, s.count, (s.engine.submit d).map (fun _ => ())⟩)
  | .outside _ => none

variable {s after : System}

/-- What becomes of a system in which a retry is offered to the pool because its alarm is due, by the pool's answer. -/
inductive Answers (s : System) (alarm : Alarm Purpose) (id : Nat) (d : Delivery) (draw : Float) :
    Except DeliveryError Unit → System → Prop
  | taken : Answers s alarm id d draw (.ok ()) { s with
      alarms := s.alarms.without alarm
      engine := { s.engine with
        pool := s.engine.pool.entered d.trigger.handlerId d.trigger.concurrency (.delivery d)
        pending := s.engine.pending.erase id } }
  | refused {wait : Span} (waits : s.engine.config.policy.delay d.message.failRetryCount draw = some wait) :
      Answers s alarm id d draw (.error (.queueFull d.trigger.handlerId s.engine.pool.config.capacity)) { s with
        alarms := (s.alarms.without alarm).set (s.count + (wait.longer Engine.shortestWait).nanos) (.retry id)
        engine := { s.engine with deferredRetries := s.engine.deferredRetries + 1 } }
  | dropped : Answers s alarm id d draw (.error (.rejected d.trigger.handlerId)) { s with
      alarms := s.alarms.without alarm
      engine := { s.engine with pending := s.engine.pending.erase id } }

theorem answers_goOff (always : s.engine.config.policy.AlwaysWaits) {alarm : Alarm Purpose} {id : Nat} {d : Delivery}
    (purpose : alarm.purpose = .retry id) (found : s.engine.pending.get? id = some d) (draw : Float) :
    ∃ answer, s.offer? alarm.purpose = some ⟨id, d, s.count, answer⟩ ∧
      Answers s alarm id d draw answer (s.goOff alarm draw) := by
  refine ⟨(s.engine.submit d).map (fun _ => ()), by simp [offer?, purpose, found], ?_⟩
  cases accepting : s.engine.pool.accepting with
  | false =>
    have refused : s.engine.submit d = .error (.rejected d.trigger.handlerId) := by
      simp [Engine.submit, Pool.submit_rejected_iff.mpr accepting, bind, Except.bind]
    have shut : (DeliveryError.rejected d.trigger.handlerId).isShutdown = true := rfl
    have is : s.goOff alarm draw = { s with
        alarms := s.alarms.without alarm, engine := { s.engine with pending := s.engine.pending.erase id } } := by
      simp [goOff, purpose, resubmit, Engine.resubmit, found, refused, shut, Alarms.without]
    rw [is, refused]
    exact .dropped
  | true =>
    by_cases room : s.engine.pool.outstanding < s.engine.pool.config.capacity
    · have taken : s.engine.submit d = .ok { s.engine with
          pool := s.engine.pool.entered d.trigger.handlerId d.trigger.concurrency (.delivery d) } := by
        simp [Engine.submit, Pool.submit_ok_iff.mpr ⟨accepting, room, rfl⟩, bind, Except.bind, pure, Except.pure]
      have is : s.goOff alarm draw = { s with
          alarms := s.alarms.without alarm
          engine := { s.engine with
            pool := s.engine.pool.entered d.trigger.handlerId d.trigger.concurrency (.delivery d)
            pending := s.engine.pending.erase id } } := by
        simp [goOff, purpose, resubmit, Engine.resubmit, found, taken, Alarms.without]
      rw [is, taken]
      exact .taken
    · have full : s.engine.submit d = .error (.queueFull d.trigger.handlerId s.engine.pool.config.capacity) := by
        simp [Engine.submit, Pool.submit_queueFull_iff.mpr ⟨accepting, Nat.not_lt.mp room⟩, bind, Except.bind]
      have open_ : (DeliveryError.queueFull d.trigger.handlerId s.engine.pool.config.capacity).isShutdown = false := rfl
      obtain ⟨wait, waits⟩ := always d.message.failRetryCount draw
      have is : s.goOff alarm draw = { s with
          alarms := (s.alarms.without alarm).set (s.count + (wait.longer Engine.shortestWait).nanos) (.retry id)
          engine := { s.engine with deferredRetries := s.engine.deferredRetries + 1 } } := by
        simp [goOff, purpose, resubmit, Engine.resubmit, found, full, open_, waits, setAlarm, count]
      rw [is, full]
      exact .refused waits

/-! ### One alarm for each retry -/

/-- A system with one alarm for each retry that the engine keeps and none for any other, as long as the timers run. Its
policy never breaks off. -/
structure Armed (s : System) : Prop where
  always : s.engine.config.policy.AlwaysWaits
  numbered : s.alarms.Numbered
  known : ∀ id ∈ s.engine.pending.keys, id < s.engine.nextRetry
  armed : s.engine.timersStopped = false → ∀ id d, s.engine.pending.get? id = some d →
    ∃ alarm, s.alarms.ofRetry id = [alarm]
  silent : ∀ id, s.engine.timersStopped = true ∨ s.engine.pending.get? id = none → s.alarms.ofRetry id = []
  scheduled : ∀ id d, s.engine.pending.get? id = some d → d.attempt.state = .retryScheduled

theorem Armed.known_of_waits (armed : s.Armed) {id : Nat} {d : Delivery} (waits : s.engine.pending.get? id = some d) :
    id < s.engine.nextRetry :=
  armed.known id (List.mem_map.mpr ⟨_, Table.get?_eq_some_iff.mp waits, rfl⟩)

theorem Armed.unknown (armed : s.Armed) {id : Nat} (new : s.engine.nextRetry ≤ id) : s.engine.pending.get? id = none := by
  cases found : s.engine.pending.get? id with
  | none => rfl
  | some d => exact absurd (armed.known_of_waits found) (Nat.not_lt.mpr new)

/-- An alarm for a retry that goes off is the only one for a retry that is there. -/
theorem Armed.found (armed : s.Armed) {alarm : Alarm Purpose} {id : Nat} (member : alarm ∈ s.alarms.waiting)
    (purpose : alarm.purpose = .retry id) :
    ∃ d, s.engine.pending.get? id = some d ∧ s.alarms.ofRetry id = [alarm] ∧ s.engine.timersStopped = false := by
  have inside : alarm ∈ s.alarms.ofRetry id := Alarms.mem_ofRetry.mpr ⟨member, purpose⟩
  have running : s.engine.timersStopped = false := by
    cases timers : s.engine.timersStopped with
    | false => rfl
    | true =>
      rw [armed.silent id (.inl timers)] at inside
      cases inside
  cases found : s.engine.pending.get? id with
  | none =>
    rw [armed.silent id (.inr found)] at inside
    cases inside
  | some d =>
    obtain ⟨only, is⟩ := armed.armed running id d found
    rw [is, List.mem_singleton] at inside
    exact ⟨d, rfl, inside ▸ is, running⟩

/-! ### What becomes of retries -/

/-- Whether the retries are the same, and wait for the same alarms. -/
structure LeavesRetries (s after : System) : Prop where
  engine : s.engine.KeepsAs after.engine
  deferred : after.engine.deferredRetries = s.engine.deferredRetries
  alarms : after.alarms.waiting.Sublist s.alarms.waiting
  retries : ∀ id, after.alarms.ofRetry id = s.alarms.ofRetry id
  serial : after.alarms.nextSerial = s.alarms.nextSerial

theorem leavesRetries_of_alarms (engine : s.engine.KeepsAs after.engine)
    (deferred : after.engine.deferredRetries = s.engine.deferredRetries) (alarms : after.alarms = s.alarms) :
    s.LeavesRetries after where
  engine := engine
  deferred := deferred
  alarms := by rw [alarms]
  retries id := by rw [alarms]
  serial := by rw [alarms]

theorem LeavesRetries.refl (s : System) : s.LeavesRetries s := leavesRetries_of_alarms (.refl _) rfl rfl

/-- What may become of the retries of a system: whether a shutdown starts, and the offer that is made of one. -/
inductive Handles (s after : System) : Bool → Option Offer → Prop
  | leaves (same : s.LeavesRetries after) : Handles s after false none
  | keeps {between : System} {d : Delivery} {wait : Span} (same : s.LeavesRetries between)
      (waits : d.attempt.state = .retryScheduled) (is : after = between.await d wait) : Handles s after false none
  | offers {alarm : Alarm Purpose} {id : Nat} {d : Delivery} {draw : Float} {answer : Except DeliveryError Unit}
      (found : s.engine.pending.get? id = some d) (only : s.alarms.ofRetry id = [alarm])
      (due : alarm.deadline ≤ s.count) (answers : s.Answers alarm id d draw answer after) :
      Handles s after false (some ⟨id, d, s.count, answer⟩)
  | stops (is : after = s.beginShutdown) : Handles s after true none

/-- An alarm that goes off brings back the retry that it is for, if it is for one. -/
theorem handles_goOff (armed : s.Armed) {alarm : Alarm Purpose} (member : alarm ∈ s.alarms.waiting)
    (due : alarm.deadline ≤ s.count) (draw : Float) : s.Handles (s.goOff alarm draw) false (s.offer? alarm.purpose) := by
  cases purpose : alarm.purpose with
  | retry id =>
    obtain ⟨d, found, only, _⟩ := armed.found member purpose
    obtain ⟨answer, offered, answers⟩ := answers_goOff armed.always purpose found draw
    rw [← purpose, offered]
    exact .offers found only due answers
  | outside id =>
    have is : s.goOff alarm draw = { s with alarms := s.alarms.without alarm } := by
      simp only [goOff, purpose]
    rw [is]
    refine .leaves ⟨.refl _, rfl, List.filter_sublist, fun other => ?_, rfl⟩
    exact Alarms.ofRetry_without_other armed.numbered member (by simp [purpose])

theorem handles_finish (s : System) (ticket : Nat) (outcome : Except HandlerError Unit) (draw : Float) :
    s.Handles (s.act (.finish ticket outcome draw)) false none := by
  cases found : s.engine.atWork? ticket with
  | none =>
    simp only [act, found]
    exact .leaves (.refl s)
  | some b =>
    have keeps := s.engine.keepsAs_finish ticket b outcome draw
    have deferred := s.engine.deferredRetries_finish ticket b outcome draw
    have state := @Engine.state_of_finish s.engine ticket b outcome draw
    simp only [act, found, finish]
    generalize s.engine.finish ticket b outcome draw = result at keeps deferred state ⊢
    obtain ⟨engine, calls, retry⟩ := result
    cases retry with
    | none => exact .leaves (leavesRetries_of_alarms keeps deferred rfl)
    | some retry =>
      obtain ⟨d, wait⟩ := retry
      have same (broker : Broker) : s.LeavesRetries { s with engine, broker } :=
        leavesRetries_of_alarms keeps deferred rfl
      have waits (broker : Broker) : s.Handles (({ s with engine, broker } : System).await d wait) false none :=
        .keeps (same broker) (state rfl) rfl
      simp only [scheduleRetry]
      cases engine.config.route with
      | inProcess => exact waits s.broker
      | delayStore =>
        obtain ⟨broker, is, _⟩ := ({ s with engine } : System).publishRetry_spec d wait
        generalize ({ s with engine } : System).publishRetry d wait = answer at is ⊢
        obtain ⟨told, system⟩ := answer
        simp only at is
        subst is
        rcases told with _ | why | done
        · exact .leaves (same broker)
        · exact waits broker
        · exact .leaves (same broker)

/-- Whether an act is the start of a shutdown. -/
def Act.stops : Act → Bool
  | .beginShutdown => true
  | _ => false

/-- The purpose of the alarm that goes off in an act, if one does. -/
def rings? (s : System) : Act → Option Purpose
  | .ring place _ => (s.alarms.dueAt? place s.count).map Alarm.purpose
  | _ => none

/-- What happens in a system apart from its pollers does one of these things to the retries. -/
theorem handles_act (armed : s.Armed) (a : Act) :
    s.Handles (s.act a) a.stops ((s.rings? a).bind s.offer?) := by
  have same {after : System} (engine : s.engine.KeepsAs after.engine)
      (deferred : after.engine.deferredRetries = s.engine.deferredRetries) (alarms : after.alarms = s.alarms) :
      s.Handles after false none := .leaves (leavesRetries_of_alarms engine deferred alarms)
  have pool (pool : Pool Task) : s.Handles { s with engine := { s.engine with pool } } false none :=
    same ⟨rfl, rfl, rfl, rfl, rfl, rfl⟩ rfl rfl
  cases a with
  | insert e => exact same (.refl _) rfl rfl
  | takeOut e => exact same (.refl _) rfl rfl
  | claim e ttl => exact same (.refl _) rfl rfl
  | failFetches why => exact same (.refl _) rfl rfl
  | publish m => exact same (.refl _) rfl rfl
  | publishDelayed m seconds => exact same (.refl _) rfl rfl
  | failPublishes why => exact same (.refl _) rfl rfl
  | receive => exact same (.refl _) rfl rfl
  | dropReceiver => exact same (.refl _) rfl rfl
  | dispatch m => exact same (s.engine.keepsAs_dispatch m s.now) (s.engine.deferredRetries_dispatch m s.now) rfl
  | deliver m t =>
    simp only [act, deliver]
    cases taken : s.engine.deliver m t s.now with
    | error why => exact same (.refl _) rfl rfl
    | ok engine => exact same (Engine.keepsAs_deliver taken) (by rw [Engine.deliver_ok taken]) rfl
  | occupy name limit =>
    simp only [act]
    cases s.engine.pool.submit name limit (.foreign name) with
    | error why => exact same (.refl _) rfl rfl
    | ok after => exact pool after
  | pickUp =>
    simp only [act, pickUp]
    cases s.engine.pool.pickUp with
    | none => exact same (.refl _) rfl rfl
    | some found => exact pool found.2
  | start ticket decide =>
    simp only [act]
    cases s.engine.atWork? ticket with
    | none => exact same (.refl _) rfl rfl
    | some d => exact same (s.engine.keepsAs_start ..) (s.engine.deferredRetries_start ..) rfl
  | finish ticket outcome draw => exact s.handles_finish ticket outcome draw
  | release ticket => exact pool _
  | ring place draw =>
    simp only [act]
    cases due : s.alarms.dueAt? place s.count with
    | none =>
      simp only [rings?, due]
      exact same (.refl _) rfl rfl
    | some alarm =>
      obtain ⟨member, early⟩ := Alarms.dueAt?_some due
      simp only [rings?, due]
      exact handles_goOff armed member early draw
  | passTo count => exact same (.refl _) rfl rfl
  | stopAccepting => exact pool _
  | beginShutdown => exact .stops rfl
  | timeOut => exact pool _
  | endShutdown => exact pool _

/-! ### Armed systems stay so -/

theorem Armed.leaves (armed : s.Armed) (same : s.LeavesRetries after) : after.Armed where
  always := by
    rw [same.engine.config]
    exact armed.always
  numbered := armed.numbered.sublist same.alarms same.serial
  known := by
    rw [same.engine.pending, same.engine.nextRetry]
    exact armed.known
  armed running id d found := by
    rw [same.retries]
    exact armed.armed (same.engine.timers ▸ running) id d (same.engine.pending ▸ found)
  silent id gone := by
    rw [same.retries]
    rw [same.engine.timers, same.engine.pending] at gone
    exact armed.silent id gone
  scheduled id d found := armed.scheduled id d (same.engine.pending ▸ found)

theorem await_of_stopped {s : System} (stopped : s.engine.timersStopped = true) (d : Delivery) (wait : Span) :
    s.await d wait = { s with engine := (s.engine.await d).2 } := by
  have timers : (s.engine.await d).2.timersStopped = true := stopped
  simp only [System.await, timers, if_true]

theorem Armed.await (armed : s.Armed) {d : Delivery} (waits : d.attempt.state = .retryScheduled) (wait : Span) :
    (s.await d wait).Armed := by
  have keys := (Engine.await_numbered armed.known d).2
  have found (id : Nat) : (s.engine.await d).2.pending.get? id =
      if s.engine.nextRetry = id then some d.waiting else s.engine.pending.get? id := Table.get?_insert ..
  have fresh := armed.silent s.engine.nextRetry (.inr (armed.unknown (Nat.le_refl _)))
  have scheduled (id : Nat) (x : Delivery) (is : (s.engine.await d).2.pending.get? id = some x) :
      x.attempt.state = .retryScheduled := by
    rw [found] at is
    split at is
    · cases is
      exact waits
    · exact armed.scheduled id x is
  cases timers : s.engine.timersStopped with
  | true =>
    rw [await_of_stopped timers]
    refine ⟨armed.always, armed.numbered, keys, fun running => ?_, fun id _ => armed.silent id (.inl timers), scheduled⟩
    cases timers.symm.trans running
  | false =>
    rw [s.await_eq d wait timers]
    have rings (id : Nat) := s.alarms.ofRetry_set (s.count + wait.nanos) s.engine.nextRetry id
    refine ⟨armed.always, armed.numbered.set .., keys, fun _ id x is => ?_, fun id gone => ?_, scheduled⟩
    · have is := (found id).symm.trans is
      rw [rings]
      by_cases new : s.engine.nextRetry = id
      · subst new
        exact ⟨_, by rw [fresh, if_pos rfl]; rfl⟩
      · rw [if_neg new] at is
        simpa [new] using armed.armed timers id x is
    · rw [rings]
      rcases gone with stopped | none
      · cases timers.symm.trans stopped
      · have none := (found id).symm.trans none
        by_cases new : s.engine.nextRetry = id
        · simp [new] at none
        · rw [if_neg new] at none
          simpa [new] using armed.silent id (.inr none)

theorem Armed.answers (armed : s.Armed) {alarm : Alarm Purpose} {id : Nat} {d : Delivery} {draw : Float}
    {answer : Except DeliveryError Unit} (found : s.engine.pending.get? id = some d)
    (only : s.alarms.ofRetry id = [alarm]) (answers : s.Answers alarm id d draw answer after) : after.Armed := by
  obtain ⟨member, purpose⟩ := Alarms.mem_ofRetry.mp (only ▸ List.mem_singleton_self alarm)
  have running : s.engine.timersStopped = false := (armed.found member purpose).choose_spec.2.2
  have numbered : (s.alarms.without alarm).Numbered := armed.numbered.sublist List.filter_sublist rfl
  have self := Alarms.ofRetry_without_self armed.numbered member only
  have others {other : Nat} (apart : id ≠ other) : (s.alarms.without alarm).ofRetry other = s.alarms.ofRetry other :=
    Alarms.ofRetry_without_other armed.numbered member (by simpa [purpose] using apart)
  have gone (last : System) (config : last.engine.config = s.engine.config)
      (alarms : last.alarms = s.alarms.without alarm) (pending : last.engine.pending = s.engine.pending.erase id)
      (next : last.engine.nextRetry = s.engine.nextRetry)
      (timers : last.engine.timersStopped = s.engine.timersStopped) : last.Armed := by
    have left (other : Nat) : last.engine.pending.get? other =
        if id = other then none else s.engine.pending.get? other := by rw [pending, Table.get?_erase]
    refine ⟨config ▸ armed.always, alarms ▸ numbered, fun other inside => ?_, fun _ other x is => ?_,
      fun other silent => ?_, fun other x is => ?_⟩
    · rw [next]
      rw [pending] at inside
      exact armed.known other ((List.filter_sublist.map _).subset inside)
    · rw [left] at is
      split at is
      · cases is
      · rename_i apart
        rw [alarms, others apart]
        exact armed.armed running other x is
    · rw [alarms]
      by_cases apart : id = other
      · rw [← apart, self]
      · rw [others apart]
        rw [timers, left, if_neg apart] at silent
        exact armed.silent other silent
    · rw [left] at is
      split at is
      · cases is
      · exact armed.scheduled other x is
  cases answers with
  | taken => exact gone _ rfl rfl rfl rfl rfl
  | dropped => exact gone _ rfl rfl rfl rfl rfl
  | refused =>
    have again (deadline other : Nat) := (s.alarms.without alarm).ofRetry_set deadline id other
    refine ⟨armed.always, numbered.set .., armed.known, fun _ other x is => ?_, fun other silent => ?_, armed.scheduled⟩
    · rw [again]
      by_cases apart : id = other
      · exact ⟨_, by rw [← apart, self, if_pos rfl]; rfl⟩
      · simpa [apart, others apart] using armed.armed running other x is
    · rw [again]
      by_cases apart : id = other
      · rw [← apart] at silent
        rcases silent with stopped | none
        · cases running.symm.trans stopped
        · cases found.symm.trans none
      · simpa [apart, others apart] using armed.silent other silent

theorem Armed.stops (armed : s.Armed) : s.beginShutdown.Armed where
  always := armed.always
  numbered := armed.numbered.sublist List.filter_sublist rfl
  known id inside := nomatch inside
  armed running := nomatch running
  silent id _ := by
    simp only [beginShutdown, Alarms.cancel, Alarms.ofRetry, List.filter_filter]
    refine List.filter_eq_nil_iff.mpr (fun b _ => ?_)
    cases purpose : b.purpose with
    | retry other => simp
    | outside other => simp
  scheduled id d found := nomatch found

/-- Whatever becomes of the retries, there is one alarm for each. -/
theorem Armed.handles (armed : s.Armed) {shut : Bool} {offer : Option Offer} (handles : s.Handles after shut offer) :
    after.Armed := by
  cases handles with
  | leaves same => exact armed.leaves same
  | keeps same waits is => exact is ▸ (armed.leaves same).await waits _
  | offers found only due answers => exact armed.answers found only answers
  | stops is => exact is ▸ armed.stops

end System

/-! ### Depots and chronicles -/

namespace Depot

/-- A poll leaves the retries alone. -/
theorem leavesRetries_act (w : Depot) {a : Act} (inside : ∀ b, a ≠ .outside b) : w.system.LeavesRetries (w.act a).system := by
  refine System.leavesRetries_of_alarms (w.keepsAs_poll inside) ?_ (w.keeps_poll inside).2.1
  rcases (w.keeps_poll inside).2.2 with same | ⟨m, same⟩
  · rw [same]
  · rw [same]
    exact Engine.deferredRetries_dispatch ..

/-- Whether an act is the start of a shutdown. -/
def Act.stops : Act → Bool
  | .outside a => a.stops
  | _ => false

end Depot

namespace Chronicle

/-- The purpose of the alarm that goes off in an act, if one does. -/
def rings? (w : Chronicle) : Depot.Act → Option Purpose
  | .outside a => w.system.rings? a
  | _ => none

/-- The offer of a retry to the pool in an act, if one is made. -/
def offer? (w : Chronicle) (a : Depot.Act) : Option System.Offer := (w.rings? a).bind w.system.offer?

theorem handles_act {w : Chronicle} (armed : w.system.Armed) (a : Depot.Act) :
    w.system.Handles (w.act a).system a.stops (w.offer? a) := by
  cases a with
  | outside a => exact System.handles_act armed a
  | beginPoll place => exact .leaves (w.depot.leavesRetries_act (by simp))
  | go k => exact .leaves (w.depot.leavesRetries_act (by simp))

theorem armed_act {w : Chronicle} (armed : w.system.Armed) (a : Depot.Act) : (w.act a).system.Armed :=
  armed.handles (handles_act armed a)

theorem armed_opened (clock : Clock) (broker : Broker) {config : EngineConfig} (always : config.policy.AlwaysWaits)
    (registry : Registry) (interceptors : Nat) (pollers : List Poller) :
    (opened clock broker config registry interceptors pollers).system.Armed where
  always := always
  numbered := ⟨List.nodup_nil, fun _ inside => nomatch inside⟩
  known _ inside := nomatch inside
  armed _ _ _ found := nomatch found
  silent _ _ := rfl
  scheduled _ _ found := nomatch found

theorem armed_run {w : Chronicle} (armed : w.system.Armed) (acts : List Depot.Act) : (w.run acts).system.Armed :=
  run_keeps (P := fun w => w.system.Armed) armed (fun _ a _ armed => armed_act armed a)

end Chronicle
end Courier
