import Courier.Proofs.Rounds
import Courier.Proofs.StrayRetries
import Courier.Proofs.TryEvents

/-!
A chronicle of a depot. Beside what happens it is written down which deliveries come in and what they come from, what
is told about each try, and where each retry rests until its next try. What one act may do to the engine, and what is
written down then, is one of few changes.
-/
namespace Courier

/-! ### Tasks -/

/-- Whether a task is no delivery. -/
def Task.IsForeign (work : Task) : Prop := ∀ d, work ≠ .delivery d

/-- Whether a task is no delivery that has been started. -/
def Task.IsFresh (work : Task) : Prop := ∀ d, work = .delivery d → d.attempt.IsReady

theorem Task.IsForeign.isFresh {work : Task} (foreign : work.IsForeign) : work.IsFresh :=
  fun d is => absurd is (foreign d)

namespace Pool
variable {p q : Pool Task} {P : Task → Prop}

/-- Whether a pool has only tasks that were there before and new ones of some kind. -/
structure Admits (p : Pool Task) (P : Task → Prop) (q : Pool Task) : Prop where
  accounted : q.Accounted
  tickets : p.nextTicket ≤ q.nextTicket
  tasks : ∀ job ∈ q.tasks, job ∈ p.tasks ∨ p.nextTicket ≤ job.ticket ∧ P job.work

theorem Admits.refl (inv : p.Accounted) : p.Admits P p := ⟨inv, Nat.le_refl _, fun _ => .inl⟩

theorem Admits.mono {Q : Task → Prop} (admits : p.Admits P q) (imp : ∀ work, P work → Q work) : p.Admits Q q where
  accounted := admits.accounted
  tickets := admits.tickets
  tasks job member := (admits.tasks job member).imp_right (And.imp_right (imp job.work))

theorem Admits.trans {r : Pool Task} (first : p.Admits P q) (second : q.Admits P r) : p.Admits P r where
  accounted := second.accounted
  tickets := Nat.le_trans first.tickets second.tickets
  tasks := by
    intro job member
    rcases second.tasks job member with old | ⟨late, ready⟩
    · exact first.tasks job old
    · exact .inr ⟨Nat.le_trans first.tickets late, ready⟩

/-- A step admits no other task than the one that it accepts. -/
theorem admits_step (inv : p.Accounted) (s : Step Task) (kind : ∀ a, p.accepted? s = some a → P a.1.work) :
    p.Admits P (p.step s) := by
  obtain ⟨k, next, tickets⟩ := tickets_step p s
  refine ⟨accounted_step inv s, by omega, ?_⟩
  intro job member
  by_cases drained : p.timesOut s = false
  · rcases List.mem_append.mp ((tasks_step inv s drained).mem_iff.mp (List.mem_append_left _ member)) with old | new
    · exact .inl old
    · right
      cases taken : p.accepted? s with
      | none => simp [taken] at new
      | some a =>
        obtain rfl : job = a.1 := by simpa [taken] using new
        have inside : a.1.ticket ∈ List.range' p.nextTicket k := by
          rw [← tickets]
          simp [taken]
        exact ⟨(List.mem_range'_1.mp inside).1, kind a taken⟩
  · cases s with
    | conclude timeout =>
      have late : p.timesOut (.conclude timeout) = true := by simpa using drained
      simp [step_conclude_of_timesOut late, tasks, queued, active, Table.empty] at member
    | timeOut => simp [timesOut] at drained
    | submit name limit work => simp [timesOut] at drained
    | pickUp => simp [timesOut] at drained
    | complete ticket => simp [timesOut] at drained
    | stopAccepting => simp [timesOut] at drained

theorem admits_submit (inv : p.Accounted) {name : String} {limit : Nat} {work : Task}
    (taken : p.submit name limit work = .ok q) (kind : P work) : p.Admits P q := by
  have after : p.step (.submit name limit work) = q := by simp [Pool.step, taken, Except.toOption]
  rw [← after]
  apply admits_step inv
  intro a accepted
  obtain rfl : (⟨p.nextTicket, name, work⟩, limit) = a := by simpa [accepted?, taken] using accepted
  exact kind

theorem nextTicket_submit {name : String} {limit : Nat} {work : Task} (taken : p.submit name limit work = .ok q) :
    q.nextTicket = p.nextTicket + 1 := by
  rw [submit_ok taken]
  rfl

section Held
variable {ticket : Nat} {job : Job Task} (inv : p.Accounted)
  (found : p.held.find? (fun j => j.ticket == ticket) = some job)
include inv found

theorem mem_tasks_complete {other : Job Task} (member : other ∈ (p.complete ticket).tasks) :
    other ∈ p.tasks ∧ other.ticket ≠ ticket := by
  have tasks := tasks_complete inv found
  have hit : job.ticket = ticket := by simpa using List.find?_some found
  have distinct := (tasks.map Job.ticket).nodup_iff.mp inv.distinct
  refine ⟨tasks.mem_iff.mpr (List.mem_cons_of_mem _ member), ?_⟩
  intro same
  exact (List.nodup_cons.mp distinct).1 (List.mem_map.mpr ⟨other, member, same.trans hit.symm⟩)

theorem mem_tasks_revise {work : Task} {other : Job Task} (member : other ∈ (p.revise ticket work).tasks) :
    other = { job with work } ∨ other ∈ p.tasks ∧ other.ticket ≠ ticket := by
  obtain ⟨others, before, after⟩ := tasks_revise inv work found
  have hit : job.ticket = ticket := by simpa using List.find?_some found
  have distinct := (before.map Job.ticket).nodup_iff.mp inv.distinct
  rcases List.mem_cons.mp (after.mem_iff.mp member) with here | elsewhere
  · exact .inl here
  · refine .inr ⟨before.mem_iff.mpr (List.mem_cons_of_mem _ elsewhere), ?_⟩
    intro same
    exact (List.nodup_cons.mp distinct).1 (List.mem_map.mpr ⟨other, elsewhere, same.trans hit.symm⟩)

end Held

theorem admits_complete (inv : p.Accounted) (ticket : Nat) : p.Admits P (p.complete ticket) :=
  admits_step inv (.complete ticket) (fun a accepted => by simp [accepted?] at accepted)

end Pool

/-! ### What an engine does to its tasks and retries -/

namespace Engine
variable {e after : Engine}

/-- Whether an engine is set up as before and keeps no other retries. -/
structure Bears (e after : Engine) : Prop where
  config : after.config = e.config
  pending : after.pending.entries ⊆ e.pending.entries
  nextRetry : after.nextRetry = e.nextRetry

theorem KeepsAs.bears (keeps : e.KeepsAs after) : e.Bears after where
  config := keeps.config
  pending := by
    rw [keeps.pending]
    exact List.Subset.refl _
  nextRetry := keeps.nextRetry

/-- Whether some deliveries have come in: each has a ticket of its own and has been counted. -/
structure Takes (e after : Engine) : Prop where
  keeps : e.KeepsAs after
  pool : e.pool.Admits Task.IsFresh after.pool
  counted : after.dispatched + e.pool.nextTicket = e.dispatched + after.pool.nextTicket

theorem takes_refl (inv : e.pool.Accounted) : e.Takes e := ⟨.refl e, .refl inv, rfl⟩

theorem Takes.deliver (takes : e.Takes after) {m : Message} {t : Trigger} {now : Instant} {last : Engine}
    (taken : after.deliver m t now = .ok last) : e.Takes last := by
  have keeps := takes.keeps.trans (keepsAs_deliver taken)
  have counted := takes.counted
  obtain ⟨pool, offered, rfl⟩ := deliver_pool taken
  have next := Pool.nextTicket_submit offered
  refine ⟨keeps, takes.pool.trans (Pool.admits_submit takes.pool.accounted offered ?_), ?_⟩
  · rintro d ⟨⟩
    exact .inl rfl
  · show after.dispatched + 1 + e.pool.nextTicket = e.dispatched + pool.nextTicket
    omega

theorem takes_dispatch (inv : e.pool.Accounted) (m : Message) (now : Instant) : e.Takes (e.dispatch m now).2 :=
  dispatch_keeps (P := e.Takes) (fun _ _ _ takes taken => takes.deliver taken) (takes_refl inv)

private theorem dispatched_acknowledge (e : Engine) (ticket : Nat) (d : Delivery) (short : Bool) :
    (e.acknowledge ticket d short).1.dispatched = e.dispatched := by
  unfold acknowledge
  split
  · rfl
  · rfl

theorem dispatched_start (e : Engine) (ticket : Nat) (d : Delivery) (decide : Decisions) (now : Instant) :
    (e.start ticket d decide now).1.dispatched = e.dispatched := by
  unfold start
  split
  · rfl
  · rfl
  · exact dispatched_acknowledge ..
  · rfl

theorem dispatched_finish (e : Engine) (ticket : Nat) (d : Delivery) (outcome : Except HandlerError Unit) (draw : Float) :
    (e.finish ticket d outcome draw).1.dispatched = e.dispatched := by
  unfold finish
  split
  · exact dispatched_acknowledge ..
  · simp only
    split
    · rfl
    · rfl
    · rfl
    · rfl

/-- A retry that is offered to the pool enters it or goes on waiting; once the pool is closed, it is dropped. -/
theorem resubmit_admits (inv : e.pool.Accounted) (ready : ∀ x ∈ e.pending.entries, x.2.attempt.IsReady) (id : Nat)
    (draw : Float) :
    e.Bears (e.resubmit id draw).1 ∧ e.pool.Admits Task.IsFresh (e.resubmit id draw).1.pool ∧
      (e.resubmit id draw).1.dispatched = e.dispatched := by
  have erased : (e.pending.erase id).entries ⊆ e.pending.entries := List.filter_subset_self _
  unfold resubmit
  cases found : e.pending.get? id with
  | none => exact ⟨⟨rfl, List.Subset.refl _, rfl⟩, .refl inv, rfl⟩
  | some d =>
    cases taken : e.submit d with
    | ok after =>
      simp only [taken]
      obtain ⟨pool, offered, rfl⟩ := submit_pool taken
      refine ⟨⟨rfl, erased, rfl⟩, Pool.admits_submit inv offered ?_, rfl⟩
      rintro d ⟨⟩
      exact ready _ (Table.get?_eq_some_iff.mp found)
    | error why =>
      by_cases shut : why.isShutdown
      · simp only [taken, shut, if_true]
        exact ⟨⟨rfl, erased, rfl⟩, .refl inv, trivial⟩
      · simp only [taken, shut, Bool.false_eq_true, if_false]
        exact ⟨⟨rfl, List.Subset.refl _, rfl⟩, .refl inv, trivial⟩

end Engine

/-! ### What is written down -/

/-- What a delivery comes from that comes in. -/
inductive Source
  /-- Someone has sent its message. -/
  | sent
  /-- The engine has kept it as a retry, by number. -/
  | kept (id : Nat)
  /-- A poll has found its message in the store. -/
  | stored (e : DueEntry)
deriving DecidableEq

/-- A retry that rests until its next try. -/
structure Rest where
  /-- The ticket of the try that failed. -/
  ticket : Nat
  /-- When that try started. -/
  startedAt : Instant
  wait : Span
  /-- What the next try will come from. -/
  source : Source
deriving DecidableEq

/-- A delivery that comes in. -/
structure Arrival where
  ticket : Nat
  source : Source
  now : Instant
  /-- Whether a retry has been resting in what it comes from. -/
  again : Bool
deriving DecidableEq

def Purpose.source? : Purpose → Option Source
  | .retry id => some (.kept id)
  | .outside _ => none

theorem Purpose.source?_ne_stored (p : Purpose) (e : DueEntry) : p.source? ≠ some (.stored e) := by
  cases p <;> simp [source?]

namespace System

/-- What the deliveries come from that an act brings in. -/
def source? (s : System) : Act → Option Source
  | .dispatch _ | .deliver _ _ => some .sent
  | .ring place _ => (s.alarms.dueAt? place s.count).bind (fun alarm => alarm.purpose.source?)
  | _ => none

/-- Only polls bring in what is in the store. -/
theorem source?_ne_stored (s : System) (a : Act) (e : DueEntry) : s.source? a ≠ some (.stored e) := by
  cases a with
  | ring place draw =>
    simp only [source?]
    cases s.alarms.dueAt? place s.count with
    | none => simp
    | some alarm => exact alarm.purpose.source?_ne_stored e
  | dispatch m => simp [source?]
  | deliver m t => simp [source?]
  | _ => simp [source?]

/-- The events of an act, with the ticket of the try that they are about. -/
def told (s : System) : Act → List (Nat × Event)
  | .start ticket decide =>
    match s.engine.atWork? ticket with
    | some d => (events (s.start ticket d decide).2.1).map (fun e => (ticket, e))
    | none => []
  | .finish ticket outcome draw =>
    match s.engine.atWork? ticket with
    | some d => (events (s.finish ticket d outcome draw).2).map (fun e => (ticket, e))
    | none => []
  | _ => []

/-- Where a retry rests: in the store if retries wait there and the broker takes it, with the engine if not. It rests
nowhere if the worker breaks off. -/
def restsIn? (s : System) (d : Delivery) (wait : Span) : Option Source :=
  match s.engine.config.route with
  | .inProcess => some (.kept s.engine.nextRetry)
  | .delayStore =>
    match (s.publishRetry d wait).1 with
    | some (.ok _) => some (.stored (.ofMessage d.addressed (s.now.later (.ofSeconds wait.wholeSeconds))))
    | some (.error _) => some (.kept s.engine.nextRetry)
    | none => none

/-- The retry that an act leads to, where it rests. -/
def rest? (s : System) : Act → Option Rest
  | .finish ticket outcome draw =>
    (s.retry? (.finish ticket outcome draw)).bind (fun retry =>
      (s.restsIn? retry.1 retry.2).map (fun source => ⟨ticket, retry.1.attempt.startedAt, retry.2, source⟩))
  | _ => none

/-! ### Changes -/

/-- A system whose tasks are accounted for and whose retries may be tried again. -/
structure Orderly (s : System) : Prop where
  accounted : s.engine.pool.Accounted
  ready : ∀ x ∈ s.engine.pending.entries, x.2.attempt.IsReady

/-- What the end of a try may leave behind. -/
inductive Leaves (s after : System) (ticket : Nat) (d : Delivery) : Option Rest → Prop
  | nothing (engine : s.engine.Bears after.engine) (alarms : after.alarms = s.alarms) : Leaves s after ticket d none
  | entry {m : Message} {wait : Span} (delivering : d.attempt.state = .delivering)
      (route : s.engine.config.route = .delayStore) (engine : s.engine.Bears after.engine)
      (alarms : after.alarms = s.alarms) :
      Leaves s after ticket d
        (some ⟨ticket, d.attempt.startedAt, wait, .stored (.ofMessage m (s.now.later (.ofSeconds wait.wholeSeconds)))⟩)
  | retry {wait : Span} (delivering : d.attempt.state = .delivering) (config : after.engine.config = s.engine.config)
      (pending : ∀ x ∈ after.engine.pending.entries, x ∈ s.engine.pending.entries ∨ x.2.attempt.IsReady)
      (nextRetry : after.engine.nextRetry = s.engine.nextRetry + 1)
      (alarms : ∀ a ∈ after.alarms.waiting, a ∈ s.alarms.waiting ∨
        a.purpose = .retry s.engine.nextRetry ∧ s.count + wait.nanos ≤ a.deadline) :
      Leaves s after ticket d (some ⟨ticket, d.attempt.startedAt, wait, .kept s.engine.nextRetry⟩)

/-- What an act may do to the engine, with what the deliveries come from that come in, what is told about a try and
the retry that comes to rest. -/
inductive Change (s after : System) : Option Source → List (Nat × Event) → Option Rest → Prop
  | idles (engine : s.engine.Bears after.engine) (pool : s.engine.pool.Admits Task.IsForeign after.engine.pool)
      (counted : after.engine.dispatched = s.engine.dispatched) (alarms : after.alarms.waiting ⊆ s.alarms.waiting) :
      Change s after none [] none
  | takes {source : Source} (outside : ∀ id, source ≠ .kept id) (engine : s.engine.Takes after.engine)
      (alarms : after.alarms = s.alarms) : Change s after (some source) [] none
  | resubmits {alarm : Alarm Purpose} {id : Nat} (member : alarm ∈ s.alarms.waiting) (purpose : alarm.purpose = .retry id)
      (due : alarm.deadline ≤ s.count) (engine : s.engine.Bears after.engine)
      (pool : s.engine.pool.Admits Task.IsFresh after.engine.pool) (counted : after.engine.dispatched = s.engine.dispatched)
      (alarms : ∀ a ∈ after.alarms.waiting, a ∈ s.alarms.waiting ∨ a.purpose = .retry id ∧ s.count ≤ a.deadline) :
      Change s after (some (.kept id)) [] none
  | begins {ticket : Nat} {job : Job Task} {d : Delivery}
      (found : s.engine.pool.held.find? (fun job => job.ticket == ticket) = some job) (is : job.work = .delivery d)
      (ready : d.attempt.IsReady) (engine : s.engine.Bears after.engine)
      (pool : after.engine.pool = s.engine.pool.revise ticket (.delivery (d.begun s.now)))
      (counted : after.engine.dispatched = s.engine.dispatched) (alarms : after.alarms = s.alarms) :
      Change s after none [(ticket, .attemptStarted (d.begun s.now).context)] none
  | ends {ticket : Nat} {job : Job Task} {d : Delivery} {told : List Event} {rest : Option Rest}
      (found : s.engine.pool.held.find? (fun job => job.ticket == ticket) = some job) (is : job.work = .delivery d)
      (closes : Engine.Closes d s.now told) (pool : after.engine.pool = s.engine.pool.complete ticket)
      (counted : after.engine.dispatched = s.engine.dispatched) (leaves : Leaves s after ticket d rest) :
      Change s after none (told.map (fun e => (ticket, e))) rest

section Change
variable {s after : System} {source : Option Source} {told : List (Nat × Event)} {rest : Option Rest}

theorem Change.orderly (change : Change s after source told rest) (orderly : s.Orderly) : after.Orderly := by
  have ready (engine : s.engine.Bears after.engine) : ∀ x ∈ after.engine.pending.entries, x.2.attempt.IsReady :=
    fun x member => orderly.ready x (engine.pending member)
  cases change with
  | idles engine pool counted alarms => exact ⟨pool.accounted, ready engine⟩
  | takes outside engine alarms => exact ⟨engine.pool.accounted, ready engine.keeps.bears⟩
  | resubmits member purpose due engine pool counted alarms => exact ⟨pool.accounted, ready engine⟩
  | begins found is isReady engine pool counted alarms =>
    refine ⟨?_, ready engine⟩
    rw [pool]
    exact Pool.accounted_revise orderly.accounted ..
  | ends found is closes pool counted leaves =>
    constructor
    · rw [pool]
      exact Pool.accounted_step orderly.accounted (.complete _)
    · cases leaves with
      | nothing engine alarms => exact ready engine
      | entry delivering route engine alarms => exact ready engine
      | retry delivering config pending nextRetry alarms =>
        intro x member
        rcases pending x member with old | new
        · exact orderly.ready x old
        · exact new

theorem Change.config (change : s.Change after source told rest) : after.engine.config = s.engine.config := by
  cases change with
  | idles engine pool counted alarms => exact engine.config
  | takes outside engine alarms => exact engine.keeps.config
  | resubmits member purpose due engine pool counted alarms => exact engine.config
  | begins found is ready engine pool counted alarms => exact engine.config
  | ends found is closes pool counted leaves =>
    cases leaves with
    | nothing engine alarms => exact engine.config
    | entry delivering route engine alarms => exact engine.config
    | retry delivering config pending nextRetry alarms => exact config

theorem Change.nextTicket_le (change : s.Change after source told rest) :
    s.engine.pool.nextTicket ≤ after.engine.pool.nextTicket := by
  cases change with
  | idles engine pool counted alarms => exact pool.tickets
  | takes outside engine alarms => exact engine.pool.tickets
  | resubmits member purpose due engine pool counted alarms => exact pool.tickets
  | begins found is ready engine pool counted alarms => exact Nat.le_of_eq (by rw [pool]; rfl)
  | ends found is closes pool counted leaves =>
    rw [pool]
    obtain ⟨k, next, _⟩ := s.engine.pool.tickets_step (.complete _)
    exact Nat.le_trans (Nat.le_add_right ..) (Nat.le_of_eq next.symm)

theorem Change.nextRetry_le (change : s.Change after source told rest) :
    s.engine.nextRetry ≤ after.engine.nextRetry := by
  cases change with
  | idles engine pool counted alarms => exact Nat.le_of_eq engine.nextRetry.symm
  | takes outside engine alarms => exact Nat.le_of_eq engine.keeps.nextRetry.symm
  | resubmits member purpose due engine pool counted alarms => exact Nat.le_of_eq engine.nextRetry.symm
  | begins found is ready engine pool counted alarms => exact Nat.le_of_eq engine.nextRetry.symm
  | ends found is closes pool counted leaves =>
    cases leaves with
    | nothing engine alarms => exact Nat.le_of_eq engine.nextRetry.symm
    | entry delivering route engine alarms => exact Nat.le_of_eq engine.nextRetry.symm
    | retry delivering config pending nextRetry alarms => omega

/-- The alarms for retries after a change: each was there before, takes the place of one that was due, or is for the
retry that has come to rest. -/
theorem Change.alarm_cases (change : s.Change after source told rest) {alarm : Alarm Purpose}
    (member : alarm ∈ after.alarms.waiting) :
    alarm ∈ s.alarms.waiting ∨
      (∃ old ∈ s.alarms.waiting, old.purpose = alarm.purpose ∧ old.deadline ≤ alarm.deadline) ∨
      ∃ r ∈ rest, alarm.purpose = .retry s.engine.nextRetry ∧ r.source = .kept s.engine.nextRetry ∧
        s.count + r.wait.nanos ≤ alarm.deadline := by
  cases change with
  | idles engine pool counted alarms => exact .inl (alarms member)
  | takes outside engine alarms => exact .inl (alarms ▸ member)
  | @resubmits due id inside purpose early engine pool counted alarms =>
    rcases alarms alarm member with old | ⟨again, late⟩
    · exact .inl old
    · exact .inr (.inl ⟨due, inside, purpose.trans again.symm, Nat.le_trans early late⟩)
  | begins found is ready engine pool counted alarms => exact .inl (alarms ▸ member)
  | ends found is closes pool counted leaves =>
    cases leaves with
    | nothing engine alarms => exact .inl (alarms ▸ member)
    | entry delivering route engine alarms => exact .inl (alarms ▸ member)
    | retry delivering config pending nextRetry alarms =>
      rcases alarms alarm member with old | ⟨purpose, late⟩
      · exact .inl old
      · exact .inr (.inr ⟨_, rfl, purpose, rfl, late⟩)

/-- A retry comes to rest at the end of a try. -/
theorem Change.leaves_of_rest (change : Change s after source told rest) {r : Rest} (new : r ∈ rest) :
    ∃ ticket job d, s.engine.pool.held.find? (fun job => job.ticket == ticket) = some job ∧ job.work = .delivery d ∧
      Leaves s after ticket d (some r) := by
  cases change with
  | idles engine pool counted alarms => cases new
  | takes outside engine alarms => cases new
  | resubmits member purpose due engine pool counted alarms => cases new
  | begins found is ready engine pool counted alarms => cases new
  | ends found is closes pool counted leaves =>
    obtain rfl := Option.mem_def.mp new
    exact ⟨_, _, _, found, is, leaves⟩

/-- A retry that the engine keeps gets a new number. -/
theorem Change.id_of_rest (change : Change s after source told rest) {r : Rest} (new : r ∈ rest) {id : Nat}
    (is : r.source = .kept id) : id = s.engine.nextRetry := by
  obtain ⟨ticket, job, d, _, _, leaves⟩ := change.leaves_of_rest new
  cases leaves with
  | entry delivering route engine alarms => cases is
  | retry delivering config pending nextRetry alarms =>
    cases is
    rfl

end Change

/-! ### Acts are changes -/

variable {s : System}

theorem engine_goOff {alarm : Alarm Purpose} {id : Nat} (purpose : alarm.purpose = .retry id) (draw : Float) :
    (s.goOff alarm draw).engine = (s.engine.resubmit id draw).1 := by
  simp only [goOff, purpose]
  obtain ⟨alarms, is⟩ := ({ s with alarms := _ } : System).resubmit_spec id draw
  rw [is]

/-- An alarm that is due brings back the retry that it is for. -/
theorem change_goOff (orderly : s.Orderly) {alarm : Alarm Purpose} (member : alarm ∈ s.alarms.waiting)
    (due : alarm.deadline ≤ s.count) (draw : Float) :
    Change s (s.goOff alarm draw) alarm.purpose.source? [] none := by
  obtain ⟨deadline, serial, purpose⟩ := alarm
  cases purpose with
  | outside id =>
    exact .idles ⟨rfl, List.Subset.refl _, rfl⟩ (.refl orderly.accounted) rfl (List.filter_subset_self _)
  | retry id =>
    obtain ⟨bears, admits, counted⟩ := Engine.resubmit_admits orderly.accounted orderly.ready id draw
    have engine := s.engine_goOff (show (⟨deadline, serial, .retry id⟩ : Alarm Purpose).purpose = .retry id from rfl) draw
    refine .resubmits member rfl due ?_ ?_ ?_ ?_
    · rw [engine]
      exact bears
    · rw [engine]
      exact admits
    · rw [engine]
      exact counted
    · intro a inside
      simp only [goOff, resubmit] at inside
      split at inside
      · exact .inl (List.mem_of_mem_filter inside)
      · rcases List.mem_append.mp inside with old | new
        · exact .inl (List.mem_of_mem_filter old)
        · rw [List.mem_singleton.mp new]
          exact .inr ⟨rfl, Nat.le_add_right ..⟩

theorem change_start (orderly : s.Orderly) (ticket : Nat) (decide : Decisions) :
    Change s (s.act (.start ticket decide)) none (s.told (.start ticket decide)) none := by
  cases found : s.engine.atWork? ticket with
  | none =>
    simp only [act, told, found]
    exact .idles ⟨rfl, List.Subset.refl _, rfl⟩ (.refl orderly.accounted) rfl (List.Subset.refl _)
  | some d =>
    obtain ⟨job, held, is⟩ := Engine.atWork?_some found
    have bears := (s.engine.keepsAs_start ticket d decide s.now).bears
    have counted := s.engine.dispatched_start ticket d decide s.now
    simp only [act, told, found]
    rcases s.engine.start_tells ticket d decide s.now with ⟨pool, ready, tells⟩ | ⟨pool, closes⟩
    · simp only [start, tells]
      exact .begins held is ready bears pool counted rfl
    · exact .ends held is closes pool counted (.nothing bears rfl)

theorem leaves_await (broker : Broker) {engine : Engine} (keeps : s.engine.KeepsAs engine) {b d : Delivery}
    (delivering : b.attempt.state = .delivering) (ready : d.attempt.IsReady) (ticket : Nat) (wait : Span) :
    Leaves s (({ s with engine, broker } : System).await d wait) ticket b
      (some ⟨ticket, b.attempt.startedAt, wait, .kept s.engine.nextRetry⟩) := by
  have entries (x : Nat × Delivery) (member : x ∈ (engine.await d).2.pending.entries) :
      x ∈ s.engine.pending.entries ∨ x.2.attempt.IsReady := by
    rcases List.mem_cons.mp ((Table.entries_insert_perm ..).mem_iff.mp member) with new | old
    · right
      rw [new]
      exact ready
    · left
      rw [← keeps.pending]
      exact List.mem_of_mem_filter old
  have next : (engine.await d).2.nextRetry = s.engine.nextRetry + 1 := congrArg (· + 1) keeps.nextRetry
  unfold System.await
  by_cases stopped : (engine.await d).2.timersStopped = true
  · simp only [stopped, if_true]
    exact .retry delivering keeps.config entries next (fun a member => .inl member)
  · simp only [stopped, Bool.false_eq_true, if_false]
    refine .retry delivering keeps.config entries next ?_
    intro a member
    rcases List.mem_append.mp member with old | new
    · exact .inl old
    · rw [List.mem_singleton.mp new]
      exact .inr ⟨congrArg Purpose.retry keeps.nextRetry, Nat.le_refl _⟩

/-- A retry rests where it is written down to rest. -/
theorem leaves_scheduleRetry {engine : Engine} (keeps : s.engine.KeepsAs engine) {b d : Delivery}
    (delivering : b.attempt.state = .delivering) (ready : d.attempt.IsReady) (ticket : Nat) (wait : Span) :
    Leaves s (({ s with engine } : System).scheduleRetry d wait) ticket b
      ((s.restsIn? d wait).map (fun source => ⟨ticket, b.attempt.startedAt, wait, source⟩)) := by
  have route : engine.config.route = s.engine.config.route := congrArg EngineConfig.route keeps.config
  unfold scheduleRetry restsIn?
  simp only [route]
  cases here : s.engine.config.route with
  | inProcess => exact leaves_await s.broker keeps delivering ready ticket wait
  | delayStore =>
    have now : ({ s with engine } : System).now = s.now := rfl
    simp only [publishRetry, now]
    generalize s.broker.publishDelayed d.addressed wait.wholeSeconds s.now = answer
    obtain ⟨result, broker⟩ := answer
    rcases result with _ | why | done
    · exact .nothing keeps.bears rfl
    · exact leaves_await broker keeps delivering ready ticket wait
    · exact .entry delivering here keeps.bears rfl

theorem change_finish (orderly : s.Orderly) (ticket : Nat) (outcome : Except HandlerError Unit) (draw : Float) :
    Change s (s.act (.finish ticket outcome draw)) none (s.told (.finish ticket outcome draw))
      (s.rest? (.finish ticket outcome draw)) := by
  cases found : s.engine.atWork? ticket with
  | none =>
    simp only [act, told, rest?, retry?, found]
    exact .idles ⟨rfl, List.Subset.refl _, rfl⟩ (.refl orderly.accounted) rfl (List.Subset.refl _)
  | some b =>
    obtain ⟨job, held, is⟩ := Engine.atWork?_some found
    obtain ⟨closes, retries⟩ := s.engine.finish_tells ticket b outcome draw s.now
    have keeps := s.engine.keepsAs_finish ticket b outcome draw
    have pool := s.engine.pool_finish ticket b outcome draw
    have counted := s.engine.dispatched_finish ticket b outcome draw
    simp only [act, told, rest?, retry?, found, finish, Option.bind_some]
    generalize s.engine.finish ticket b outcome draw = result at closes retries keeps pool counted ⊢
    obtain ⟨engine, calls, retry⟩ := result
    cases retry with
    | none => exact .ends held is closes pool counted (.nothing keeps.bears rfl)
    | some retry =>
      obtain ⟨d, wait⟩ := retry
      obtain ⟨delivering, startedAt, ready⟩ := retries (d, wait) rfl
      have leaves := leaves_scheduleRetry keeps delivering ready ticket wait
      have settled : (({ s with engine } : System).scheduleRetry d wait).engine.pool = engine.pool ∧
          (({ s with engine } : System).scheduleRetry d wait).engine.dispatched = engine.dispatched := by
        rcases ({ s with engine } : System).engine_scheduleRetry d wait with same | kept
        · rw [same]
          exact ⟨rfl, rfl⟩
        · rw [kept]
          exact ⟨rfl, rfl⟩
      rw [← startedAt] at leaves
      exact .ends held is closes (settled.1.trans pool) (settled.2.trans counted) leaves

/-- What happens in a system apart from its pollers is one of these changes. -/
theorem change_act (orderly : s.Orderly) (a : Act) : Change s (s.act a) (s.source? a) (s.told a) (s.rest? a) := by
  have same {after : System} (engine : s.engine.Bears after.engine) (pool : after.engine.pool = s.engine.pool)
      (counted : after.engine.dispatched = s.engine.dispatched) (alarms : after.alarms = s.alarms) :
      Change s after none [] none := by
    refine .idles engine ?_ counted ?_
    · rw [pool]
      exact .refl orderly.accounted
    · rw [alarms]
      exact List.Subset.refl _
  have bears : s.engine.Bears s.engine := ⟨rfl, List.Subset.refl _, rfl⟩
  cases a with
  | insert e => exact same bears rfl rfl rfl
  | takeOut e => exact same bears rfl rfl rfl
  | claim e ttl => exact same bears rfl rfl rfl
  | failFetches why => exact same bears rfl rfl rfl
  | publish m => exact same bears rfl rfl rfl
  | publishDelayed m seconds => exact same bears rfl rfl rfl
  | failPublishes why => exact same bears rfl rfl rfl
  | receive => exact same bears rfl rfl rfl
  | dropReceiver => exact same bears rfl rfl rfl
  | dispatch m => exact .takes nofun (Engine.takes_dispatch orderly.accounted m s.now) rfl
  | deliver m t =>
    simp only [act, deliver]
    cases taken : s.engine.deliver m t s.now with
    | error why => exact .takes nofun (Engine.takes_refl orderly.accounted) rfl
    | ok engine => exact .takes nofun ((Engine.takes_refl orderly.accounted).deliver taken) rfl
  | occupy name limit =>
    simp only [act]
    cases taken : s.engine.pool.submit name limit (.foreign name) with
    | error why => exact same bears rfl rfl rfl
    | ok pool =>
      refine .idles ⟨rfl, List.Subset.refl _, rfl⟩ (Pool.admits_submit orderly.accounted taken ?_) rfl (List.Subset.refl _)
      intro d is
      cases is
  | pickUp =>
    simp only [act, pickUp]
    cases picked : s.engine.pool.pickUp with
    | none => exact same bears rfl rfl rfl
    | some found =>
      have after : s.engine.pool.step .pickUp = found.2 := by simp [Pool.step, picked]
      refine .idles ⟨rfl, List.Subset.refl _, rfl⟩ ?_ rfl (List.Subset.refl _)
      show s.engine.pool.Admits Task.IsForeign found.2
      rw [← after]
      exact Pool.admits_step orderly.accounted .pickUp (by simp [Pool.accepted?])
  | start ticket decide => exact change_start orderly ticket decide
  | finish ticket outcome draw => exact change_finish orderly ticket outcome draw
  | release ticket =>
    exact .idles ⟨rfl, List.Subset.refl _, rfl⟩ (Pool.admits_complete orderly.accounted ticket) rfl (List.Subset.refl _)
  | ring place draw =>
    simp only [act]
    cases due : s.alarms.dueAt? place s.count with
    | none =>
      simp only [source?, due]
      exact same bears rfl rfl rfl
    | some alarm =>
      obtain ⟨member, early⟩ := Alarms.dueAt?_some due
      simp only [source?, due]
      exact change_goOff orderly member early draw
  | passTo count => exact same bears rfl rfl rfl
  | stopAccepting =>
    refine .idles ⟨rfl, List.Subset.refl _, rfl⟩ (Pool.admits_step orderly.accounted .stopAccepting ?_) rfl
      (List.Subset.refl _)
    simp [Pool.accepted?]
  | beginShutdown =>
    refine .idles ⟨rfl, List.nil_subset _, rfl⟩ (Pool.admits_step orderly.accounted .stopAccepting ?_) rfl
      (List.filter_subset_self _)
    simp [Pool.accepted?]
  | timeOut =>
    refine .idles ⟨rfl, List.Subset.refl _, rfl⟩ (Pool.admits_step orderly.accounted .timeOut ?_) rfl (List.Subset.refl _)
    simp [Pool.accepted?]
  | endShutdown =>
    refine .idles ⟨rfl, List.Subset.refl _, rfl⟩
      (Pool.admits_step orderly.accounted (.conclude s.engine.config.shutdownTimeout) ?_) rfl (List.Subset.refl _)
    simp [Pool.accepted?]

/-! ### Where retries rest -/

/-- Whether a retry is where deliveries may come from. -/
def Holds (s : System) : Source → Prop
  | .sent => False
  | .kept id => (s.engine.pending.get? id).isSome
  | .stored e => e ∈ s.broker.store.entries

theorem holds_await (s : System) (d : Delivery) (wait : Span) : (s.await d wait).Holds (.kept s.engine.nextRetry) := by
  unfold Holds
  rw [s.engine_await d wait]
  simp [Engine.await, Table.get?_insert]

/-- A retry that is written down can be found where it is said to rest. -/
theorem holds_rest {a : Act} {r : Rest} (rests : s.rest? a = some r) : (s.act a).Holds r.source := by
  cases a with
  | finish ticket outcome draw =>
    simp only [rest?, retry?, Option.bind_eq_some_iff, Option.map_eq_some_iff] at rests
    obtain ⟨⟨d, wait⟩, ⟨b, found, fails⟩, source, place, rfl⟩ := rests
    have keeps := s.engine.keepsAs_finish ticket b outcome draw
    simp only [act, found, finish]
    generalize s.engine.finish ticket b outcome draw = result at fails keeps ⊢
    obtain ⟨engine, calls, retry⟩ := result
    cases fails
    have route : engine.config.route = s.engine.config.route := congrArg EngineConfig.route keeps.config
    have waits (broker : Broker) :
        (({ s with engine, broker } : System).await d wait).Holds (.kept s.engine.nextRetry) := by
      rw [← keeps.nextRetry]
      exact holds_await { s with engine, broker } d wait
    unfold restsIn? at place
    simp only [scheduleRetry, route]
    cases here : s.engine.config.route with
    | inProcess =>
      simp only [here] at place
      cases place
      exact waits s.broker
    | delayStore =>
      have now : ({ s with engine } : System).now = s.now := rfl
      have taken := @Broker.mem_publishDelayed s.broker d.addressed wait.wholeSeconds s.now
      simp only [here, publishRetry, now] at place ⊢
      generalize s.broker.publishDelayed d.addressed wait.wholeSeconds s.now = answer at place taken ⊢
      obtain ⟨result, broker⟩ := answer
      rcases result with _ | why | done
      · cases place
      · cases place
        exact waits broker
      · cases place
        exact taken rfl
  | _ => cases rests

end System

namespace Depot

theorem handover?_some {poll : Poll} {p : Poller} {s : System} {h : Handover} (handed : handover? poll p s = some h) :
    poll.stage = .holding h.entry ∧ h.after = (s.engine.dispatch h.told s.now).2 := by
  unfold handover? at handed
  split at handed
  · rename_i e stage
    split at handed
    · obtain rfl := Option.some.inj handed
      exact ⟨stage, rfl⟩
    · cases handed
  · cases handed

/-- What the deliveries come from that come in with what happens in a depot. -/
def source? (w : Depot) : Act → Option Source
  | .beginPoll _ => none
  | .go k =>
    (w.rounds[k]?).bind (fun r => (w.pollers[r.poller]?).bind (fun p =>
      (handover? r.poll p w.system).map (fun h => .stored h.entry)))
  | .outside a => w.system.source? a

theorem holding_of_source? {w : Depot} {a : Act} {e : DueEntry} (is : w.source? a = some (.stored e)) :
    ∃ r ∈ w.rounds, r.poll.stage = .holding e := by
  cases a with
  | beginPoll place => simp [source?] at is
  | go k =>
    obtain ⟨r, found, is⟩ := Option.bind_eq_some_iff.mp is
    obtain ⟨p, _, is⟩ := Option.bind_eq_some_iff.mp is
    obtain ⟨h, handed, same⟩ := Option.map_eq_some_iff.mp is
    obtain rfl : h.entry = e := by simpa using same
    exact ⟨r, List.mem_of_getElem? found, (handover?_some handed).1⟩
  | outside a => exact absurd is (w.system.source?_ne_stored a e)

def told (w : Depot) : Act → List (Nat × Event)
  | .outside a => w.system.told a
  | _ => []

def rest? (w : Depot) : Act → Option Rest
  | .outside a => w.system.rest? a
  | _ => none

private theorem change_go {w : Depot} (orderly : w.system.Orderly) (k : Nat) :
    System.Change w.system (w.go k).system (w.source? (.go k)) [] none := by
  have still : System.Change w.system w.system none [] none :=
    .idles ⟨rfl, List.Subset.refl _, rfl⟩ (.refl orderly.accounted) rfl (List.Subset.refl _)
  cases found : w.rounds[k]? with
  | none =>
    simp only [go, source?, found, Option.bind_none]
    exact still
  | some r =>
    cases here : w.pollers[r.poller]? with
    | none =>
      simp only [go, source?, found, here, Option.bind_some, Option.bind_none]
      exact still
    | some p =>
      have alarms := (Poll.keeps_step r.poll p w.system).alarms
      have engine := Poll.engine_step r.poll p w.system
      simp only [go, source?, found, here, Option.bind_some]
      generalize (r.poll.step System.surroundings p w.system).2.2 = after at alarms engine ⊢
      cases handed : handover? r.poll p w.system with
      | none =>
        have same : after.engine = w.system.engine := by simpa [handed] using engine
        refine .idles ?_ ?_ ?_ ?_
        · rw [same]
          exact ⟨rfl, List.Subset.refl _, rfl⟩
        · rw [same]
          exact .refl orderly.accounted
        · rw [same]
        · rw [alarms]
          exact List.Subset.refl _
      | some h =>
        have dispatched : after.engine = (w.system.engine.dispatch h.told w.system.now).2 := by
          rw [← (handover?_some handed).2]
          simpa [handed] using engine
        refine .takes ?_ ?_ alarms
        · intro id is
          cases is
        · rw [dispatched]
          exact Engine.takes_dispatch orderly.accounted h.told w.system.now

theorem change_act {w : Depot} (orderly : w.system.Orderly) (a : Act) :
    System.Change w.system (w.act a).system (w.source? a) (w.told a) (w.rest? a) := by
  cases a with
  | beginPoll place =>
    have system : (w.beginPoll place).system = w.system := by
      rcases w.beginPoll_cases place with same | ⟨poll, _, _, started⟩
      · rw [same]
      · rw [started]
    simp only [act, system]
    exact .idles ⟨rfl, List.Subset.refl _, rfl⟩ (.refl orderly.accounted) rfl (List.Subset.refl _)
  | go k => exact change_go orderly k
  | outside a => exact System.change_act orderly a

end Depot

/-! ### Chronicles -/

/-- A depot, and what has been written down. -/
structure Chronicle where
  depot : Depot
  /-- The deliveries that have come in. -/
  arrivals : List Arrival
  /-- The events, each with the ticket of the try that it is about. -/
  told : List (Nat × Event)
  /-- The retries that have come to rest. -/
  rests : List Rest

namespace Chronicle

/-- A depot whose engine has seen no message. -/
def opened (clock : Clock) (broker : Broker) (config : EngineConfig) (registry : Registry) (interceptors : Nat)
    (pollers : List Poller) : Chronicle :=
  ⟨.opened ⟨clock, .new config registry interceptors, broker, .none⟩ pollers, [], [], []⟩

def system (w : Chronicle) : System := w.depot.system

/-- The deliveries that have come in with what has just happened. -/
def newArrivals (w : Chronicle) (after : System) : Option Source → List Arrival
  | none => []
  | some source =>
    (List.range' w.system.engine.pool.nextTicket (after.engine.pool.nextTicket - w.system.engine.pool.nextTicket)).map
      (fun ticket => ⟨ticket, source, w.system.now, w.rests.any (fun r => r.source = source)⟩)

/-- What has happened is written down. -/
def note (w : Chronicle) (depot : Depot) (source : Option Source) (told : List (Nat × Event)) (rest : Option Rest) :
    Chronicle :=
  { depot
    arrivals := w.arrivals ++ w.newArrivals depot.system source
    told := w.told ++ told
    rests := w.rests ++ rest.toList }

/-- The chronicle after something has happened. -/
def act (w : Chronicle) (a : Depot.Act) : Chronicle :=
  w.note (w.depot.act a) (w.depot.source? a) (w.depot.told a) (w.depot.rest? a)

def run (w : Chronicle) (acts : List Depot.Act) : Chronicle := acts.foldl act w

/-- The events that have been told about the try of a ticket, in order. -/
def toldOf (w : Chronicle) (ticket : Nat) : List Event :=
  w.told.filterMap (fun entry => if entry.1 = ticket then some entry.2 else none)

theorem mem_toldOf {w : Chronicle} {ticket : Nat} {e : Event} : e ∈ w.toldOf ticket ↔ (ticket, e) ∈ w.told := by
  simp [toldOf]

theorem mem_newArrivals {w : Chronicle} {after : System} {source : Option Source} {a : Arrival}
    (new : a ∈ w.newArrivals after source) :
    source = some a.source ∧ a.now = w.system.now ∧ w.system.engine.pool.nextTicket ≤ a.ticket := by
  cases source with
  | none => cases new
  | some source =>
    obtain ⟨ticket, inside, rfl⟩ := List.mem_map.mp new
    exact ⟨rfl, rfl, (List.mem_range'_1.mp inside).1⟩

/-- Whatever happens is one of the changes, and is written down. -/
theorem act_cases {w : Chronicle} (orderly : w.system.Orderly) (a : Depot.Act) :
    ∃ source told rest, w.act a = w.note (w.act a).depot source told rest ∧
      System.Change w.system (w.act a).system source told rest ∧
      ∀ e, source = some (.stored e) → ∃ r ∈ w.depot.rounds, r.poll.stage = .holding e :=
  ⟨_, _, _, rfl, Depot.change_act orderly a, fun _ => Depot.holding_of_source?⟩

theorem orderly_opened (clock : Clock) (broker : Broker) (config : EngineConfig) (registry : Registry)
    (interceptors : Nat) (pollers : List Poller) :
    (opened clock broker config registry interceptors pollers).system.Orderly where
  accounted := Pool.accounted_new config.pool
  ready _ member := nomatch member

/-- What each act keeps is kept in a run. -/
theorem run_keeps {P : Chronicle → Prop} {acts : List Depot.Act} {w : Chronicle} (holds : P w)
    (step : ∀ w, ∀ a ∈ acts, P w → P (w.act a)) : P (w.run acts) := by
  induction acts generalizing w with
  | nil => exact holds
  | cons a rest ih =>
    refine ih (step w a List.mem_cons_self holds) ?_
    intro w x member
    exact step w x (List.mem_cons_of_mem a member)

end Chronicle
end Courier
