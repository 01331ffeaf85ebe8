import Courier.Proofs.EngineActs
import Courier.Proofs.WorkTickets

/-!
The counts of an engine that is not shut down. Every delivery that it has taken is acknowledged, out of tries,
pending, kept in a due store, or still in its pool; every operation of the engine moves deliveries from one of
these to another. No try is ever started, acknowledged or failed in a state that does not allow it.
-/
namespace Courier

namespace Engine

variable {e after : Engine} {ticket : Nat} {d : Delivery}

/-- A try that starts calls the handler, or it ends at once in the handler's place. -/
theorem start_cases (ready : d.attempt.IsReady) {decide : Decisions} (steady : ∀ place m, decide place m ≠ .crash)
    (now : Instant) :
    (∃ next calls, next.attempt.state = .delivering ∧ handlerCalls calls = 1 ∧
        e.start ticket d decide now = ({ e with pool := e.pool.revise ticket (.delivery next) }, calls, true)) ∨
      ∃ calls, handlerCalls calls = 0 ∧
        e.start ticket d decide now =
          ({ e with
              shortCircuited := e.shortCircuited + 1, acked := e.acked + 1, pool := e.pool.complete ticket },
            calls, false) := by
  obtain ⟨next, calls, started, silent, _, state, _⟩ := d.start_ok ready e.interceptors decide now
  have silent := handlerCalls_of_seen silent
  have calm := Delivery.consult_steady steady next.message 0 e.interceptors
  cases decision : (Delivery.consult decide next.message 0 e.interceptors).2 with
  | proceed =>
    rw [decision] at started
    refine .inl ⟨next, calls ++ [.handler next.message], state, ?_, ?_⟩
    · rw [handlerCalls_append, silent]
      rfl
    · simp only [start, started]
  | shortCircuit =>
    rw [decision] at started
    obtain ⟨done, told, acked, quiet⟩ := Delivery.acknowledge_ok state e.interceptors true
    refine .inr ⟨calls ++ told, ?_, ?_⟩
    · rw [handlerCalls_append, silent, handlerCalls_of_seen quiet]
    · simp only [start, started, acknowledge, acked, release]
  | crash => exact absurd decision calm

/-- All that may follow once a handler is done, under a policy that never breaks off. -/
theorem finish_cases (delivering : d.attempt.state = .delivering) (always : e.config.policy.AlwaysWaits)
    (outcome : Except HandlerError Unit) (draw : Float) :
    (∃ calls, handlerCalls calls = 0 ∧
        e.finish ticket d outcome draw =
          ({ e with acked := e.acked + 1, pool := e.pool.complete ticket }, calls, none)) ∨
      (∃ calls, handlerCalls calls = 0 ∧
        e.finish ticket d outcome draw =
          ({ e with
              failedAttempts := e.failedAttempts + 1, exhausted := e.exhausted + 1, pool := e.pool.complete ticket },
            calls, none)) ∨
      ∃ next wait calls, handlerCalls calls = 0 ∧ next.attempt.state = .retryScheduled ∧
        wait.nanos ≤ e.config.policy.maxDelay.nanos ∧
        e.finish ticket d outcome draw =
          ({ e with
              failedAttempts := e.failedAttempts + 1, retriesScheduled := e.retriesScheduled + 1
              pool := e.pool.complete ticket },
            calls, some (next, wait)) := by
  cases outcome with
  | ok _ =>
    obtain ⟨next, calls, acked, quiet⟩ := Delivery.acknowledge_ok delivering e.interceptors false
    refine .inl ⟨calls, handlerCalls_of_seen quiet, ?_⟩
    simp only [finish, acknowledge, acked, release]
  | error why =>
    by_cases last : e.config.policy.maxRetries ≤ bump d.message.failRetryCount
    · obtain ⟨next, calls, failed, told⟩ := Delivery.fail_exhaust delivering last why draw
      refine .inr (.inl ⟨calls, ?_, ?_⟩)
      · rw [← handlerCalls_seen, told]
        cases d.trigger.hasFailCallback
        · rfl
        · rfl
      · simp only [finish, failed, release]
    · obtain ⟨wait, waits⟩ := always (bump d.message.failRetryCount) draw
      obtain ⟨next, calls, failed, quiet, _, state, _⟩ := Delivery.fail_retry delivering last why waits
      refine .inr (.inr ⟨next, wait, calls, handlerCalls_of_seen quiet, state, RetryPolicy.delay_le waits, ?_⟩)
      simp only [finish, failed, release]

/-! ### Balance -/

/-- The counts of an engine that is not shut down, whose policy never breaks off, and whose waits are not too long
for any broker are in balance, given the tickets of the handlers that are at work, how often a handler has been
called, and how many retries were left to others to keep. -/
structure Balanced (e : Engine) (working : List Nat) (handled kept : Nat) : Prop where
  manned : e.pool.Manned working
  near : e.config.policy.maxDelay.nanos ≤ 2 ^ 52 * 1000000000
  always : e.config.policy.AlwaysWaits
  taken : e.dispatched = e.acked + e.exhausted + e.pending.size + kept + e.pool.deliveries.length
  failures : e.failedAttempts = e.retriesScheduled + e.exhausted
  short : e.shortCircuited ≤ e.acked
  called : handled + e.shortCircuited = e.acked + e.failedAttempts + working.length
  numbered : ∀ id d, e.pending.get? id = some d → id < e.nextRetry
  waits : ∀ id d, e.pending.get? id = some d → d.attempt.state = .retryScheduled

theorem balanced_new {config : EngineConfig} (near : config.policy.maxDelay.nanos ≤ 2 ^ 52 * 1000000000)
    (always : config.policy.AlwaysWaits) (registry : Registry) (interceptors : Nat) :
    (new config registry interceptors).Balanced [] 0 0 where
  manned := Pool.manned_new config.pool
  near := near
  always := always
  taken := by
    have none : (Pool.new config.pool : Pool Task).tasks = [] := (Pool.open_new config.pool).tasks_eq_nil rfl
    show 0 = ((Pool.new config.pool : Pool Task).tasks.filterMap (fun job => job.work.delivery?)).length
    rw [none]
    rfl
  failures := rfl
  short := Nat.le_refl _
  called := rfl
  numbered id d found := by cases found
  waits id d found := by cases found

section Balance
variable {working : List Nat} {handled kept : Nat} (balanced : e.Balanced working handled kept)
include balanced

/-- What the pool does apart from deliveries is of no account. -/
theorem Balanced.withPool {pool : Pool Task} (manned : pool.Manned working)
    (same : pool.deliveries.length = e.pool.deliveries.length) :
    ({ e with pool } : Engine).Balanced working handled kept where
  manned := manned
  near := balanced.near
  always := balanced.always
  taken := by
    show e.dispatched = _ + pool.deliveries.length
    rw [same]
    exact balanced.taken
  failures := balanced.failures
  short := balanced.short
  called := balanced.called
  numbered := balanced.numbered
  waits := balanced.waits

/-- A worker is done with a task that is no delivery. -/
theorem Balanced.release (free : e.atWork? ticket = none) : (e.release ticket).Balanced working handled kept := by
  have idle : ticket ∉ working := by
    intro member
    obtain ⟨job, inside, rfl, d, is, _⟩ := balanced.manned.busy ticket member
    rw [atWork?_eq, Pool.find?_held balanced.manned.open_.accounted inside, Option.bind_some, is] at free
    cases free
  have manned := balanced.manned.complete ticket
  rw [List.erase_of_not_mem idle] at manned
  refine balanced.withPool manned ?_
  rw [atWork?_eq] at free
  cases found : e.pool.held.find? (fun job => job.ticket == ticket) with
  | none => simp only [Pool.complete, found]
  | some job =>
    rw [found, Option.bind_some] at free
    have same := (Pool.deliveries_complete balanced.manned.open_ found).length_eq
    rw [free] at same
    exact same.symm

theorem Balanced.deliver {m : Message} {t : Trigger} {now : Instant} (taken : e.deliver m t now = .ok after) :
    after.Balanced working handled kept := by
  obtain ⟨pool, offered, rfl⟩ := deliver_pool taken
  have more := (Pool.deliveries_submit offered).length_eq
  refine ⟨balanced.manned.submit offered ?_, balanced.near, balanced.always, ?_, balanced.failures, balanced.short,
    balanced.called, balanced.numbered, balanced.waits⟩
  · rintro d ⟨⟩
    exact .inl rfl
  · have before := balanced.taken
    simp only [Task.delivery?, Option.toList_some, List.singleton_append, List.length_cons] at more
    simp only
    omega

theorem Balanced.dispatch (m : Message) (now : Instant) : (e.dispatch m now).2.Balanced working handled kept :=
  dispatch_keeps (P := fun e => e.Balanced working handled kept) (fun _ _ _ before taken => before.deliver taken) balanced

omit balanced in
private theorem length_complete {job : Job Task} (open_ : e.pool.Open)
    (found : e.pool.held.find? (fun j => j.ticket == ticket) = some job) (is : job.work = .delivery d) :
    e.pool.deliveries.length = (e.pool.complete ticket).deliveries.length + 1 := by
  have less := (Pool.deliveries_complete open_ found).length_eq
  simpa [is, Task.delivery?] using less

/-- A try starts: its handler is at work now, or an interceptor has taken its place and the message counts as
handled. -/
theorem Balanced.start {job : Job Task} (found : e.pool.held.find? (fun j => j.ticket == ticket) = some job)
    (is : job.work = .delivery d) (idle : ticket ∉ working) {decide : Decisions}
    (steady : ∀ place m, decide place m ≠ .crash) (now : Instant) :
    (e.start ticket d decide now).1.Balanced
      (if (e.start ticket d decide now).2.2 then ticket :: working else working)
      (handled + handlerCalls (e.start ticket d decide now).2.1) kept := by
  have taken := balanced.taken
  have called := balanced.called
  rcases e.start_cases (balanced.manned.isReady found is idle) steady now with ⟨next, calls, state, one, is'⟩ |
    ⟨calls, none, is'⟩
  · rw [is', one]
    obtain ⟨others, before, after⟩ := Pool.deliveries_revise balanced.manned.open_ next found is
    have same := after.length_eq.trans before.length_eq.symm
    refine ⟨balanced.manned.revise found idle state, balanced.near, balanced.always, ?_, balanced.failures,
      balanced.short, ?_, balanced.numbered, balanced.waits⟩
    · simp only [same]
      exact taken
    · simp only [if_true, List.length_cons]
      omega
  · rw [is', none]
    have less := length_complete balanced.manned.open_ found is
    have manned := balanced.manned.complete ticket
    rw [List.erase_of_not_mem idle] at manned
    have short := balanced.short
    refine ⟨manned, balanced.near, balanced.always, ?_, balanced.failures, ?_, ?_, balanced.numbered, balanced.waits⟩
    · simp only
      omega
    · simp only
      omega
    · simp only [Bool.false_eq_true, if_false]
      omega

/-- A handler is done: its message counts as handled or as lost, or it is left to others to keep it. -/
theorem Balanced.finish {job : Job Task} (found : e.pool.held.find? (fun j => j.ticket == ticket) = some job)
    (is : job.work = .delivery d) (busy : ticket ∈ working) (outcome : Except HandlerError Unit) (draw : Float) :
    let (after, calls, retry) := e.finish ticket d outcome draw
    (retry = none ∧ after.Balanced (working.erase ticket) (handled + handlerCalls calls) kept) ∨
      ∃ next wait, retry = some (next, wait) ∧ next.attempt.state = .retryScheduled ∧
        wait.nanos ≤ e.config.policy.maxDelay.nanos ∧
        after.Balanced (working.erase ticket) (handled + handlerCalls calls) (kept + 1) := by
  have taken := balanced.taken
  have called := balanced.called
  have failures := balanced.failures
  have short := balanced.short
  have less := length_complete balanced.manned.open_ found is
  have manned := balanced.manned.complete ticket
  have fewer : (working.erase ticket).length + 1 = working.length := by
    have length := List.length_erase_of_mem busy
    have pos := List.length_pos_of_mem busy
    omega
  rcases e.finish_cases (balanced.manned.delivering found is busy) balanced.always outcome draw with ⟨calls, none, is'⟩ |
    ⟨calls, none, is'⟩ | ⟨next, wait, calls, none, state, near, is'⟩
  · rw [is']
    refine .inl ⟨rfl, manned, balanced.near, balanced.always, ?_, failures, ?_, ?_, balanced.numbered, balanced.waits⟩
    · simp only
      omega
    · simp only
      omega
    · simp only [none]
      omega
  · rw [is']
    refine .inl ⟨rfl, manned, balanced.near, balanced.always, ?_, ?_, short, ?_, balanced.numbered, balanced.waits⟩
    · simp only
      omega
    · simp only
      omega
    · simp only [none]
      omega
  · rw [is']
    refine .inr ⟨next, wait, rfl, state, near, manned, balanced.near, balanced.always, ?_, ?_, short, ?_, balanced.numbered,
      balanced.waits⟩
    · simp only
      omega
    · simp only
      omega
    · simp only [none]
      omega

omit balanced in
/-- The engine keeps a retry that was left to others. -/
theorem Balanced.await (balanced : e.Balanced working handled (kept + 1)) (state : d.attempt.state = .retryScheduled) :
    (e.await d).2.Balanced working handled kept := by
  have numbered (id : Nat) (member : id ∈ e.pending.keys) : id < e.nextRetry := by
    obtain ⟨entry, inside, rfl⟩ := List.mem_map.mp member
    exact balanced.numbered _ _ (Table.get?_eq_some_iff.mpr inside)
  obtain ⟨entries, later⟩ := await_numbered numbered d
  have size : (e.await d).2.pending.size = e.pending.size + 1 := entries.length_eq
  refine ⟨balanced.manned, balanced.near, balanced.always, ?_, balanced.failures, balanced.short, balanced.called, ?_, ?_⟩
  · have taken := balanced.taken
    rw [size]
    simp only [Engine.await]
    omega
  · intro id other found
    exact later id (List.mem_map_of_mem (f := Prod.fst) (Table.get?_eq_some_iff.mp found))
  · intro id other found
    rcases List.mem_cons.mp (entries.mem_iff.mp (Table.get?_eq_some_iff.mp found)) with new | old
    · cases new
      exact state
    · exact balanced.waits id other (Table.get?_eq_some_iff.mpr old)

/-- A retry is offered to the pool again. It is taken, or it waits on. -/
theorem Balanced.resubmit (id : Nat) (draw : Float) : (e.resubmit id draw).1.Balanced working handled kept := by
  unfold Engine.resubmit
  split
  · exact balanced
  · rename_i d found
    split
    · rename_i after taken
      obtain ⟨pool, offered, rfl⟩ := submit_pool taken
      have more := (Pool.deliveries_submit offered).length_eq
      have size : e.pending.size = (e.pending.erase id).size + 1 := (Table.entries_perm_of_get? found).length_eq
      have earlier (x : Nat) (other : Delivery) (inside : (e.pending.erase id).get? x = some other) :
          e.pending.get? x = some other := by
        rw [Table.get?_erase] at inside
        split at inside
        · cases inside
        · exact inside
      refine ⟨balanced.manned.submit offered ?_, balanced.near, balanced.always, ?_, balanced.failures, balanced.short,
        balanced.called, ?_, ?_⟩
      · rintro d' ⟨⟩
        exact .inr (balanced.waits id d found)
      · have taken := balanced.taken
        simp only [Task.delivery?, Option.toList_some, List.singleton_append, List.length_cons] at more
        simp only
        omega
      · exact fun x other inside => balanced.numbered x other (earlier x other inside)
      · exact fun x other inside => balanced.waits x other (earlier x other inside)
    · rename_i why refused
      have full := submit_error balanced.manned.open_ refused
      have goesOn : why.isShutdown = false := by
        rw [full]
        rfl
      simp only [goesOn, Bool.false_eq_true, if_false]
      exact ⟨balanced.manned, balanced.near, balanced.always, balanced.taken, balanced.failures, balanced.short,
        balanced.called, balanced.numbered, balanced.waits⟩

end Balance

end Engine
end Courier
