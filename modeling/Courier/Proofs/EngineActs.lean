import Courier.Proofs.OpenPools
import Courier.Proofs.Recipients
import Courier.Proofs.SystemActs

/-!
What the operations of an engine do to its pool. A delivery enters it, a try revises the task that its worker
holds, and the end of a try completes that task. Only a shutdown closes the pool to new tasks.
-/
namespace Courier

namespace Engine

/-- An open pool turns a delivery away only if it is full. -/
theorem submit_error {e : Engine} (open_ : e.pool.Open) {d : Delivery} {why : DeliveryError}
    (refused : e.submit d = .error why) : why = .queueFull d.trigger.handlerId e.pool.config.capacity := by
  cases offered : e.pool.submit d.trigger.handlerId d.trigger.concurrency (.delivery d) with
  | error reason =>
    have same : reason = why := by simpa [submit, offered, bind, Except.bind] using refused
    exact same ▸ (open_.refusal offered).2
  | ok pool => simp [submit, offered, bind, Except.bind, pure, Except.pure] at refused

/-- What every delivery that is taken keeps is kept when a message is handed to some triggers. -/
theorem feed_keeps {P : Engine → Prop} {m : Message} {now : Instant}
    (step : ∀ e t after, P e → e.deliver m t now = .ok after → P after) (n : Nat) (ts : List Trigger) {e : Engine}
    (holds : P e) : P (feed m now n ts e).2 := by
  induction ts generalizing n e with
  | nil => exact holds
  | cons t rest ih =>
    cases taken : e.deliver m t now with
    | error why =>
      simp only [feed, taken]
      exact holds
    | ok after =>
      simp only [feed, taken]
      exact ih (n + 1) (step e t after holds taken)

theorem dispatch_keeps {P : Engine → Prop} {m : Message} {now : Instant}
    (step : ∀ e t after, P e → e.deliver m t now = .ok after → P after) {e : Engine} (holds : P e) :
    P (e.dispatch m now).2 := by
  unfold dispatch
  split
  · exact feed_keeps step 0 _ holds
  · split
    · exact holds
    · exact feed_keeps step 0 _ holds

theorem pool_acknowledge (e : Engine) (ticket : Nat) (d : Delivery) (short : Bool) :
    (e.acknowledge ticket d short).1.pool = e.pool.complete ticket := by
  unfold acknowledge
  split
  · rfl
  · rfl

/-- A try that starts revises the task of its delivery or completes it. -/
theorem pool_start (e : Engine) (ticket : Nat) (d : Delivery) (decide : Decisions) (now : Instant) :
    (e.start ticket d decide now).1.pool = e.pool.complete ticket ∨
      ∃ work, (e.start ticket d decide now).1.pool = e.pool.revise ticket work := by
  unfold start
  split
  · exact .inl rfl
  · exact .inr ⟨_, rfl⟩
  · exact .inl (pool_acknowledge ..)
  · exact .inl rfl

theorem pool_finish (e : Engine) (ticket : Nat) (d : Delivery) (outcome : Except HandlerError Unit) (draw : Float) :
    (e.finish ticket d outcome draw).1.pool = e.pool.complete ticket := by
  unfold finish
  split
  · exact pool_acknowledge ..
  · simp only
    split
    · rfl
    · rfl
    · rfl
    · rfl

/-! ### Retries that are kept -/

/-- A retry is kept beside those that the engine keeps already. -/
theorem await_numbered {e : Engine} (numbered : ∀ id ∈ e.pending.keys, id < e.nextRetry) (d : Delivery) :
    (e.await d).2.pending.entries.Perm ((e.nextRetry, d.waiting) :: e.pending.entries) ∧
      ∀ id ∈ (e.await d).2.pending.keys, id < (e.await d).2.nextRetry := by
  have fresh : e.pending.get? e.nextRetry = none := by
    cases found : e.pending.get? e.nextRetry with
    | none => rfl
    | some d =>
      have member := List.mem_map_of_mem (f := Prod.fst) (Table.get?_eq_some_iff.mp found)
      exact absurd (numbered _ member) (Nat.lt_irrefl _)
  have entries : (e.await d).2.pending.entries.Perm ((e.nextRetry, d.waiting) :: e.pending.entries) := by
    have put := Table.entries_insert_perm e.pending e.nextRetry d.waiting
    rw [Table.entries_erase_of_get?_none fresh] at put
    exact put
  refine ⟨entries, fun id member => ?_⟩
  show id < e.nextRetry + 1
  rcases List.mem_cons.mp ((entries.map Prod.fst).mem_iff.mp member) with new | old
  · rw [new]
    exact Nat.lt_succ_self _
  · exact Nat.lt_succ_of_lt (numbered id old)

/-- A retry that is offered to an open pool enters it, or waits once more if the pool is full, unless the policy
breaks off. -/
theorem resubmit_cases {engine : Engine} (open_ : engine.pool.Open) {id : Nat} {d : Delivery}
    (found : engine.pending.get? id = some d) (draw : Float) :
    (∃ pool, engine.pool.submit d.trigger.handlerId d.trigger.concurrency (.delivery d) = .ok pool ∧
        engine.resubmit id draw = ({ engine with pool, pending := engine.pending.erase id }, none)) ∨
      (engine.pool.config.capacity ≤ engine.pool.outstanding ∧
        engine.resubmit id draw = ({ engine with deferredRetries := engine.deferredRetries + 1 },
          (engine.config.policy.delay d.message.failRetryCount draw).map (fun wait => wait.longer shortestWait))) := by
  cases taken : engine.pool.submit d.trigger.handlerId d.trigger.concurrency (.delivery d) with
  | ok pool =>
    refine .inl ⟨pool, rfl, ?_⟩
    simp [resubmit, found, submit, taken, bind, Except.bind, pure, Except.pure]
  | error why =>
    obtain ⟨full, rfl⟩ := open_.refusal taken
    have full_ : (DeliveryError.queueFull d.trigger.handlerId engine.pool.config.capacity).isShutdown = false := rfl
    refine .inr ⟨full, ?_⟩
    simp [resubmit, found, submit, taken, bind, Except.bind, full_]

/-! ### Deliveries of workers -/

theorem atWork?_eq (engine : Engine) (ticket : Nat) :
    engine.atWork? ticket =
      (engine.pool.held.find? (fun job => job.ticket == ticket)).bind (fun job => job.work.delivery?) := by
  unfold atWork?
  cases engine.pool.held.find? (fun job => job.ticket == ticket) with
  | none => rfl
  | some job =>
    obtain ⟨_, _, work⟩ := job
    cases work <;> rfl

theorem atWork?_some {engine : Engine} {ticket : Nat} {d : Delivery} (found : engine.atWork? ticket = some d) :
    ∃ job, engine.pool.held.find? (fun job => job.ticket == ticket) = some job ∧ job.work = .delivery d := by
  rw [atWork?_eq] at found
  obtain ⟨job, held, is⟩ := Option.bind_eq_some_iff.mp found
  refine ⟨job, held, ?_⟩
  cases work : job.work with
  | delivery other =>
    rw [work] at is
    rw [Option.some.inj is]
  | foreign name =>
    rw [work] at is
    cases is

theorem mem_deliveries_of_atWork? {engine : Engine} {ticket : Nat} {d : Delivery}
    (found : engine.atWork? ticket = some d) : d ∈ engine.pool.deliveries := by
  obtain ⟨job, held, is⟩ := atWork?_some found
  exact Pool.mem_deliveries (Pool.mem_tasks_of_held (List.mem_of_find?_eq_some held)) is

/-! ### Closed pools -/

theorem accepting_dispatch (e : Engine) (m : Message) (now : Instant) :
    (e.dispatch m now).2.isAccepting = e.isAccepting := by
  refine dispatch_keeps (P := fun after => after.isAccepting = e.isAccepting) (fun b t after same taken => ?_) rfl
  rw [deliver_ok taken]
  exact same

theorem poolConfig_dispatch (e : Engine) (m : Message) (now : Instant) :
    (e.dispatch m now).2.pool.config = e.pool.config := by
  refine dispatch_keeps (P := fun after => after.pool.config = e.pool.config) (fun b t after same taken => ?_) rfl
  rw [deliver_ok taken]
  exact same

theorem accepting_of_complete {e after : Engine} {ticket : Nat} (pool : after.pool = e.pool.complete ticket) :
    after.isAccepting = e.isAccepting := by
  rw [isAccepting, pool]
  exact (e.pool.fields_complete ticket).2.1

theorem accepting_start (e : Engine) (ticket : Nat) (d : Delivery) (decide : Decisions) (now : Instant) :
    (e.start ticket d decide now).1.isAccepting = e.isAccepting := by
  rcases e.pool_start ticket d decide now with done | ⟨work, revised⟩
  · exact accepting_of_complete done
  · rw [isAccepting, revised]
    rfl

theorem accepting_resubmit (e : Engine) (id : Nat) (draw : Float) :
    (e.resubmit id draw).1.isAccepting = e.isAccepting := by
  unfold resubmit
  split
  · rfl
  · split
    · rename_i d _ after taken
      rw [submit_ok taken]
      rfl
    · split
      · rfl
      · rfl

end Engine

/-- The pool when its deliveries have stayed, and stayed with their workers. -/
structure Pool.Shuffled (p q : Pool Task) : Prop where
  open_ : q.Open
  deliveries : q.deliveries.Perm p.deliveries
  held : ∀ job ∈ p.held, ∀ d, job.work = .delivery d → job ∈ q.held

theorem Pool.Shuffled.refl {p : Pool Task} (open_ : p.Open) : p.Shuffled p :=
  ⟨open_, List.Perm.refl _, fun _ inside _ _ => inside⟩

namespace System

/-! ### Other tasks -/

section Others
variable (s : System) (open_ : s.engine.pool.Open)
include open_

theorem act_occupy (name : String) (limit : Nat) :
    ∃ pool, s.act (.occupy name limit) = { s with engine := { s.engine with pool } } ∧ s.engine.pool.Shuffled pool := by
  cases taken : s.engine.pool.submit name limit (.foreign name) with
  | error why => exact ⟨s.engine.pool, by simp only [act, taken], .refl open_⟩
  | ok pool =>
    refine ⟨pool, by simp only [act, taken], open_.submit taken, Pool.deliveries_submit taken, fun job inside d is => ?_⟩
    rw [Pool.submit_ok taken]
    exact inside

theorem act_pickUp : ∃ pool, s.act .pickUp = { s with engine := { s.engine with pool } } ∧ s.engine.pool.Shuffled pool := by
  cases picked : s.engine.pool.pickUp with
  | none => exact ⟨s.engine.pool, by simp only [act, pickUp, picked], .refl open_⟩
  | some found =>
    obtain ⟨job, pool⟩ := found
    obtain ⟨rest, _, fields⟩ := Pool.pickUp_some picked
    refine ⟨pool, by simp only [act, pickUp, picked], open_.pickUp picked, Pool.deliveries_pickUp open_ picked,
      fun other inside d is => ?_⟩
    rw [fields]
    exact List.mem_append_left _ inside

theorem act_release {ticket : Nat} (foreign : s.engine.atWork? ticket = none) :
    ∃ pool, s.act (.release ticket) = { s with engine := { s.engine with pool } } ∧ s.engine.pool.Shuffled pool := by
  refine ⟨s.engine.pool.complete ticket, rfl, ?_⟩
  cases held : s.engine.pool.held.find? (fun job => job.ticket == ticket) with
  | none =>
    have same : s.engine.pool.complete ticket = s.engine.pool := by simp only [Pool.complete, held]
    rw [same]
    exact .refl open_
  | some job =>
    have foreign : job.work.delivery? = none := by
      rw [Engine.atWork?_eq, held] at foreign
      exact foreign
    refine ⟨open_.complete ticket, ?_, fun other inside d is => ?_⟩
    · have before := Pool.deliveries_complete open_ held
      rw [foreign] at before
      exact before.symm
    · rw [Pool.held_complete held]
      have split := Pool.held_perm (Pool.held_distinct open_.accounted) held
      rcases List.mem_cons.mp (split.mem_iff.mp inside) with rfl | stays
      · rw [is] at foreign
        cases foreign
      · exact stays

end Others

/-! ### Closed engines -/

theorem accepting_finish (s : System) (ticket : Nat) (d : Delivery) (outcome : Except HandlerError Unit)
    (draw : Float) : (s.finish ticket d outcome draw).1.engine.isAccepting = s.engine.isAccepting := by
  obtain ⟨broker, engine, alarms, is, _, pool⟩ := s.finish_spec ticket d outcome draw
  rw [is]
  exact Engine.accepting_of_complete (pool.trans (s.engine.pool_finish ticket d outcome draw))

/-- An engine that has been closed to new messages is never opened again. -/
theorem closed_act {s : System} (closed : s.engine.isAccepting = false) (a : Act) :
    (s.act a).engine.isAccepting = false := by
  cases a with
  | insert e => exact closed
  | takeOut e => exact closed
  | claim e ttl => exact closed
  | failFetches why => exact closed
  | publish m => exact closed
  | publishDelayed m seconds => exact closed
  | failPublishes why => exact closed
  | receive => exact closed
  | dropReceiver => exact closed
  | dispatch m => exact (s.engine.accepting_dispatch m s.now).trans closed
  | deliver m t =>
    simp only [act, deliver]
    split
    · rename_i engine taken
      rw [Engine.deliver_ok taken]
      exact closed
    · exact closed
  | occupy name limit =>
    simp only [act]
    split
    · rename_i pool taken
      rw [Pool.submit_ok taken]
      exact closed
    · exact closed
  | pickUp =>
    simp only [act, pickUp]
    cases picked : s.engine.pool.pickUp with
    | none => exact closed
    | some p =>
      obtain ⟨rest, _, pool⟩ := Pool.pickUp_some picked
      show p.2.accepting = false
      rw [pool]
      exact closed
  | start ticket decide =>
    simp only [act]
    cases s.engine.atWork? ticket with
    | none => exact closed
    | some d => exact (s.engine.accepting_start ticket d decide s.now).trans closed
  | finish ticket outcome draw =>
    simp only [act]
    cases s.engine.atWork? ticket with
    | none => exact closed
    | some d => exact (s.accepting_finish ticket d outcome draw).trans closed
  | release ticket => exact (Engine.accepting_of_complete rfl).trans closed
  | ring place draw =>
    simp only [act]
    split
    · rename_i alarm _
      obtain ⟨engine, alarms, is, rfl | ⟨id, _, rfl⟩⟩ := s.goOff_spec alarm draw
      · rw [is]
        exact closed
      · rw [is]
        exact (s.engine.accepting_resubmit id draw).trans closed
    · exact closed
  | passTo count => exact closed
  | stopAccepting => rfl
  | beginShutdown => rfl
  | timeOut =>
    obtain ⟨_, _, is⟩ := s.engine.pool.timeOut_eq
    show s.engine.pool.timeOut.accepting = false
    rw [is]
    exact closed
  | endShutdown =>
    simp only [act, endShutdown, Engine.endShutdown, Pool.conclude]
    split
    · rfl
    · rfl

end System
end Courier
