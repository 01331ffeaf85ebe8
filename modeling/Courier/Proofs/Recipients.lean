import Courier.Engine.Basic
import Courier.Proofs.PoolTasks

/-!
To whom a message goes. An engine that takes a message gives its pool one new delivery for each
recipient, in the order of registration; one that does not take it has served the first recipients only.
-/
namespace Courier.Engine

/-- The triggers that a message is for: that of its target handler, if it has one, or else all of its
topic. No answer if the target handler is unknown. -/
def recipients (e : Engine) (m : Message) : Option (List Trigger) :=
  match m.targetHandler with
  | none => some (e.registry.triggersFor m.topic)
  | some handler => (e.registry.find handler).map (fun t => [t])

/-- The tasks that bring a message to triggers, with tickets and serial numbers in order. -/
def tasksFor (m : Message) (now : Instant) : Nat → Nat → List Trigger → List (Job Task)
  | _, _, [] => []
  | ticket, serial, t :: rest =>
    ⟨ticket, t.handlerId, .delivery ⟨serial, m, t, .new m t.handlerId now⟩⟩ ::
      tasksFor m now (ticket + 1) (serial + 1) rest

theorem submit_pool {e after : Engine} {d : Delivery} (taken : e.submit d = .ok after) :
    ∃ pool, e.pool.submit d.trigger.handlerId d.trigger.concurrency (.delivery d) = .ok pool ∧
      after = { e with pool } := by
  cases offered : e.pool.submit d.trigger.handlerId d.trigger.concurrency (.delivery d) with
  | error why => simp [submit, offered, bind, Except.bind] at taken
  | ok pool =>
    have result : { e with pool := pool } = after := by
      simpa [submit, offered, bind, Except.bind, pure, Except.pure] using taken
    exact ⟨pool, rfl, result.symm⟩

theorem submit_ok {e after : Engine} {d : Delivery} (taken : e.submit d = .ok after) :
    after = { e with pool := e.pool.entered d.trigger.handlerId d.trigger.concurrency (.delivery d) } := by
  obtain ⟨pool, offered, rfl⟩ := submit_pool taken
  rw [Pool.submit_ok offered]

theorem deliver_pool {e after : Engine} {m : Message} {t : Trigger} {now : Instant}
    (taken : e.deliver m t now = .ok after) :
    ∃ pool, e.pool.submit t.handlerId t.concurrency (.delivery ⟨e.dispatched, m, t, .new m t.handlerId now⟩) = .ok pool ∧
      after = { e with pool, dispatched := e.dispatched + 1 } := by
  cases offered : e.submit ⟨e.dispatched, m, t, .new m t.handlerId now⟩ with
  | error why => simp [deliver, offered, bind, Except.bind] at taken
  | ok between =>
    have result : { between with dispatched := e.dispatched + 1 } = after := by
      simpa [deliver, offered, bind, Except.bind, pure, Except.pure] using taken
    obtain ⟨pool, entered, rfl⟩ := submit_pool offered
    exact ⟨pool, entered, result.symm⟩

theorem deliver_ok {e after : Engine} {m : Message} {t : Trigger} {now : Instant}
    (taken : e.deliver m t now = .ok after) :
    after = { e with
      pool := e.pool.entered t.handlerId t.concurrency (.delivery ⟨e.dispatched, m, t, .new m t.handlerId now⟩)
      dispatched := e.dispatched + 1 } := by
  obtain ⟨pool, offered, rfl⟩ := deliver_pool taken
  rw [Pool.submit_ok offered]

theorem deliver_ok_of_submit {e : Engine} {m : Message} {t : Trigger} {now : Instant} {pool : Pool Task}
    (taken : e.pool.submit t.handlerId t.concurrency (.delivery ⟨e.dispatched, m, t, .new m t.handlerId now⟩) = .ok pool) :
    e.deliver m t now = .ok { e with pool, dispatched := e.dispatched + 1 } := by
  simp [deliver, submit, taken, bind, Except.bind, pure, Except.pure]

theorem deliver_error_of_submit {e : Engine} {m : Message} {t : Trigger} {now : Instant} {why : DeliveryError}
    (refused : e.pool.submit t.handlerId t.concurrency (.delivery ⟨e.dispatched, m, t, .new m t.handlerId now⟩) =
      .error why) : e.deliver m t now = .error why := by
  simp [deliver, submit, refused, bind, Except.bind]

/-! ### Feeding -/

/-- The engine after one trigger has got a message. -/
def handedTo (e : Engine) (m : Message) (now : Instant) (t : Trigger) : Engine :=
  { e with
    pool := e.pool.entered t.handlerId t.concurrency (.delivery ⟨e.dispatched, m, t, .new m t.handlerId now⟩)
    dispatched := e.dispatched + 1 }

/-- The engine after all triggers of a list have got a message, in their order. -/
def handed (e : Engine) (m : Message) (now : Instant) (ts : List Trigger) : Engine :=
  ts.foldl (fun e t => e.handedTo m now t) e

theorem handed_cons (e : Engine) (m : Message) (now : Instant) (t : Trigger) (rest : List Trigger) :
    e.handed m now (t :: rest) = (e.handedTo m now t).handed m now rest := rfl

/-- The triggers that got a message have one delivery each; nothing else is new. -/
theorem tasks_handed (e : Engine) (m : Message) (now : Instant) (ts : List Trigger) :
    (e.handed m now ts).pool.tasks.Perm (tasksFor m now e.pool.nextTicket e.dispatched ts ++ e.pool.tasks) := by
  induction ts generalizing e with
  | nil => exact List.Perm.refl _
  | cons t rest ih =>
    have first := Pool.tasks_entered e.pool t.handlerId t.concurrency
      (.delivery ⟨e.dispatched, m, t, .new m t.handlerId now⟩)
    exact (ih (e.handedTo m now t)).trans ((first.append_left _).trans List.perm_middle)

theorem counts_handed (e : Engine) (m : Message) (now : Instant) (ts : List Trigger) :
    (e.handed m now ts).dispatched = e.dispatched + ts.length ∧
      (e.handed m now ts).pool.outstanding = e.pool.outstanding + ts.length := by
  induction ts generalizing e with
  | nil => exact ⟨rfl, rfl⟩
  | cons t rest ih =>
    obtain ⟨dispatched, outstanding⟩ := ih (e.handedTo m now t)
    rw [handed_cons, dispatched, outstanding, List.length_cons]
    simp only [handedTo, Pool.entered]
    omega

/-- Why a message has gone to the first triggers of a list only. -/
def stopped (n : Nat) (why : DeliveryError) : DeliveryError := if n = 0 then why else .partialDispatch n why

theorem feed_of_refusing (m : Message) (now : Instant) (n : Nat) (t : Trigger) (rest : List Trigger) {e : Engine}
    (refusing : e.pool.accepting = false) :
    feed m now n (t :: rest) e = (.error (stopped n (.rejected t.handlerId)), e) := by
  rw [feed, deliver_error_of_submit (Pool.submit_rejected_iff.mpr refusing)]
  rfl

/-- Feeding goes on as long as there is room. -/
theorem feed_of_accepting (m : Message) (now : Instant) (n : Nat) (ts : List Trigger) {e : Engine} {free : Nat}
    (accepting : e.pool.accepting = true) (room : e.pool.config.capacity - e.pool.outstanding = free) :
    feed m now n ts e =
      (match ts[free]? with
        | none => .ok (n + ts.length)
        | some t => .error (stopped (n + free) (.queueFull t.handlerId e.pool.config.capacity)),
      e.handed m now (ts.take free)) := by
  induction ts generalizing n e free with
  | nil => simp [feed, handed]
  | cons t rest ih =>
    cases free with
    | zero =>
      have full : e.pool.config.capacity ≤ e.pool.outstanding := Nat.le_of_sub_eq_zero room
      rw [feed, deliver_error_of_submit (Pool.submit_queueFull_iff.mpr ⟨accepting, full⟩)]
      rfl
    | succ free =>
      have next : e.deliver m t now = .ok (e.handedTo m now t) :=
        deliver_ok_of_submit (Pool.submit_ok_iff.mpr ⟨accepting, by omega, rfl⟩)
      have left : (e.handedTo m now t).pool.config.capacity - (e.handedTo m now t).pool.outstanding = free := by
        simp only [handedTo, Pool.entered]
        omega
      rw [feed, next]
      simp only [ih (n + 1) (e := e.handedTo m now t) accepting left, List.getElem?_cons_succ, List.take_succ_cons,
        handed_cons, List.length_cons, Nat.add_assoc, Nat.add_comm 1]
      rfl

/-- A message that was refused by none went to all. -/
theorem feed_ok {m : Message} {now : Instant} {n k : Nat} {ts : List Trigger} {e after : Engine}
    (fed : feed m now n ts e = (.ok k, after)) : k = n + ts.length ∧ after = e.handed m now ts := by
  cases accepting : e.pool.accepting with
  | true =>
    rw [feed_of_accepting m now n ts accepting rfl] at fed
    obtain ⟨answer, rfl⟩ := Prod.mk.inj fed
    cases first : ts[e.pool.config.capacity - e.pool.outstanding]? with
    | none =>
      rw [first] at answer
      exact ⟨(Except.ok.inj answer).symm, by rw [List.take_of_length_le (List.getElem?_eq_none_iff.mp first)]⟩
    | some t =>
      rw [first] at answer
      cases answer
  | false =>
    cases ts with
    | nil =>
      cases fed
      exact ⟨rfl, rfl⟩
    | cons t rest =>
      rw [feed_of_refusing m now n t rest accepting] at fed
      cases fed

/-- All triggers of a list get a message if the pool takes tasks and has room for as many. -/
theorem feed_of_room (m : Message) (now : Instant) (n : Nat) (ts : List Trigger) {e : Engine}
    (accepting : e.pool.accepting = true) (room : e.pool.outstanding + ts.length ≤ e.pool.config.capacity) :
    (feed m now n ts e).1 = .ok (n + ts.length) ∧
      (feed m now n ts e).2.pool.outstanding = e.pool.outstanding + ts.length := by
  have short : ts.length ≤ e.pool.config.capacity - e.pool.outstanding := by omega
  rw [feed_of_accepting m now n ts accepting rfl, List.getElem?_eq_none short, List.take_of_length_le short]
  exact ⟨rfl, (counts_handed e m now ts).2⟩

/-! ### Dispatch -/

/-- The recipients of a message are fed. -/
theorem dispatch_eq_feed {e : Engine} {m : Message} {ts : List Trigger} (known : e.recipients m = some ts)
    (now : Instant) : e.dispatch m now = feed m now 0 ts e := by
  cases target : m.targetHandler with
  | none =>
    simp only [recipients, target, Option.some.injEq] at known
    simp only [dispatch, target, known]
  | some handler =>
    simp only [recipients, target, Option.map_eq_some_iff] at known
    obtain ⟨t, found, rfl⟩ := known
    simp only [dispatch, target, found]

/-- A message whose target handler is unknown is refused without a trace. -/
theorem dispatch_of_unknown {e : Engine} {m : Message} (unknown : e.recipients m = none) (now : Instant) :
    ∃ handler, m.targetHandler = some handler ∧ e.dispatch m now = (.error (.unknownHandler handler), e) := by
  cases target : m.targetHandler with
  | none => simp only [recipients, target, reduceCtorEq] at unknown
  | some handler =>
    simp only [recipients, target, Option.map_eq_none_iff] at unknown
    exact ⟨handler, rfl, by simp only [dispatch, target, unknown]⟩

/-- A message that an engine takes becomes one delivery for each of its recipients. -/
theorem dispatch_ok {e after : Engine} {m : Message} {now : Instant} {n : Nat}
    (taken : e.dispatch m now = (.ok n, after)) :
    ∃ ts, e.recipients m = some ts ∧ n = ts.length ∧
      after.pool.tasks.Perm (tasksFor m now e.pool.nextTicket e.dispatched ts ++ e.pool.tasks) := by
  cases known : e.recipients m with
  | none =>
    obtain ⟨handler, _, refused⟩ := dispatch_of_unknown known now
    rw [refused] at taken
    cases taken
  | some ts =>
    rw [dispatch_eq_feed known] at taken
    obtain ⟨count, rfl⟩ := feed_ok taken
    exact ⟨ts, rfl, by simpa using count, tasks_handed e m now ts⟩

/-- All recipients of a message get it if the pool takes tasks and has room for as many. -/
theorem dispatch_of_room {e : Engine} {m : Message} {ts : List Trigger} (known : e.recipients m = some ts)
    (accepting : e.pool.accepting = true) (room : e.pool.outstanding + ts.length ≤ e.pool.config.capacity)
    (now : Instant) :
    (e.dispatch m now).1 = .ok ts.length ∧ (e.dispatch m now).2.pool.outstanding = e.pool.outstanding + ts.length := by
  rw [dispatch_eq_feed known]
  simpa using feed_of_room m now 0 ts accepting room

/-! ### Counts -/

/-- How many deliveries an answer to a message speaks of. -/
def answered : Except DeliveryError Nat → Nat
  | .ok n => n
  | .error why => why.delivered

theorem delivered_stopped (n : Nat) {why : DeliveryError} (none : why.delivered = 0) : (stopped n why).delivered = n := by
  unfold stopped
  split
  · rename_i first
    rw [none, first]
  · rfl

theorem dispatched_feed (m : Message) (now : Instant) (n : Nat) (ts : List Trigger) (e : Engine) :
    (feed m now n ts e).2.dispatched + n = e.dispatched + answered (feed m now n ts e).1 := by
  cases accepting : e.pool.accepting with
  | true =>
    rw [feed_of_accepting m now n ts accepting rfl]
    simp only [(counts_handed ..).1, List.length_take]
    cases first : ts[e.pool.config.capacity - e.pool.outstanding]? with
    | none =>
      have short := List.getElem?_eq_none_iff.mp first
      simp only [answered]
      omega
    | some t =>
      have inside := (List.getElem?_eq_some_iff.mp first).1
      simp only [answered, delivered_stopped _ (show (DeliveryError.queueFull _ _).delivered = 0 from rfl)]
      omega
  | false =>
    cases ts with
    | nil => rfl
    | cons t rest =>
      rw [feed_of_refusing m now n t rest accepting]
      simp only [answered, delivered_stopped _ (show (DeliveryError.rejected _).delivered = 0 from rfl)]

/-- The engine counts the deliveries that its answer speaks of. -/
theorem dispatched_dispatch (e : Engine) (m : Message) (now : Instant) :
    (e.dispatch m now).2.dispatched = e.dispatched + answered (e.dispatch m now).1 := by
  cases known : e.recipients m with
  | none =>
    obtain ⟨handler, _, refused⟩ := dispatch_of_unknown known now
    rw [refused]
    rfl
  | some ts =>
    rw [dispatch_eq_feed known]
    exact dispatched_feed m now 0 ts e

end Courier.Engine
