import Courier.Proofs.JourneyActs

/-!
How journeys end. Whatever happens on the way, the calls that were made are planned; if the message is nowhere
any more, all planned calls were made; and at any time there is a way on which they all will be, as long as the
clock can count the time that it takes.
-/
namespace Courier

namespace Errand

/-- Whether two entries that the store held in the course of a run have one digest, though they differ. -/
def Collided (e : Errand) (acts : List Journey.Act) : Prop := ∃ x y, e.Stored acts x ∧ e.Stored acts y ∧ x.Collides y

/-- The longest that the message waits from its `k`-th failure on, in nanoseconds. -/
def waitFrom (e : Errand) (k : Nat) : Nat := ((List.range' k (e.last - k)).map e.slot).sum

theorem waitFrom_eq (e : Errand) {k : Nat} (less : k < e.last) : e.waitFrom k = e.slot k + e.waitFrom (k + 1) := by
  obtain ⟨rest, lastIs⟩ := Nat.exists_eq_add_of_lt less
  rw [waitFrom, waitFrom, show e.last - k = (e.last - (k + 1)) + 1 by omega, List.range'_succ, List.map_cons,
    List.sum_cons]

theorem waitFrom_anti (e : Errand) {k n : Nat} (le : k ≤ n) : e.waitFrom n ≤ e.waitFrom k := by
  induction le with
  | refl => exact Nat.le_refl _
  | @step n _ ih =>
    refine Nat.le_trans ?_ ih
    by_cases less : n < e.last
    · rw [e.waitFrom_eq less]
      exact Nat.le_add_left ..
    · rw [waitFrom, show e.last - (n + 1) = 0 by omega]
      exact Nat.zero_le _

theorem run_append (e : Errand) (before after : List Journey.Act) :
    e.run (before ++ after) = after.foldl e.act (e.run before) :=
  List.foldl_append ..

theorem stored_now (e : Errand) (acts : List Journey.Act) {x : DueEntry} (inside : x ∈ (e.run acts).entries) :
    e.Stored acts x :=
  ⟨acts, List.prefix_refl _, inside⟩

theorem Stored.append {e : Errand} {acts : List Journey.Act} {x : DueEntry} (stored : e.Stored acts x)
    (more : List Journey.Act) : e.Stored (acts ++ more) x := by
  obtain ⟨before, part, inside⟩ := stored
  exact ⟨before, part.trans (List.prefix_append ..), inside⟩

end Errand

namespace Journey

/-- Whether the message is nowhere any more: no worker has it or will get it, and no retry waits. -/
def Settled (w : Journey) : Prop := w.deliveries = [] ∧ w.system.engine.pending.entries = [] ∧ w.entries = []

variable {e : Errand} {w : Journey}

/-! ### Every run -/

private def first (e : Errand) : Delivery :=
  ⟨0, e.message, e.trigger, .new e.message e.trigger.handlerId (Clock.startedAt e.start).now⟩

private theorem begun_eq (e : Errand) :
    ∃ pool : Pool Task,
      (Pool.new e.config.pool).submit e.trigger.handlerId e.trigger.concurrency (.delivery (first e)) = .ok pool ∧
      e.begun =
        ⟨⟨.startedAt e.start, { Engine.new e.config e.registry e.interceptors with pool, dispatched := 1 }, .empty, .none⟩,
          ⟨e.polling, .empty⟩, ⟨.empty, [], [], .ended .complete⟩, []⟩ := by
  cases taken : (Pool.new e.config.pool).submit e.trigger.handlerId e.trigger.concurrency (Task.delivery (first e)) with
  | error why =>
    have full : max e.config.pool.maxPending 1 ≤ 0 := ((Pool.open_new e.config.pool).refusal taken).1
    omega
  | ok pool =>
    have answer : (Engine.new e.config e.registry e.interceptors).deliver e.message e.trigger
        (Clock.startedAt e.start).now =
          .ok { Engine.new e.config e.registry e.interceptors with pool, dispatched := 1 } :=
      Engine.deliver_ok_of_submit taken
    refine ⟨pool, rfl, ?_⟩
    simp only [Errand.begun, System.deliver, System.new, System.now, answer]

/-- At first the message is in the pool, and the store is empty. -/
theorem begun_queued (e : Errand) :
    e.begun.Sound e ∧ e.begun.entries = [] ∧ e.begun.poll.rest = [] ∧ e.begun.poll.IsFree ∧
      ∃ d, e.begun.Queued e 0 d := by
  obtain ⟨pool, taken, begun⟩ := begun_eq e
  have only : pool.deliveries = [first e] := List.perm_singleton.mp (Pool.deliveries_submit taken)
  have open_ := (Pool.open_new e.config.pool).submit taken
  have fresh : e.message.plain = ((e.brought 0).afterFailures 0).plain := by
    rw [e.brought_zero]
    obtain ⟨delivered, failed, retry, _⟩ := e.fresh
    simp only [Message.plain, Message.afterFailures, Message.mk.injEq]
    simp [delivered, failed, retry]
  rw [begun]
  refine ⟨⟨⟨rfl, rfl, rfl, open_⟩, rfl, rfl, rfl, fun key ends found => (by cases found), rfl⟩, rfl, rfl,
    Poll.isFree_ended rfl, first e, ⟨Errand.fails_zero, e.tries_pos, rfl⟩, only, ⟨rfl, fresh, .inl rfl⟩, ⟨rfl, rfl⟩,
    Errand.waited_zero⟩

private theorem begun_at (e : Errand) (been : DueEntry → Prop) : e.begun.Sound e ∧ e.begun.At e been := by
  obtain ⟨sound, empty, rest, free, d, queued⟩ := begun_queued e
  have cleared : e.begun.Cleared :=
    ⟨rest, fun x => (free x).1, fun z inside => absurd (empty ▸ inside) List.not_mem_nil⟩
  exact ⟨sound, .apart 0 (.queued d queued) cleared (fun y clearing => absurd clearing (free y).2)⟩

/-- The message stays in one place in the course of a run. -/
theorem run_at (e : Errand) (acts : List Act) : (e.run acts).Sound e ∧ (e.run acts).At e (e.Stored acts) := by
  induction acts using List.reverseRecOn with
  | nil => exact begun_at e _
  | append_singleton acts a ih =>
    obtain ⟨sound, place⟩ := ih
    have more (x : DueEntry) (stored : e.Stored acts x) : e.Stored (acts ++ [a]) x := stored.append [a]
    have now := fun x => e.stored_now (acts ++ [a]) (x := x)
    rw [e.run_append] at now ⊢
    exact ((Stays.refl _).place place more).act sound a (fun x inside => more x (e.stored_now acts inside)) now

/-! ### Time -/

private theorem clock_goOn (w : Journey) : w.goOn.system.clock = w.system.clock := by
  unfold goOn
  split
  · split <;> rfl
  · exact (Poll.keeps_step w.poll w.poller w.system).clock

/-- Only the passing of time moves the clock. -/
theorem count_act {a : Act} (still : ∀ count, a ≠ .passTo count) : (e.act w a).system.count = w.system.count := by
  have clock : (e.act w a).system.clock = w.system.clock := by
    cases a with
    | occupy name limit => exact w.system.clock_act (a := .occupy name limit) (by simp)
    | pickUp => exact w.system.clock_act (a := .pickUp) (by simp)
    | start ticket =>
      simp only [Errand.act]
      split
      · split <;> rfl
      · rfl
    | finish ticket draw =>
      simp only [Errand.act]
      split
      · split
        · rename_i d _ _
          obtain ⟨broker, engine, alarms, is, _⟩ := w.system.finish_spec ticket d (e.endings w.handled).result draw
          simp only [is]
        · rfl
      · rfl
    | release ticket =>
      simp only [Errand.act]
      split <;> rfl
    | ring place draw => exact w.system.clock_act (a := .ring place draw) (by simp)
    | poll => exact clock_goOn w
    | passTo count => exact absurd rfl (still count)
  exact System.count_congr clock

/-! ### Ways -/

/-- Whether there is a way to a journey with a property. -/
def Reaches (w : Journey) (e : Errand) (goal : Journey → Prop) : Prop :=
  ∃ acts : List Act, goal (acts.foldl e.act w)

namespace Reaches
variable {goal : Journey → Prop}

theorem now (here : goal w) : w.Reaches e goal := ⟨[], here⟩

theorem after_act (a : Act) (there : (e.act w a).Reaches e goal) : w.Reaches e goal := by
  obtain ⟨acts, reached⟩ := there
  exact ⟨a :: acts, reached⟩

theorem trans {half : Journey → Prop} (there : w.Reaches e half)
    (on : ∀ after, half after → after.Reaches e goal) : w.Reaches e goal := by
  obtain ⟨acts, reached⟩ := there
  obtain ⟨more, reached⟩ := on _ reached
  exact ⟨acts ++ more, by rw [List.foldl_append]; exact reached⟩

end Reaches

/-- A journey that works, not later than some count of the clock. -/
structure By (e : Errand) (latest : Nat) (w : Journey) : Prop where
  sound : w.Sound e
  early : w.system.count ≤ latest

/-- A journey on which workers have done what there was to do: they have no task left, or one of them has picked
the message up. -/
structure Drained (e : Errand) (w after : Journey) : Prop where
  sound : after.Sound e
  stays : w.Stays after
  count : after.system.count = w.system.count
  idle : after.system.engine.pool.tasks = [] ∨
    ∃ job ∈ after.system.engine.pool.held, ∃ d, job.work = .delivery d

private theorem drain_within (n : Nat) (sound : w.Sound e)
    (few : 2 * w.system.engine.pool.tasks.length ≤ n + w.system.engine.pool.held.length) :
    w.Reaches e (Drained e w) := by
  induction n generalizing w with
  | zero =>
    have part : w.system.engine.pool.held.length ≤ w.system.engine.pool.tasks.length := by
      simp only [Pool.tasks, Pool.active, List.length_append]
      omega
    exact .now ⟨sound, .refl w, rfl, .inl (List.eq_nil_of_length_eq_zero (by omega))⟩
  | succ n ih =>
    have on {a : Act} (still : ∀ count, a ≠ .passTo count) (next : (e.act w a).Sound e ∧ w.Stays (e.act w a))
        (fewer : 2 * (e.act w a).system.engine.pool.tasks.length ≤ n + (e.act w a).system.engine.pool.held.length) :
        w.Reaches e (Drained e w) := by
      refine .after_act a ((ih next.1 fewer).trans (fun after drained => .now ?_))
      exact ⟨drained.sound, next.2.trans drained.stays, drained.count.trans (count_act still), drained.idle⟩
    by_cases none : w.system.engine.pool.tasks = []
    · exact .now ⟨sound, .refl w, rfl, .inl none⟩
    · cases held : w.system.engine.pool.held with
      | nil =>
        obtain ⟨job, pool, picked⟩ := sound.pool.exists_pickUp held none
        refine on (a := .pickUp) (fun count same => by cases same) (pickUp sound) ?_
        have tasks := (Pool.tasks_pickUp sound.pool picked).length_eq
        obtain ⟨rest, _, fields⟩ := Pool.pickUp_some picked
        have holds : pool.held = w.system.engine.pool.held ++ [job] := by rw [fields]
        rw [held] at few holds
        rw [act_pickUp picked]
        show 2 * pool.tasks.length ≤ n + pool.held.length
        rw [tasks, holds]
        simp only [List.length_nil, List.nil_append, List.length_singleton] at few ⊢
        omega
      | cons job rest =>
        have inside : job ∈ w.system.engine.pool.held := by
          rw [held]
          exact List.mem_cons_self
        cases is : job.work with
        | delivery d => exact .now ⟨sound, .refl w, rfl, .inr ⟨job, inside, d, is⟩⟩
        | foreign name =>
          have found := Pool.find?_held sound.pool.accounted inside
          have foreign : w.system.engine.atWork? job.ticket = .none := by
            rw [Engine.atWork?_eq, found, Option.bind_some, is]
            rfl
          refine on (a := .release job.ticket) (fun count same => by cases same) (release sound job.ticket) ?_
          have tasks := (Pool.tasks_complete sound.pool.accounted found).length_eq
          have holds := (Pool.held_perm (Pool.held_distinct sound.pool.accounted) found).length_eq
          rw [act_release foreign]
          show 2 * (w.system.engine.pool.complete job.ticket).tasks.length ≤
            n + (w.system.engine.pool.complete job.ticket).held.length
          rw [Pool.held_complete found]
          rw [List.length_cons] at tasks holds
          omega

/-- Workers can do what there is to do. -/
theorem drain (sound : w.Sound e) : w.Reaches e (Drained e w) :=
  drain_within (2 * w.system.engine.pool.tasks.length) sound (Nat.le_add_right ..)

/-- As long as the message is not in the pool, workers come to the end of all other tasks. -/
theorem Drained.tasks {after : Journey} (drained : Drained e w after) (none : w.deliveries = []) :
    after.system.engine.pool.tasks = [] := by
  rcases drained.idle with empty | ⟨job, inside, d, is⟩
  · exact empty
  · have there : d ∈ after.deliveries :=
      Pool.mem_deliveries (Pool.mem_tasks_of_held inside) is
    rw [drained.stays.none none] at there
    cases there

/-! ### From place to place -/

theorem atWork_of_held (sound : w.Sound e) {job : Job Task} (inside : job ∈ w.system.engine.pool.held)
    {d : Delivery} (is : job.work = .delivery d) : w.system.engine.atWork? job.ticket = some d := by
  rw [Engine.atWork?_eq, Pool.find?_held sound.pool.accounted inside, Option.bind_some, is]
  rfl

/-- The message can be brought to its handler. -/
theorem Queued.reaches_working {k T : Nat} {d : Delivery} (queued : w.Queued e k d) (onTime : w.By e T)
    (cleared : w.Cleared) :
    w.Reaches e (fun after => after.By e T ∧ after.Cleared ∧ ∃ next, after.Working e k next) := by
  refine (drain onTime.sound).trans (fun mid drained => ?_)
  have queued := drained.stays.queued queued
  have cleared := drained.stays.cleared cleared
  obtain ⟨job, inside, d', is⟩ : ∃ job ∈ mid.system.engine.pool.held, ∃ d, job.work = .delivery d := by
    rcases drained.idle with none | held
    · have only := queued.only
      rw [deliveries, Pool.deliveries, none] at only
      simp at only
    · exact held
  have same : d' = d := by
    have there : d' ∈ mid.deliveries := Pool.mem_deliveries (Pool.mem_tasks_of_held inside) is
    simpa [queued.only] using there
  subst same
  obtain ⟨sound, rests, next, working⟩ := queued.start drained.sound (atWork_of_held drained.sound inside is)
  have count : (e.act mid (.start job.ticket)).system.count = w.system.count :=
    (count_act (a := .start job.ticket) nofun).trans drained.count
  exact .after_act (.start job.ticket) (.now ⟨⟨sound, count ▸ onTime.early⟩, rests.cleared cleared, next, working⟩)

/-- The message waits for its next try. -/
inductive Waiting (e : Errand) (w : Journey) (k : Nat) : Prop
  | pending (d : Delivery) (id : Nat) (alarm : Alarm Purpose) (pending : w.Pending e k d id alarm)
      (cleared : w.Cleared)
  | stored (x : DueEntry) (m : Message) (stored : w.Stored e k x m)

/-- The handler can come to its end, and the retry can be made to wait if it can wait at all. -/
theorem Working.reaches_waiting {k T : Nat} {d : Delivery} (working : w.Working e k d) (onTime : w.By e T)
    (cleared : w.Cleared) (can : k + 1 < e.last → e.CanWait (k + 1)) :
    w.Reaches e (fun after => shown after.calls = e.plan ∨ (after.By e T ∧ after.Waiting e (k + 1))) := by
  -- the poller first takes out an entry that is done with, so that no other one can take its place
  obtain ⟨sound, lasts, cleared, free⟩ := cleared_goOn onTime.sound cleared
  have working := lasts.working working
  obtain ⟨job, inside, is⟩ := working.held
  refine .after_act .poll (.after_act (.finish job.ticket 0) (.now ?_))
  have early : (e.act w.goOn (.finish job.ticket 0)).system.count ≤ T := by
    have here : w.goOn.system.count = w.system.count := count_act (e := e) (a := .poll) nofun
    have there : (e.act w.goOn (.finish job.ticket 0)).system.count = w.goOn.system.count :=
      count_act (a := .finish job.ticket 0) nofun
    rw [there, here]
    exact onTime.early
  have dated : w.goOn.Dated (fun x => x ∈ (e.act w.goOn (.finish job.ticket 0)).entries) k :=
    fun y clearing => absurd clearing (free y).2
  obtain ⟨sound, ⟨ended, _⟩ | away⟩ :=
    working.finish sound cleared dated (atWork_of_held sound inside is) 0 (fun _ inside => inside)
  · exact .inl ended.done
  · cases away with
    | pending d id alarm pending cleared => exact .inr ⟨⟨sound, early⟩, .pending d id alarm pending cleared⟩
    | stored x m stored => exact .inr ⟨⟨sound, early⟩, .stored x m stored⟩
    | lost lost =>
      rcases lost.excuse with ⟨x, y, first, second, collides⟩ | ⟨_, less, long⟩
      · exact absurd collides (DueStore.not_collides first second)
      · exact absurd (can less) long

/-- Time can pass up to any count that the clock knows. -/
theorem By.pass {T count : Nat} (onTime : w.By e T) (le : T ≤ count) (counts : count < 2 ^ 64) :
    (e.act w (.passTo count)).Sound e ∧ w.Stays (e.act w (.passTo count)) ∧
      (e.act w (.passTo count)).system.count = count ∧
      (e.act w (.passTo count)).system.engine = w.system.engine ∧
      (e.act w (.passTo count)).system.broker = w.system.broker := by
  obtain ⟨sound, stays⟩ := passTo onTime.sound count
  have next : e.act w (.passTo count) = { w with system := w.system.passTo count } := by
    simp only [Errand.act, counts, if_true, System.act]
  refine ⟨sound, stays, ?_, ?_, ?_⟩
  · rw [next]
    show (w.system.passTo count).count = count
    rw [System.count_passTo _ counts]
    exact Nat.max_eq_right (Nat.le_trans onTime.early le)
  · rw [next]
    rfl
  · rw [next]
    rfl

theorem Pending.reaches_queued {k T : Nat} {d : Delivery} {id : Nat} {alarm : Alarm Purpose}
    (pending : w.Pending e k d id alarm) (onTime : w.By e T) (cleared : w.Cleared) (counts : T + e.slot k < 2 ^ 64) :
    w.Reaches e (fun after => after.By e (T + e.slot k) ∧ after.Cleared ∧ ∃ d, after.Queued e k d) := by
  refine (drain onTime.sound).trans (fun mid drained => ?_)
  have none := drained.tasks pending.none
  have onTime : mid.By e T := ⟨drained.sound, drained.count ▸ onTime.early⟩
  obtain ⟨sound, stays, count, engine, _⟩ := onTime.pass (Nat.le_add_right T (e.slot k)) counts
  have early : alarm.deadline ≤ T + e.slot k :=
    Nat.le_trans (drained.stays.pending_ pending).deadline (Nat.add_le_add_right onTime.early _)
  have waits := stays.pending_ (drained.stays.pending_ pending)
  have cleared := stays.cleared (drained.stays.cleared cleared)
  obtain ⟨sound', rests, queued | ⟨full, _⟩⟩ := waits.ring sound (Nat.le_trans early (Nat.le_of_eq count.symm)) 0
  · have there : (e.act (e.act mid (.passTo (T + e.slot k))) (.ring 0 0)).system.count = T + e.slot k :=
      (count_act (a := .ring 0 0) nofun).trans count
    exact .after_act (.passTo (T + e.slot k)) (.after_act (.ring 0 0)
      (.now ⟨⟨sound', Nat.le_of_eq there⟩, rests.cleared cleared, d, queued⟩))
  · have room := sound.pool.outstanding_lt (by rw [engine]; exact none)
    omega

private theorem count_goOn (w : Journey) : w.goOn.system.count = w.system.count := by
  rw [System.count, System.count, clock_goOn]

/-- The poller can come to the end of its poll, or brings the message to the engine before that. -/
private theorem Stored.reaches_over (n : Nat) {k T : Nat} {x : DueEntry} {m : Message} (stored : w.Stored e k x m)
    (onTime : w.By e T) (few : w.poll.toGo ≤ n) :
    w.Reaches e (fun after => after.By e T ∧ ((after.Cleared ∧ ∃ d, after.Queued e k d) ∨
      (after.Stored e k x m ∧ after.poll.isOver = true ∧ after.system.engine = w.system.engine))) := by
  induction n generalizing w with
  | zero =>
    by_cases ended : w.poll.isOver
    · exact .now ⟨onTime, .inr ⟨stored, ended, rfl⟩⟩
    · have fewer := toGo_goOn (w := w) (by simpa using ended)
      omega
  | succ n ih =>
    by_cases ended : w.poll.isOver
    · exact .now ⟨onTime, .inr ⟨stored, ended, rfl⟩⟩
    · have fewer := toGo_goOn (w := w) (by simpa using ended)
      have next : w.goOn.Sound e ∧ Polled e (fun _ => True) w w.goOn k x m := stored.goOn onTime.sound trivial
      obtain ⟨sound, polled⟩ := next
      have onTime : w.goOn.By e T := ⟨sound, Nat.le_trans (Nat.le_of_eq (count_goOn w)) onTime.early⟩
      refine .after_act .poll ?_
      show w.goOn.Reaches e _
      cases polled with
      | brought d queued cleared => exact .now ⟨onTime, .inl ⟨cleared, d, queued⟩⟩
      | left stored apart engine =>
        rw [← engine]
        exact ih stored onTime (by omega)

/-- The poller brings an entry that is due and that nobody has locked to an engine without tasks. -/
private theorem Stored.reaches_queued_of_due {k T : Nat} {x : DueEntry} {m : Message} (stored : w.Stored e k x m)
    (onTime : w.By e T) (ended : w.poll.isOver = true) (due : x.dueAt ≤ w.system.now)
    (unlocked : w.system.broker.store.isLocked x w.system.count = false)
    (tellable : Timer.isTellable e.polling.lockTimeout = true) (none : w.system.engine.pool.tasks = []) :
    w.Reaches e (fun after => after.By e T ∧ after.Cleared ∧ ∃ d, after.Queued e k d) := by
  have found := stored.goOn_finds onTime.sound ended due
  refine .after_act .poll ?_
  show w.goOn.Reaches e _
  have next : w.goOn.Sound e ∧ Polled e (fun _ => True) w w.goOn k x m := stored.goOn onTime.sound trivial
  obtain ⟨sound, polled⟩ := next
  cases polled with
  | brought d queued cleared =>
    exact .now ⟨⟨sound, Nat.le_trans (Nat.le_of_eq (count_goOn w)) onTime.early⟩, cleared, d, queued⟩
  | left stored =>
    obtain ⟨sound, stored, holding, engine⟩ :=
      stored.goOn_claims sound (by rw [found]; rfl) (by rw [found]; rfl) (by rw [found]; exact unlocked) tellable
    have same : w.goOn.goOn.system.engine = w.system.engine := by
      rw [engine, found]
    have room : w.goOn.goOn.system.engine.pool.outstanding < w.goOn.goOn.system.engine.pool.config.capacity :=
      sound.pool.outstanding_lt (by rw [same]; exact none)
    obtain ⟨sound, cleared, d, queued⟩ := stored.goOn_brings sound holding room
    have count : w.goOn.goOn.goOn.system.count = w.system.count :=
      (count_goOn _).trans ((count_goOn _).trans (count_goOn w))
    exact .after_act .poll (.after_act .poll
      (.now ⟨⟨sound, Nat.le_trans (Nat.le_of_eq count) onTime.early⟩, cleared, d, queued⟩))

private theorem lockTimeout_le_slot (e : Errand) (k : Nat) : e.polling.lockTimeout.nanos ≤ e.slot k := by
  unfold Errand.slot
  omega

private theorem Stored.dueAt_le {k T : Nat} {x : DueEntry} {m : Message} (stored : w.Stored e k x m)
    (onTime : w.By e T) (within : e.start ≤ Instant.latest) : x.dueAt ≤ e.start.later (.ofNanos (T + e.slot k)) := by
  obtain ⟨count, dueAt, soon⟩ := stored.due
  have early := onTime.early
  rw [dueAt]
  refine Instant.later_mono within ?_
  rw [Span.nanos_ofNanos, Span.nanos_ofNanos]
  omega

private theorem By.unlocked {T count : Nat} (onTime : w.By e T) (late : T + e.polling.lockTimeout.nanos ≤ count)
    (x : DueEntry) : w.system.broker.store.isLocked x count = false := by
  rw [DueStore.isLocked]
  cases locked : w.system.broker.store.locks.get? x.lockKey with
  | none => rfl
  | some ends =>
    have ended := onTime.sound.locks _ _ locked
    have early := onTime.early
    simp only [Option.any_some, decide_eq_false_iff_not]
    omega

private theorem tellable_of_slot {k T : Nat} (counts : T + e.slot k < 2 ^ 64) :
    Timer.isTellable e.polling.lockTimeout = true := by
  have lock := lockTimeout_le_slot e k
  have near : e.polling.lockTimeout.seconds < 2 ^ 63 := by
    unfold Span.seconds
    omega
  unfold Timer.isTellable
  exact decide_eq_true near

theorem Stored.reaches_queued {k T : Nat} {x : DueEntry} {m : Message} (stored : w.Stored e k x m)
    (onTime : w.By e T) (counts : T + e.slot k < 2 ^ 64) (within : e.start ≤ Instant.latest) :
    w.Reaches e (fun after => after.By e (T + e.slot k) ∧ after.Cleared ∧ ∃ d, after.Queued e k d) := by
  refine (drain onTime.sound).trans (fun mid drained => ?_)
  have none := drained.tasks stored.none
  have onTime : mid.By e T := ⟨drained.sound, Nat.le_trans (Nat.le_of_eq drained.count) onTime.early⟩
  refine ((drained.stays.stored_ stored).reaches_over mid.poll.toGo onTime (Nat.le_refl _)).trans ?_
  rintro late ⟨onTime, brought | ⟨stored, ended, engine⟩⟩
  · exact .now ⟨⟨onTime.sound, Nat.le_trans onTime.early (Nat.le_add_right ..)⟩, brought⟩
  · obtain ⟨sound, stays, count, engine', broker⟩ := onTime.pass (Nat.le_add_right T (e.slot k)) counts
    have now : (e.act late (.passTo (T + e.slot k))).system.now = e.start.later (.ofNanos (T + e.slot k)) := by
      show (e.act late (.passTo (T + e.slot k))).system.clock.start.later
        (.ofNanos (e.act late (.passTo (T + e.slot k))).system.count) = _
      rw [sound.clock, count]
    refine .after_act (.passTo (T + e.slot k)) ((stays.stored_ stored).reaches_queued_of_due
      ⟨sound, Nat.le_of_eq count⟩ (by rw [stays.poll]; exact ended) ?_ ?_ (tellable_of_slot counts) ?_)
    · rw [now]
      exact stored.dueAt_le onTime within
    · rw [count, broker]
      exact onTime.unlocked (Nat.add_le_add_left (lockTimeout_le_slot e k) T) x
    · rw [engine', engine]
      exact none

theorem Waiting.reaches_queued {k T : Nat} (waiting : w.Waiting e k) (onTime : w.By e T)
    (counts : T + e.slot k < 2 ^ 64) (within : e.start ≤ Instant.latest) :
    w.Reaches e (fun after => after.By e (T + e.slot k) ∧ after.Cleared ∧ ∃ d, after.Queued e k d) := by
  cases waiting with
  | pending d id alarm pending cleared => exact pending.reaches_queued onTime cleared counts
  | stored x m stored => exact stored.reaches_queued onTime counts within

theorem Waiting.lt_last {k : Nat} (waiting : w.Waiting e k) : k < e.last := by
  cases waiting with
  | pending d id alarm pending => exact pending.course.fails.lt_last pending.course.allowed
  | stored x m stored => exact stored.course.fails.lt_last stored.course.allowed

/-! ### The end -/

private theorem canWait_of_slot {k : Nat} (counted : e.slot k < 2 ^ 64) : e.CanWait k := by
  have rounded := backoff_le_ceil e k
  refine Errand.canWait_of_counted ?_
  unfold Errand.slot at counted
  omega

/-- From a call of the handler there is a way to the end. -/
private theorem Working.reaches_plan (n : Nat) {k T : Nat} {d : Delivery} (left : e.last ≤ n + k)
    (working : w.Working e k d) (onTime : w.By e T) (cleared : w.Cleared) (within : e.start ≤ Instant.latest)
    (counts : T + e.waitFrom (k + 1) < 2 ^ 64) : w.Reaches e (fun after => shown after.calls = e.plan) := by
  induction n generalizing w k T d with
  | zero =>
    have less := working.course.fails.lt_last working.course.allowed
    omega
  | succ n ih =>
    have can (less : k + 1 < e.last) : e.CanWait (k + 1) := by
      rw [e.waitFrom_eq less] at counts
      exact canWait_of_slot (by omega)
    refine (working.reaches_waiting onTime cleared can).trans ?_
    rintro after (done | ⟨onTime, waiting⟩)
    · exact .now done
    · rw [e.waitFrom_eq waiting.lt_last] at counts
      refine (waiting.reaches_queued onTime (by omega) within).trans ?_
      rintro after ⟨onTime, cleared, d, queued⟩
      refine (queued.reaches_working onTime cleared).trans ?_
      rintro after ⟨onTime, cleared, d, working⟩
      exact ih (by omega) working onTime cleared (by omega)

private theorem Queued.reaches_plan {k T : Nat} {d : Delivery} (queued : w.Queued e k d) (onTime : w.By e T)
    (cleared : w.Cleared) (within : e.start ≤ Instant.latest) (counts : T + e.waitFrom (k + 1) < 2 ^ 64) :
    w.Reaches e (fun after => shown after.calls = e.plan) := by
  refine (queued.reaches_working onTime cleared).trans ?_
  rintro after ⟨onTime, cleared, d, working⟩
  exact working.reaches_plan e.last (Nat.le_add_right ..) onTime cleared within counts

private theorem Waiting.reaches_plan {k T : Nat} (waiting : w.Waiting e k) (onTime : w.By e T)
    (within : e.start ≤ Instant.latest) (counts : T + e.waitFrom k < 2 ^ 64) :
    w.Reaches e (fun after => shown after.calls = e.plan) := by
  rw [e.waitFrom_eq waiting.lt_last] at counts
  refine (waiting.reaches_queued onTime (by omega) within).trans ?_
  rintro after ⟨onTime, cleared, d, queued⟩
  exact queued.reaches_plan onTime cleared within (by omega)

/-- From every place there is a way to the end, unless the message was lost. -/
private theorem At.reaches_plan {been : DueEntry → Prop} (place : w.At e been) (sound : w.Sound e)
    (within : e.start ≤ Instant.latest) (counts : w.system.count + e.waitFrom 1 < 2 ^ 64) :
    w.Reaches e (fun after => shown after.calls = e.plan) ∨ ∃ x y, been x ∧ been y ∧ x.Collides y := by
  have onTime : w.By e w.system.count := ⟨sound, Nat.le_refl _⟩
  have shorter {k : Nat} (first : 1 ≤ k) : w.system.count + e.waitFrom k < 2 ^ 64 :=
    Nat.lt_of_le_of_lt (Nat.add_le_add_left (e.waitFrom_anti first) _) counts
  cases place with
  | apart k site cleared =>
    cases site with
    | queued d queued =>
      exact .inl (queued.reaches_plan onTime cleared within (shorter (Nat.le_add_left ..)))
    | working d working =>
      exact .inl (working.reaches_plan e.last (Nat.le_add_right ..) onTime cleared within (shorter (Nat.le_add_left ..)))
    | pending d id alarm pending =>
      exact .inl ((Waiting.pending d id alarm pending cleared).reaches_plan onTime within (shorter pending.first))
    | ended ended => exact .inl (.now ended.done)
    | lost lost =>
      rcases lost.excuse with collision | ⟨first, less, long⟩
      · exact .inr collision
      · have counted := shorter first
        rw [e.waitFrom_eq less] at counted
        exact absurd (canWait_of_slot (by omega)) long
  | stored k x m stored =>
    exact .inl ((Waiting.stored x m stored).reaches_plan onTime within (shorter stored.first))

/-- Once the message is nowhere any more, all planned calls were made, or its retry got lost. -/
private theorem At.done_of_settled {been : DueEntry → Prop} (place : w.At e been) (settled : w.Settled) :
    (e.Waited (e.last - 1) ∧ shown w.calls = e.plan) ∨
      (∃ k, 0 < k ∧ k < e.last ∧ e.Waited (k - 1) ∧ ¬ e.CanWait k ∧ shown w.calls = e.calls k) ∨
      ∃ x y, been x ∧ been y ∧ x.Collides y := by
  obtain ⟨none, nothing, empty⟩ := settled
  cases place with
  | apart k site =>
    cases site with
    | queued d queued => exact absurd (none.symm.trans queued.only) (by simp)
    | working d working => exact absurd (none.symm.trans working.only) (by simp)
    | pending d id alarm pending => exact absurd (nothing.symm.trans pending.pending) (by simp)
    | ended ended => exact .inl ⟨ended.waited, ended.done⟩
    | lost lost =>
      rcases lost.excuse with collision | ⟨first, less, long⟩
      · exact .inr (.inr collision)
      · exact .inr (.inl ⟨k, first, less, lost.waited, long, lost.course.seen⟩)
  | stored k x m stored =>
    have inside := stored.inside
    rw [empty] at inside
    cases inside

end Journey

namespace Errand

/-- In every run, on both routes, with any other tasks in the pool and in any order of acts, the handler and
those who are to learn of the end are called as planned: at any time a part of the plan is done. Once the message is
nowhere any more, all of the plan is done if the broker could count each wait; after the first wait that it could not
count the retry is lost, and no call follows. As long as the clock can count the waits that are left, the plan can be
carried out to its end. Two different entries of one digest would be an excuse. What the handler is called with is the
message as it was sent; only one that was sent in a stray leap second and comes out of the due store says otherwise of
that instant. -/
theorem run_follows_plan (e : Errand) (acts : List Journey.Act) :
    shown (e.run acts).calls <+: e.plan ∧
      ((e.run acts).Settled →
        (e.Waited (e.last - 1) ∧ shown (e.run acts).calls = e.plan) ∨
          (∃ k, 0 < k ∧ k < e.last ∧ e.Waited (k - 1) ∧ ¬ e.CanWait k ∧ shown (e.run acts).calls = e.calls k) ∨
          e.Collided acts) ∧
      (e.start ≤ Instant.latest → (e.run acts).system.count + e.waitFrom 1 < 2 ^ 64 →
        (∃ more, shown (e.run (acts ++ more)).calls = e.plan) ∨ e.Collided acts) ∧
      (e.config.route = .inProcess ∨ ¬ e.message.createdAt.IsStray → ∀ k, e.brought k = e.message) := by
  obtain ⟨sound, place⟩ := Journey.run_at e acts
  refine ⟨place.prefix_plan, place.done_of_settled, fun within counts => ?_, ?_⟩
  · rcases place.reaches_plan sound within counts with ⟨more, done⟩ | collision
    · refine .inl ⟨more, ?_⟩
      rw [e.run_append]
      exact done
    · exact .inr collision
  · rintro (inProcess | regular)
    · exact brought_of_inProcess inProcess
    · exact brought_of_regular regular

/-- A handler that fails at first and succeeds on its second call. -/
private def letter (route : RetryRoute) : Errand where
  start := .epoch
  config := ⟨.standard, route, .standard, .zero⟩
  registry := ⟨Table.empty.insert ⟨"orders", "created"⟩ [.new ⟨"orders", "created"⟩ "mailer"],
    Table.empty.insert "mailer" (.new ⟨"orders", "created"⟩ "mailer")⟩
  interceptors := 1
  polling := .standard
  message := ⟨"request", ⟨"orders", "created"⟩, [], 1, 0, 0, false, .timely, .epoch, none⟩
  trigger := .new ⟨"orders", "created"⟩ "mailer"
  endings k := if k = 1 then .error ⟨"unreachable"⟩ else .success
  steady := (by decide : (0.0 : Float) ≤ 0.0)
  pollable := rfl
  fresh := by decide
  registered := rfl

/-- Its way through the due store. -/
private def tour : List Journey.Act :=
  [.pickUp, .start 0, .finish 0 0, .passTo 3000000000, .poll, .poll, .poll, .poll, .pickUp, .start 1, .finish 1 0]

theorem run_follows_plan_letter :
    ((letter .delayStore).run tour).Settled ∧
      (shown ((letter .delayStore).run tour).calls = (letter .delayStore).plan ∨ (letter .delayStore).Collided tour) := by
  have settled : ((letter .delayStore).run tour).Settled :=
    ⟨by decide +kernel, by decide +kernel, by decide +kernel⟩
  have last : (letter .delayStore).last = 2 := by decide
  refine ⟨settled, ?_⟩
  rcases ((letter .delayStore).run_follows_plan tour).2.1 settled with ⟨_, done⟩ | ⟨k, first, less, _, long, _⟩ | collision
  · exact .inl done
  · obtain rfl : k = 1 := by omega
    exact absurd (by decide : (letter .delayStore).CanWait 1) long
  · exact .inr collision

/-- The same, with a wait that is longer by a second than the broker can count. -/
private def endless : Errand :=
  { letter .delayStore with
    config := ⟨⟨2, .ofSeconds 9223372036854776, .ofSeconds 9223372036854776, 0.0, .fixed⟩, .delayStore, .standard, .zero⟩
    steady := (by decide : (0.0 : Float) ≤ 0.0) }

/-- Its retry is lost: on a clock that has not moved, the message is nowhere, and its second call is never made. -/
theorem endless_wait_loses_retry :
    let last := endless.run [.pickUp, .start 0, .finish 0 0]
    last.Settled ∧ last.system.count = 0 ∧ shown last.calls = endless.calls 1 ∧ endless.plan = endless.calls 2 ∧
      shown last.calls ≠ endless.plan ∧ last.system.broker.delayedPublishes = 0 := by
  refine ⟨⟨by decide +kernel, by decide +kernel, by decide +kernel⟩, by decide +kernel, by decide +kernel,
    by decide +kernel, by decide +kernel, by decide +kernel⟩

end Errand
end Courier
