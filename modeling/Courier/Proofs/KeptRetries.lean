import Courier.Proofs.Chronicles
import Courier.Proofs.JourneyEnds

/-!
The way of an errand's message if its retries wait in process. The engine keeps the message then, so that none of its
tries gets lost: it is in the pool, with its handler, on an alarm or at its end (`Journey.Kept`). An alarm may stand at
a deadline that no clock can count to. Such an alarm goes off too, only nobody can say when (`Errand.Move.outlast`), so
that there is a way to the end under every policy, however long it waits.
-/
namespace Courier

namespace Errand

/-- Something that happens on the way, on the clock or past what it can count. -/
inductive Move
  | act (a : Journey.Act)
  | outlast (place : Nat) (draw : Float)

def move (e : Errand) (w : Journey) : Move → Journey
  | .act a => e.act w a
  | .outlast place draw => w.withSystem (w.system.outlast place draw)

/-- The journey after some moves. -/
def travel (e : Errand) (moves : List Move) : Journey := moves.foldl e.move e.begun

theorem travel_append (e : Errand) (before after : List Move) :
    e.travel (before ++ after) = after.foldl e.move (e.travel before) :=
  List.foldl_append ..

end Errand

namespace Journey

variable {e : Errand} {w after : Journey}

/-! ### Places -/

/-- Where the message is if the engine keeps it. -/
inductive Home (e : Errand) (w : Journey) : Prop
  | queued (k : Nat) (d : Delivery) (queued : w.Queued e k d)
  | working (k : Nat) (d : Delivery) (working : w.Working e k d)
  | pending (k : Nat) (d : Delivery) (id : Nat) (alarm : Alarm Purpose) (pending : w.Pending e k d id alarm)
  | ended (ended : w.Over e)

/-- A journey on which the engine keeps the message, and the store is empty. -/
structure Kept (e : Errand) (w : Journey) : Prop where
  sound : w.Sound e
  cleared : w.Cleared
  empty : w.entries = []
  home : w.Home e

theorem Home.lasts (home : w.Home e) (lasts : w.Lasts after) : after.Home e := by
  cases home with
  | queued k d queued => exact .queued k d (lasts.queued queued)
  | working k d working => exact .working k d (lasts.working working)
  | pending k d id alarm pending => exact .pending k d id alarm (lasts.pending_ pending)
  | ended ended => exact .ended (lasts.over_after ended)

theorem Home.prefix_plan (home : w.Home e) : shown w.calls <+: e.plan := by
  cases home with
  | queued k d queued => exact queued.course.prefix_plan (Nat.le_succ k)
  | working k d working => exact working.course.prefix_plan (Nat.le_refl _)
  | pending k d id alarm pending => exact pending.course.prefix_plan (Nat.le_succ k)
  | ended ended => exact ended.done ▸ List.prefix_refl _

namespace Kept

theorem stays (kept : w.Kept e) (next : after.Sound e ∧ w.Stays after) : after.Kept e :=
  ⟨next.1, next.2.cleared kept.cleared, next.2.entries.trans kept.empty, kept.home.lasts next.2.toLasts⟩

theorem rests (kept : w.Kept e) (sound : after.Sound e) (rests : w.Rests after) (home : after.Home e) : after.Kept e :=
  ⟨sound, rests.cleared kept.cleared, rests.entries.trans kept.empty, home⟩

theorem idle (kept : w.Kept e) (same : after = w) : after.Kept e := by
  rw [same]
  exact kept

/-- A message in the pool is in the line for a worker or with its handler. -/
private theorem of_mem (kept : w.Kept e) {d : Delivery} (inside : d ∈ w.deliveries) :
    ∃ k, w.Queued e k d ∨ w.Working e k d := by
  have elsewhere (none : w.deliveries = []) : False := by
    rw [none] at inside
    cases inside
  cases kept.home with
  | queued k other queued =>
    obtain rfl : d = other := by simpa [queued.only] using inside
    exact ⟨k, .inl queued⟩
  | working k other working =>
    obtain rfl : d = other := by simpa [working.only] using inside
    exact ⟨k, .inr working⟩
  | pending k other id alarm pending => exact (elsewhere pending.none).elim
  | ended ended => exact (elsewhere ended.none).elim

end Kept

/-! ### Acts -/

/-- When the handler is done, the message is at its end or on an alarm. -/
theorem Working.ends_or_waits (inProcess : e.config.route = .inProcess) (kept : w.Kept e) {k : Nat} {d : Delivery}
    (working : w.Working e k d) {ticket : Nat} (found : w.system.engine.atWork? ticket = some d) (draw : Float) :
    (e.act w (.finish ticket draw)).Kept e ∧
      ((e.act w (.finish ticket draw)).Over e ∨
        ∃ d id alarm, (e.act w (.finish ticket draw)).Pending e (k + 1) d id alarm) := by
  rcases working.ends_or_fails kept.sound kept.cleared found draw with
    ⟨sound, ended, rests⟩ | ⟨mid, next, sound, failed, rests, is⟩
  · exact ⟨kept.rests sound rests (.ended ended), .inl ended⟩
  · have route : mid.system.engine.config.route = .inProcess := by rw [sound.config, inProcess]
    have waiting : mid.system.scheduleRetry next (e.config.policy.backoff (k + 1).toUInt32) =
        mid.system.await next (e.config.policy.backoff (k + 1).toUInt32) := by
      simp only [System.scheduleRetry, route]
    rw [is, waiting]
    obtain ⟨sound', rests', id, alarm, pending⟩ := failed.await inProcess sound
    refine ⟨⟨sound', rests'.cleared failed.cleared, ?_, .pending _ _ id alarm pending⟩, .inr ⟨_, id, alarm, pending⟩⟩
    exact rests'.entries.trans (rests.entries.trans kept.empty)

/-- An alarm past what the clock can count brings the message back to the pool, unless the pool is full. -/
theorem Pending.outlast (sound : w.Sound e) {k : Nat} {d : Delivery} {id : Nat} {alarm other : Alarm Purpose}
    (pending : w.Pending e k d id alarm) {place : Nat} (far : w.system.alarms.beyondAt? place = some other)
    (draw : Float) :
    (e.move w (.outlast place draw)).Sound e ∧ w.Rests (e.move w (.outlast place draw)) ∧
      ((e.move w (.outlast place draw)).Queued e k d ∨
        (w.system.engine.pool.config.capacity ≤ w.system.engine.pool.outstanding ∧
          ∃ next, (e.move w (.outlast place draw)).Pending e k d id next)) := by
  obtain rfl : other = alarm := by simpa [pending.alarms] using (Alarms.beyondAt?_some far).1
  refine pending.resubmit sound draw ?_
  simp only [Errand.move, System.outlast, far, pending.goOff_eq]

namespace Kept

theorem start (kept : w.Kept e) (ticket : Nat) : (e.act w (.start ticket)).Kept e := by
  cases found : w.system.engine.atWork? ticket with
  | none =>
    have same : e.act w (.start ticket) = w := by simp only [Errand.act, found]
    exact kept.idle same
  | some d =>
    obtain ⟨k, queued | working⟩ := kept.of_mem (Engine.mem_deliveries_of_atWork? found)
    · obtain ⟨sound, rests, next, working⟩ := queued.start kept.sound found
      exact kept.rests sound rests (.working k next working)
    · have same : e.act w (.start ticket) = w := by simp only [Errand.act, found, working.atWork.state, if_true]
      exact kept.idle same

theorem finish (inProcess : e.config.route = .inProcess) (kept : w.Kept e) (ticket : Nat) (draw : Float) :
    (e.act w (.finish ticket draw)).Kept e := by
  cases found : w.system.engine.atWork? ticket with
  | none =>
    have same : e.act w (.finish ticket draw) = w := by simp only [Errand.act, found]
    exact kept.idle same
  | some d =>
    obtain ⟨k, queued | working⟩ := kept.of_mem (Engine.mem_deliveries_of_atWork? found)
    · have same : e.act w (.finish ticket draw) = w := by
        simp only [Errand.act, found, queued.waits.state_ne, if_false]
      exact kept.idle same
    · exact (working.ends_or_waits inProcess kept found draw).1

/-- No alarm stands but that of the message. -/
private theorem pending_or_silent (kept : w.Kept e) :
    (∃ k d id alarm, w.Pending e k d id alarm) ∨ w.system.alarms.waiting = [] := by
  cases kept.home with
  | queued k d queued => exact .inr queued.quiet.alarms
  | working k d working => exact .inr working.quiet.alarms
  | pending k d id alarm pending => exact .inl ⟨k, d, id, alarm, pending⟩
  | ended ended => exact .inr ended.quiet.alarms

theorem ring (kept : w.Kept e) (place : Nat) (draw : Float) : (e.act w (.ring place draw)).Kept e := by
  cases due : w.system.alarms.dueAt? place w.system.count with
  | none => exact kept.idle (act_ring_of_none due draw)
  | some other =>
    rcases kept.pending_or_silent with ⟨k, d, id, alarm, pending⟩ | silent
    · obtain ⟨sound, rests, queued | ⟨_, next, pending⟩⟩ := pending.rings kept.sound due draw
      · exact kept.rests sound rests (.queued k d queued)
      · exact kept.rests sound rests (.pending k d id next pending)
    · exact absurd (Alarms.dueAt?_some due).1 (silent ▸ List.not_mem_nil)

theorem outlast (kept : w.Kept e) (place : Nat) (draw : Float) : (e.move w (.outlast place draw)).Kept e := by
  cases far : w.system.alarms.beyondAt? place with
  | none =>
    have same : e.move w (.outlast place draw) = w := by
      simp only [Errand.move, System.outlast, far]
      rfl
    exact kept.idle same
  | some other =>
    rcases kept.pending_or_silent with ⟨k, d, id, alarm, pending⟩ | silent
    · obtain ⟨sound, rests, queued | ⟨_, next, pending⟩⟩ := pending.outlast kept.sound far draw
      · exact kept.rests sound rests (.queued k d queued)
      · exact kept.rests sound rests (.pending k d id next pending)
    · exact absurd (Alarms.beyondAt?_some far).1 (silent ▸ List.not_mem_nil)

/-- A poller finds nothing. -/
theorem goOn (kept : w.Kept e) : w.goOn.Kept e := by
  obtain ⟨sound, lasts, cleared, free⟩ := cleared_goOn kept.sound kept.cleared
  refine ⟨sound, cleared, List.eq_nil_iff_forall_not_mem.mpr (fun z inside => ?_), kept.home.lasts lasts⟩
  obtain ⟨y, clearing, _⟩ := cleared.entries z inside
  exact absurd clearing (free y).2

/-- Whatever happens, the engine keeps the message. -/
theorem move (inProcess : e.config.route = .inProcess) (kept : w.Kept e) (m : Errand.Move) : (e.move w m).Kept e := by
  cases m with
  | outlast place draw => exact kept.outlast place draw
  | act a =>
    cases a with
    | occupy name limit => exact kept.stays (occupy kept.sound name limit)
    | pickUp => exact kept.stays (pickUp kept.sound)
    | start ticket => exact kept.start ticket
    | finish ticket draw => exact kept.finish inProcess ticket draw
    | release ticket => exact kept.stays (release kept.sound ticket)
    | ring place draw => exact kept.ring place draw
    | poll => exact kept.goOn
    | passTo count => exact kept.stays (passTo kept.sound count)

end Kept

theorem kept_begun (e : Errand) : e.begun.Kept e := by
  obtain ⟨sound, empty, rest, free, d, queued⟩ := begun_queued e
  exact ⟨sound, ⟨rest, fun x => (free x).1, fun z inside => absurd (empty ▸ inside) List.not_mem_nil⟩, empty,
    .queued 0 d queued⟩

theorem Kept.moves (inProcess : e.config.route = .inProcess) (kept : w.Kept e) (moves : List Errand.Move) :
    (moves.foldl e.move w).Kept e := by
  induction moves generalizing w with
  | nil => exact kept
  | cons m rest ih => exact ih (kept.move inProcess m)

/-- The engine keeps the message in the course of a run. -/
theorem kept_travel (inProcess : e.config.route = .inProcess) (moves : List Errand.Move) : (e.travel moves).Kept e :=
  (kept_begun e).moves inProcess moves

/-! ### The way to the end -/

/-- Whether some moves lead to a journey with a property. -/
def Attains (w : Journey) (e : Errand) (goal : Journey → Prop) : Prop :=
  ∃ moves : List Errand.Move, goal (moves.foldl e.move w)

namespace Attains
variable {goal : Journey → Prop}

theorem now (here : goal w) : w.Attains e goal := ⟨[], here⟩

theorem after_move (m : Errand.Move) (there : (e.move w m).Attains e goal) : w.Attains e goal := by
  obtain ⟨moves, attained⟩ := there
  exact ⟨m :: moves, attained⟩

theorem of_reaches (there : w.Reaches e goal) : w.Attains e goal := by
  obtain ⟨acts, reached⟩ := there
  refine ⟨acts.map .act, ?_⟩
  rw [List.foldl_map]
  exact reached

/-- The engine keeps the message on any way. -/
theorem trans (inProcess : e.config.route = .inProcess) (kept : w.Kept e) {half : Journey → Prop}
    (there : w.Attains e half) (on : ∀ after, after.Kept e → half after → after.Attains e goal) : w.Attains e goal := by
  obtain ⟨moves, attained⟩ := there
  obtain ⟨more, attained⟩ := on _ (kept.moves inProcess moves) attained
  exact ⟨moves ++ more, by rw [List.foldl_append]; exact attained⟩

end Attains

/-- The alarm can bring the message back to the pool, once that has nothing else to do. -/
private theorem Pending.comes_back (kept : w.Kept e) {k : Nat} {d : Delivery} {id : Nat} {alarm : Alarm Purpose}
    (pending : w.Pending e k d id alarm) (none : w.system.engine.pool.tasks = []) :
    w.Attains e (fun after => ∃ d, after.Queued e k d) := by
  have room := kept.sound.pool.outstanding_lt none
  by_cases late : 2 ^ 64 ≤ alarm.deadline
  · have far : w.system.alarms.beyondAt? 0 = some alarm := by
      simpa [Alarms.beyondAt?, pending.alarms] using late
    refine .after_move (.outlast 0 0) (.now ?_)
    obtain ⟨_, _, queued | ⟨full, _⟩⟩ := pending.outlast kept.sound far 0
    · exact ⟨d, queued⟩
    · omega
  · have counted : w.system.count < 2 ^ 64 := w.system.clock.elapsed.toNat_lt
    have onTime : w.By e w.system.count := ⟨kept.sound, Nat.le_refl _⟩
    obtain ⟨sound, stays, count, engine, _⟩ :=
      onTime.pass (Nat.le_max_left w.system.count alarm.deadline) (by omega)
    refine .after_move (.act (.passTo (max w.system.count alarm.deadline))) (.after_move (.act (.ring 0 0)) (.now ?_))
    have ended : alarm.deadline ≤ (e.act w (.passTo (max w.system.count alarm.deadline))).system.count := by
      rw [count]
      exact Nat.le_max_right ..
    obtain ⟨_, _, queued | ⟨full, _⟩⟩ := (stays.pending_ pending).ring sound ended 0
    · exact ⟨d, queued⟩
    · rw [engine] at full
      omega

section
variable (inProcess : e.config.route = .inProcess)
include inProcess

theorem Queued.attains_working (kept : w.Kept e) {k : Nat} {d : Delivery} (queued : w.Queued e k d) :
    w.Attains e (fun after => ∃ d, after.Working e k d) := by
  refine (Attains.of_reaches (queued.reaches_working ⟨kept.sound, Nat.le_refl _⟩ kept.cleared)).trans inProcess kept ?_
  rintro after kept ⟨_, _, working⟩
  exact .now working

theorem Pending.attains_working (kept : w.Kept e) {k : Nat} {d : Delivery} {id : Nat} {alarm : Alarm Purpose}
    (pending : w.Pending e k d id alarm) : w.Attains e (fun after => ∃ d, after.Working e k d) := by
  refine (Attains.of_reaches (drain kept.sound)).trans inProcess kept (fun mid kept drained => ?_)
  have waits := drained.stays.pending_ pending
  refine (waits.comes_back kept (drained.tasks pending.none)).trans inProcess kept ?_
  rintro after kept ⟨d, queued⟩
  exact queued.attains_working inProcess kept

/-- From a call of the handler there is a way to the end. The induction is on the calls that are left. -/
private theorem Working.attains_end (n : Nat) {k : Nat} {d : Delivery} (left : e.tries ≤ n + k) (kept : w.Kept e)
    (working : w.Working e k d) : w.Attains e (Over e) := by
  induction n generalizing w k d with
  | zero =>
    have allowed := working.course.allowed
    omega
  | succ n ih =>
    obtain ⟨job, inside, is⟩ := working.held
    refine .after_move (.act (.finish job.ticket 0)) ?_
    obtain ⟨kept, ended | ⟨d, id, alarm, pending⟩⟩ :=
      working.ends_or_waits inProcess kept (atWork_of_held kept.sound inside is) 0
    · exact .now ended
    · refine (pending.attains_working inProcess kept).trans inProcess kept ?_
      rintro after kept ⟨d, working⟩
      exact ih (by omega) kept working

/-- From every place there is a way to the end. -/
theorem Kept.attains_end (kept : w.Kept e) : w.Attains e (Over e) := by
  have by_handler (there : w.Attains e (fun after => ∃ k d, after.Working e k d)) : w.Attains e (Over e) := by
    refine there.trans inProcess kept ?_
    rintro after kept ⟨k, d, working⟩
    exact working.attains_end inProcess e.tries (Nat.le_add_right ..) kept
  cases kept.home with
  | queued k d queued =>
    obtain ⟨moves, working⟩ := queued.attains_working inProcess kept
    exact by_handler ⟨moves, k, working⟩
  | working k d working => exact by_handler (.now ⟨k, d, working⟩)
  | pending k d id alarm pending =>
    obtain ⟨moves, working⟩ := pending.attains_working inProcess kept
    exact by_handler ⟨moves, k, working⟩
  | ended ended => exact .now ended

end

/-! ### How often the handler is called -/

theorem handlerCalls_plan (e : Errand) : handlerCalls e.plan = e.last := by
  rw [Errand.plan, handlerCalls_append, handlerCalls_planned]
  cases e.firstSuccess? with
  | some k => rfl
  | none =>
    cases (e.endings e.tries).failure? with
    | none => rfl
    | some why =>
      show e.last + handlerCalls (e.regret why) = e.last
      unfold Errand.regret
      split <;> rfl

theorem Home.handled_le (home : w.Home e) : w.handled ≤ e.last := by
  rw [handled_eq_handlerCalls, ← handlerCalls_plan e]
  exact home.prefix_plan.sublist.countP_le

theorem Over.handled_eq (ended : w.Over e) : w.handled = e.last := by
  rw [handled_eq_handlerCalls, ended.done, handlerCalls_plan]

/-- The message is nowhere any more just if it is at its end. -/
theorem Kept.settled_iff (kept : w.Kept e) : w.Settled ↔ w.Over e := by
  refine ⟨fun settled => ?_, fun ended => ⟨ended.none, ended.quiet.pending, kept.empty⟩⟩
  obtain ⟨none, nothing, _⟩ := settled
  cases kept.home with
  | queued k d queued => exact absurd (none.symm.trans queued.only) (by simp)
  | working k d working => exact absurd (none.symm.trans working.only) (by simp)
  | pending k d id alarm pending => exact absurd (nothing.symm.trans pending.pending) (by simp)
  | ended ended => exact ended

end Journey

namespace Errand

theorem last_of_failing {e : Errand} (fails : ∀ k, (e.endings k).failure? ≠ none) : e.last = e.tries := by
  have first : e.firstSuccess? = none := by
    refine List.find?_range'_eq_none.mpr (fun k _ _ => ?_)
    simpa [Option.isSome_iff_ne_none] using fails k
  rw [last, first, Option.getD_none]

/-- A handler that always fails is never called more often than is allowed, has been called that often once the message
is nowhere any more, and at any time can still be. -/
theorem failing_handler_is_called_as_allowed (e : Errand) (inProcess : e.config.route = .inProcess)
    (fails : ∀ k, (e.endings k).failure? ≠ none) (moves : List Move) :
    (e.travel moves).handled ≤ e.tries ∧ ((e.travel moves).Settled → (e.travel moves).handled = e.tries) ∧
      ∃ more, (e.travel (moves ++ more)).Settled ∧ (e.travel (moves ++ more)).handled = e.tries := by
  have kept := Journey.kept_travel inProcess moves
  rw [← last_of_failing fails]
  refine ⟨kept.home.handled_le, fun settled => (kept.settled_iff.mp settled).handled_eq, ?_⟩
  obtain ⟨more, ended⟩ := kept.attains_end inProcess
  have late := Journey.kept_travel inProcess (moves ++ more)
  rw [← e.travel_append] at ended
  exact ⟨more, late.settled_iff.mpr ended, ended.handled_eq⟩

end Errand
end Courier
