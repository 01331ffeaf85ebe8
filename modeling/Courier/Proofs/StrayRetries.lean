import Courier.Proofs.EngineActs
import Courier.Proofs.JourneyPolls

/-!
Retries that nobody waits for. A shutdown stops the timers and abandons the retries that the engine keeps, but
handlers that are at work go on, and one that fails now has its retry kept as before. No alarm is set for it any
more, and it is kept for good: after a shutdown the engine counts exactly the retries that came to it since.
-/
namespace Courier

namespace Engine

/-- Whether an engine is set up as before and keeps the same retries. -/
structure KeepsAs (e after : Engine) : Prop where
  config : after.config = e.config
  registry : after.registry = e.registry
  interceptors : after.interceptors = e.interceptors
  pending : after.pending = e.pending
  nextRetry : after.nextRetry = e.nextRetry
  timers : after.timersStopped = e.timersStopped

theorem KeepsAs.refl (e : Engine) : e.KeepsAs e := ⟨rfl, rfl, rfl, rfl, rfl, rfl⟩

theorem KeepsAs.trans {a b c : Engine} (ab : a.KeepsAs b) (bc : b.KeepsAs c) : a.KeepsAs c where
  config := bc.config.trans ab.config
  registry := bc.registry.trans ab.registry
  interceptors := bc.interceptors.trans ab.interceptors
  pending := bc.pending.trans ab.pending
  nextRetry := bc.nextRetry.trans ab.nextRetry
  timers := bc.timers.trans ab.timers

theorem keepsAs_deliver {e after : Engine} {m : Message} {t : Trigger} {now : Instant}
    (taken : e.deliver m t now = .ok after) : e.KeepsAs after := by
  rw [deliver_ok taken]
  exact ⟨rfl, rfl, rfl, rfl, rfl, rfl⟩

theorem keepsAs_dispatch (e : Engine) (m : Message) (now : Instant) : e.KeepsAs (e.dispatch m now).2 := by
  refine dispatch_keeps (P := e.KeepsAs) (fun b t after same taken => ?_) (.refl e)
  exact same.trans (keepsAs_deliver taken)

private theorem keepsAs_acknowledge (e : Engine) (ticket : Nat) (d : Delivery) (short : Bool) :
    e.KeepsAs (e.acknowledge ticket d short).1 := by
  unfold acknowledge
  split
  · exact ⟨rfl, rfl, rfl, rfl, rfl, rfl⟩
  · exact ⟨rfl, rfl, rfl, rfl, rfl, rfl⟩

theorem keepsAs_start (e : Engine) (ticket : Nat) (d : Delivery) (decide : Decisions) (now : Instant) :
    e.KeepsAs (e.start ticket d decide now).1 := by
  unfold start
  split
  · exact ⟨rfl, rfl, rfl, rfl, rfl, rfl⟩
  · exact ⟨rfl, rfl, rfl, rfl, rfl, rfl⟩
  · have counted : e.KeepsAs { e with shortCircuited := e.shortCircuited + 1 } := ⟨rfl, rfl, rfl, rfl, rfl, rfl⟩
    exact counted.trans (keepsAs_acknowledge _ ticket _ true)
  · exact ⟨rfl, rfl, rfl, rfl, rfl, rfl⟩

theorem keepsAs_finish (e : Engine) (ticket : Nat) (d : Delivery) (outcome : Except HandlerError Unit) (draw : Float) :
    e.KeepsAs (e.finish ticket d outcome draw).1 := by
  unfold finish
  split
  · exact keepsAs_acknowledge ..
  · simp only
    split
    · exact ⟨rfl, rfl, rfl, rfl, rfl, rfl⟩
    · exact ⟨rfl, rfl, rfl, rfl, rfl, rfl⟩
    · exact ⟨rfl, rfl, rfl, rfl, rfl, rfl⟩
    · exact ⟨rfl, rfl, rfl, rfl, rfl, rfl⟩

theorem registry_resubmit (e : Engine) (id : Nat) (draw : Float) : (e.resubmit id draw).1.registry = e.registry := by
  unfold resubmit
  split
  · rfl
  · split
    · rename_i after taken
      rw [submit_ok taken]
    · split
      · rfl
      · rfl

end Engine

namespace System

/-- The retry that an act leads to, if it is the end of a try that fails and is not the last one. -/
def retry? (s : System) : Act → Option (Delivery × Span)
  | .finish ticket outcome draw =>
    (s.engine.atWork? ticket).bind (fun d => (s.engine.finish ticket d outcome draw).2.2)
  | _ => none

/-- Whether an act leads to a retry that the engine has to keep: its retries do not wait elsewhere, or the broker
refuses this one. -/
def leavesRetry (s : System) (a : Act) : Bool :=
  match s.retry? a with
  | none => false
  | some (d, wait) =>
    match s.engine.config.route with
    | .inProcess => true
    | .delayStore =>
      match (s.publishRetry d wait).1 with
      | some (.error _) => true
      | _ => false

/-- A system since a shutdown has stopped its timers: there is no alarm for a retry, and the engine keeps some
number of retries. -/
structure Stopped (s : System) (kept : Nat) : Prop where
  timers : s.engine.timersStopped = true
  silent : ∀ alarm ∈ s.alarms.waiting, ∀ id, alarm.purpose ≠ .retry id
  numbered : ∀ id ∈ s.engine.pending.keys, id < s.engine.nextRetry
  kept : s.engine.pending.size = kept

theorem stopped_beginShutdown (s : System) : s.beginShutdown.Stopped 0 where
  timers := rfl
  silent alarm member id is := by
    have left := (List.mem_filter.mp member).2
    rw [is] at left
    cases left
  numbered id member := nomatch member
  kept := rfl

theorem Stopped.of_keepsAs {s after : System} {kept : Nat} (stopped : s.Stopped kept)
    (engine : s.engine.KeepsAs after.engine) (alarms : after.alarms.waiting ⊆ s.alarms.waiting) :
    after.Stopped kept where
  timers := engine.timers.trans stopped.timers
  silent alarm member := stopped.silent alarm (alarms member)
  numbered := by
    rw [engine.pending, engine.nextRetry]
    exact stopped.numbered
  kept := by
    rw [engine.pending]
    exact stopped.kept

/-- A retry that comes to wait once the timers are stopped is kept, and no alarm is set. -/
theorem Stopped.await {s : System} {kept : Nat} (stopped : s.Stopped kept) (d : Delivery) (wait : Span) :
    (s.await d wait).Stopped (kept + 1) := by
  have is : s.await d wait = { s with engine := (s.engine.await d).2 } := by
    have timers : (s.engine.await d).2.timersStopped = true := stopped.timers
    simp only [System.await]
    rw [if_pos timers]
  obtain ⟨entries, numbered⟩ := Engine.await_numbered stopped.numbered d
  rw [is]
  refine ⟨stopped.timers, stopped.silent, numbered, ?_⟩
  have size := entries.length_eq
  have before : s.engine.pending.entries.length = kept := stopped.kept
  rw [List.length_cons, before] at size
  exact size

private theorem Stopped.finish {s : System} {kept : Nat} (stopped : s.Stopped kept) (ticket : Nat)
    (outcome : Except HandlerError Unit) (draw : Float) :
    (s.act (.finish ticket outcome draw)).Stopped
      (kept + if s.leavesRetry (.finish ticket outcome draw) then 1 else 0) := by
  cases found : s.engine.atWork? ticket with
  | none => simpa [act, leavesRetry, retry?, found] using stopped
  | some d =>
    have engine := s.engine.keepsAs_finish ticket d outcome draw
    simp only [act, found, System.finish, leavesRetry, retry?, Option.bind_some]
    generalize s.engine.finish ticket d outcome draw = result at engine ⊢
    obtain ⟨after, calls, retry⟩ := result
    have next : ({ s with engine := after } : System).Stopped kept := stopped.of_keepsAs engine (List.Subset.refl _)
    cases retry with
    | none => exact next
    | some retry =>
      obtain ⟨d', wait⟩ := retry
      have route : after.config.route = s.engine.config.route := congrArg EngineConfig.route engine.config
      simp only [scheduleRetry, route]
      cases s.engine.config.route with
      | inProcess => exact next.await d' wait
      | delayStore =>
        -- the broker answers as it would have before the try ended
        have published : (({ s with engine := after } : System).publishRetry d' wait).1 = (s.publishRetry d' wait).1 :=
          rfl
        obtain ⟨broker, is, _⟩ := ({ s with engine := after } : System).publishRetry_spec d' wait
        have there : ({ s with engine := after, broker } : System).Stopped kept :=
          next.of_keepsAs (.refl _) (List.Subset.refl _)
        simp only [← published]
        generalize ({ s with engine := after } : System).publishRetry d' wait = answer at is ⊢
        obtain ⟨told, system⟩ := answer
        simp only at is
        rw [is]
        cases told with
        | none => exact there
        | some result =>
          cases result with
          | ok => exact there
          | error why => exact there.await d' wait

/-- Once the timers are stopped, the engine keeps the retries that come to it, and nothing else becomes of them. -/
theorem Stopped.act {s : System} {kept : Nat} (stopped : s.Stopped kept) {a : Act} (other : a ≠ .beginShutdown) :
    (s.act a).Stopped (kept + if s.leavesRetry a then 1 else 0) := by
  have same {after : System} (engine : s.engine.KeepsAs after.engine) (alarms : after.alarms.waiting ⊆ s.alarms.waiting) :
      after.Stopped kept := stopped.of_keepsAs engine alarms
  cases a with
  | insert e => exact same (.refl _) (List.Subset.refl _)
  | takeOut e => exact same (.refl _) (List.Subset.refl _)
  | claim e ttl => exact same (.refl _) (List.Subset.refl _)
  | failFetches why => exact same (.refl _) (List.Subset.refl _)
  | publish m => exact same (.refl _) (List.Subset.refl _)
  | publishDelayed m seconds => exact same (.refl _) (List.Subset.refl _)
  | failPublishes why => exact same (.refl _) (List.Subset.refl _)
  | receive => exact same (.refl _) (List.Subset.refl _)
  | dropReceiver => exact same (.refl _) (List.Subset.refl _)
  | dispatch m => exact same (s.engine.keepsAs_dispatch m s.now) (List.Subset.refl _)
  | deliver m t =>
    refine @same (s.act (.deliver m t)) ?_ ?_
    · simp only [System.act, deliver]
      split
      · rename_i engine taken
        exact Engine.keepsAs_deliver taken
      · exact .refl _
    · simp only [System.act, deliver]
      split <;> exact List.Subset.refl _
  | occupy name limit =>
    simp only [System.act]
    split
    · exact same ⟨rfl, rfl, rfl, rfl, rfl, rfl⟩ (List.Subset.refl _)
    · exact stopped
  | pickUp =>
    simp only [System.act, pickUp]
    cases s.engine.pool.pickUp with
    | none => exact stopped
    | some found => exact same ⟨rfl, rfl, rfl, rfl, rfl, rfl⟩ (List.Subset.refl _)
  | start ticket decide =>
    simp only [System.act]
    split
    · exact same (s.engine.keepsAs_start ..) (List.Subset.refl _)
    · exact stopped
  | finish ticket outcome draw => exact stopped.finish ticket outcome draw
  | release ticket => exact same ⟨rfl, rfl, rfl, rfl, rfl, rfl⟩ (List.Subset.refl _)
  | ring place draw =>
    simp only [System.act]
    split
    · rename_i alarm due
      have waits := (Alarms.dueAt?_some due).1
      unfold goOff
      split
      · rename_i id purpose
        exact absurd purpose (stopped.silent alarm waits id)
      · exact same (.refl _) (List.filter_subset_self _)
    · exact stopped
  | passTo count => exact same (.refl _) (List.Subset.refl _)
  | stopAccepting => exact same ⟨rfl, rfl, rfl, rfl, rfl, rfl⟩ (List.Subset.refl _)
  | beginShutdown => exact absurd rfl other
  | timeOut => exact same ⟨rfl, rfl, rfl, rfl, rfl, rfl⟩ (List.Subset.refl _)
  | endShutdown => exact same ⟨rfl, rfl, rfl, rfl, rfl, rfl⟩ (List.Subset.refl _)

/-! ### The registry -/

private theorem registry_scheduleRetry (s : System) (d : Delivery) (wait : Span) :
    (s.scheduleRetry d wait).engine.registry = s.engine.registry := by
  rcases s.engine_scheduleRetry d wait with same | kept
  · rw [same]
  · rw [kept]
    rfl

private theorem registry_finish (s : System) (ticket : Nat) (d : Delivery) (outcome : Except HandlerError Unit)
    (draw : Float) : (s.finish ticket d outcome draw).1.engine.registry = s.engine.registry := by
  have same := (s.engine.keepsAs_finish ticket d outcome draw).registry
  unfold finish
  generalize s.engine.finish ticket d outcome draw = result at same ⊢
  obtain ⟨engine, calls, retry⟩ := result
  cases retry with
  | none => exact same
  | some retry => exact (registry_scheduleRetry { s with engine } retry.1 retry.2).trans same

/-- Nothing that happens changes who the handlers are. -/
theorem registry_act (s : System) (a : Act) : (s.act a).engine.registry = s.engine.registry := by
  cases a with
  | insert e => rfl
  | takeOut e => rfl
  | claim e ttl => rfl
  | failFetches why => rfl
  | publish m => rfl
  | publishDelayed m seconds => rfl
  | failPublishes why => rfl
  | receive => rfl
  | dropReceiver => rfl
  | dispatch m => exact (s.engine.keepsAs_dispatch m s.now).registry
  | deliver m t =>
    simp only [act, deliver]
    split
    · rename_i engine taken
      exact (Engine.keepsAs_deliver taken).registry
    · rfl
  | occupy name limit =>
    simp only [act]
    split <;> rfl
  | pickUp =>
    simp only [act, pickUp]
    cases s.engine.pool.pickUp <;> rfl
  | start ticket decide =>
    simp only [act]
    split
    · exact (s.engine.keepsAs_start ..).registry
    · rfl
  | finish ticket outcome draw =>
    simp only [act]
    split
    · exact s.registry_finish ..
    · rfl
  | release ticket => rfl
  | ring place draw =>
    simp only [act]
    split
    · rename_i alarm _
      obtain ⟨engine, alarms, is, rfl | ⟨id, _, rfl⟩⟩ := s.goOff_spec alarm draw
      · rw [is]
      · rw [is]
        exact s.engine.registry_resubmit id draw
    · rfl
  | passTo count => rfl
  | stopAccepting => rfl
  | beginShutdown => rfl
  | timeOut => rfl
  | endShutdown => rfl

end System

namespace Depot

/-- Whether what happens in a depot leads to a retry that the engine has to keep. -/
def leavesRetry (w : Depot) : Act → Bool
  | .outside a => w.system.leavesRetry a
  | _ => false

/-- How many retries the engine has to keep in the course of a run. -/
def retriesLeft : Depot → List Act → Nat
  | _, [] => 0
  | w, a :: rest => (if w.leavesRetry a then 1 else 0) + retriesLeft (w.act a) rest

/-- A poll leaves the clock and the alarms alone, and the engine as well unless it hands a message over. -/
theorem keeps_poll (w : Depot) {a : Act} (inside : ∀ b, a ≠ .outside b) :
    (w.act a).system.clock = w.system.clock ∧ (w.act a).system.alarms = w.system.alarms ∧
      ((w.act a).system.engine = w.system.engine ∨
        ∃ m, (w.act a).system.engine = (w.system.engine.dispatch m w.system.now).2) := by
  cases a with
  | outside b => exact absurd rfl (inside b)
  | beginPoll place =>
    have system : (w.beginPoll place).system = w.system := by
      rcases w.beginPoll_cases place with same | ⟨poll, _, _, started⟩
      · rw [same]
      · rw [started]
    simp only [act, system]
    exact ⟨trivial, trivial, .inl trivial⟩
  | go k =>
    simp only [act]
    unfold go
    split
    · exact ⟨rfl, rfl, .inl rfl⟩
    · rename_i r _
      split
      · exact ⟨rfl, rfl, .inl rfl⟩
      · rename_i p _
        have keeps := Poll.keeps_step r.poll p w.system
        refine ⟨keeps.clock, keeps.alarms, ?_⟩
        have engine := Poll.engine_step r.poll p w.system
        unfold handover? at engine
        split at engine
        · split at engine
          · exact .inr ⟨_, engine⟩
          · exact .inl engine
        · exact .inl engine

/-- A poll keeps the engine's settings and its retries. -/
theorem keepsAs_poll (w : Depot) {a : Act} (inside : ∀ b, a ≠ .outside b) :
    w.system.engine.KeepsAs (w.act a).system.engine := by
  rcases (w.keeps_poll inside).2.2 with same | ⟨m, same⟩
  · rw [same]
    exact .refl _
  · rw [same]
    exact Engine.keepsAs_dispatch ..

theorem stopped_run {w : Depot} {kept : Nat} (stopped : w.system.Stopped kept) {acts : List Act}
    (once : .outside .beginShutdown ∉ acts) : (w.run acts).system.Stopped (kept + w.retriesLeft acts) := by
  induction acts generalizing w kept with
  | nil => exact stopped
  | cons a rest ih =>
    have next : (w.act a).system.Stopped (kept + if w.leavesRetry a then 1 else 0) := by
      have poll {a : Act} (inside : ∀ b, a ≠ .outside b) : (w.act a).system.Stopped kept := by
        refine stopped.of_keepsAs (w.keepsAs_poll inside) ?_
        rw [(w.keeps_poll inside).2.1]
        exact List.Subset.refl _
      cases a with
      | beginPoll place => exact poll (by simp)
      | go k => exact poll (by simp)
      | outside a =>
        refine stopped.act (fun again => once ?_)
        rw [again]
        exact List.mem_cons_self
    rw [retriesLeft, ← Nat.add_assoc]
    exact ih next (fun member => once (List.mem_cons_of_mem _ member))

/-- From the moment a shutdown starts, and after it has ended in whatever way, the retries that the engine counts
as pending are those that came to it since. None of those before is left, and none of those since ever goes. -/
theorem retries_kept_since_shutdown (w : Depot) {later : List Act} (once : .outside .beginShutdown ∉ later) :
    let mid := w.act (.outside .beginShutdown)
    (mid.run later).system.engine.stats.pendingRetries = mid.retriesLeft later := by
  intro mid
  have stopped := stopped_run (w := mid) w.system.stopped_beginShutdown once
  exact stopped.kept.trans (Nat.zero_add _)

private def errandBoy : Trigger := .new ⟨"orders", "created"⟩ "mailer"

private def lateLetter : Message := ⟨"request", ⟨"orders", "created"⟩, [], 1, 0, 0, false, .timely, .epoch, none⟩

/-- A depot with a handler that is at work. -/
private def busy : Depot :=
  (opened (.new .epoch (.new ⟨.standard, .inProcess, .standard, .zero⟩ .empty 0)) []).run
    [.outside (.deliver lateLetter errandBoy), .outside .pickUp, .outside (.start 0 (fun _ _ => .proceed))]

/-- The handler fails while the pool is drained, and the shutdown ends. -/
private def failure : List Act := [.outside (.finish 0 (.error ⟨"unreachable"⟩) 0), .outside .endShutdown]

theorem retries_kept_since_shutdown_failure :
    let mid := busy.act (.outside .beginShutdown)
    .outside .beginShutdown ∉ failure ∧ mid.retriesLeft failure = 1 ∧
      (mid.run failure).system.engine.stats.pendingRetries = 1 := by
  have once : .outside .beginShutdown ∉ failure := by simp [failure]
  have left : (busy.act (.outside .beginShutdown)).retriesLeft failure = 1 := by decide +kernel
  exact ⟨once, left, (retries_kept_since_shutdown busy once).trans left⟩

/-- A shutdown that ends well, with the pool drained and no alarm left, after which a retry is pending. -/
theorem retry_pending_after_shutdown :
    let draining := (busy.act (.outside .beginShutdown)).act (.outside (.finish 0 (.error ⟨"unreachable"⟩) 0))
    let last := draining.act (.outside .endShutdown)
    draining.system.endShutdown.1 = .ok () ∧ last.system.engine.pool.outstanding = 0 ∧
      last.system.alarms.waiting = [] ∧ last.system.engine.stats.pendingRetries = 1 := by
  decide +kernel

end Depot
end Courier
