import Courier.Proofs.Chronicles
import Courier.Proofs.TryCalls

/-!
The logbook of a depot: which deliveries have come in, and what is written down about each of them. A worker starts a
delivery that it holds once, and is done with it once the handler is. As long as nobody shuts the engine down, each
delivery of which more is to come is in the pool or waits for its next try, and an act moves one of them on at a time
(`Engine.Passes`).
-/
namespace Courier

namespace Engine
variable {e after last : Engine}

/-! ### Deliveries under way -/

/-- The deliveries of which more is to come: those in the pool and those that wait for their next try. -/
def underway (e : Engine) : List Delivery := e.pool.deliveries ++ e.pending.entries.map Prod.snd

/-- Whether some deliveries have come in, with serial numbers of their own. -/
structure Gains (e after : Engine) (new : List Delivery) : Prop where
  pool : after.pool.deliveries.Perm (new ++ e.pool.deliveries)
  pending : after.pending = e.pending
  fresh : ∀ d ∈ new, d.attempt.state = .pending
  serials : new.map Delivery.serial = List.range' e.dispatched new.length
  counted : after.dispatched = e.dispatched + new.length

theorem gains_refl (e : Engine) : e.Gains e [] where
  pool := .refl _
  pending := rfl
  fresh _ member := nomatch member
  serials := rfl
  counted := rfl

theorem Gains.deliver {new : List Delivery} (gains : e.Gains after new) {m : Message} {t : Trigger} {now : Instant}
    (taken : after.deliver m t now = .ok last) :
    e.Gains last (new ++ [⟨after.dispatched, m, t, .new m t.handlerId now⟩]) := by
  obtain ⟨pool, offered, rfl⟩ := deliver_pool taken
  have entered := Pool.deliveries_submit offered
  constructor
  · show pool.deliveries.Perm _
    refine entered.trans ((gains.pool.cons _).trans ?_)
    rw [List.append_assoc]
    exact List.perm_middle.symm
  · exact gains.pending
  · intro d member
    rcases List.mem_append.mp member with old | same
    · exact gains.fresh d old
    · rw [List.mem_singleton.mp same]
      rfl
  · rw [List.map_append, gains.serials, List.length_append, gains.counted]
    exact List.range'_1_concat.symm
  · show after.dispatched + 1 = _
    rw [gains.counted, List.length_append]
    rfl

section Gains
variable {new : List Delivery}

theorem Gains.late (gains : e.Gains after new) {d : Delivery} (member : d ∈ new) : e.dispatched ≤ d.serial := by
  have inside : d.serial ∈ new.map Delivery.serial := List.mem_map_of_mem member
  rw [gains.serials] at inside
  exact (List.mem_range'_1.mp inside).1

theorem Gains.nodup (gains : e.Gains after new) : (new.map Delivery.serial).Nodup := by
  rw [gains.serials]
  exact List.nodup_range'

theorem Gains.numbers (gains : e.Gains after new) :
    List.range after.dispatched = List.range e.dispatched ++ new.map Delivery.serial := by
  rw [gains.counted, gains.serials]
  simp [List.range_eq_range', ← List.range'_append_1]

theorem Gains.underway (gains : e.Gains after new) : after.underway.Perm (new ++ e.underway) := by
  rw [Engine.underway, Engine.underway, gains.pending, ← List.append_assoc]
  exact gains.pool.append_right _

end Gains

/-- What one act may do to the deliveries under way: nothing, new ones come in, or one moves on. With that, what is
written down, with the serial number of the delivery. -/
inductive Passes (e after : Engine) : List (Nat × LogEntry) → Prop
  | rests (deliveries : after.underway.Perm e.underway) (counted : after.dispatched = e.dispatched) : Passes e after []
  | gains {new : List Delivery} (gains : e.Gains after new) : Passes e after []
  | moves {b : Delivery} {standing : Standing} {entries : List LogEntry} {rest : List Delivery}
      (before : e.underway.Perm (b :: rest)) (now : after.underway.Perm (standing.delivery?.toList ++ rest))
      (goes : b.attempt.IsReady ∧ Block e.interceptors e.config.policy b standing entries ∨
        b.attempt.state = .delivering ∧ Concludes e.interceptors e.config.policy b standing entries)
      (counted : after.dispatched = e.dispatched) : Passes e after (entries.map (fun x => (b.serial, x)))

theorem Passes.of_eq (deliveries : after.underway = e.underway) (counted : after.dispatched = e.dispatched) :
    e.Passes after [] := by
  refine .rests ?_ counted
  rw [deliveries]

/-! ### Running engines -/

/-- An engine that nobody has shut down, with its settings. -/
structure Running (config : EngineConfig) (interceptors : Nat) (e : Engine) : Prop where
  config : e.config = config
  interceptors : e.interceptors = interceptors
  pool : e.pool.Open
  numbered : ∀ id ∈ e.pending.keys, id < e.nextRetry

section Running
variable {config : EngineConfig} {interceptors : Nat}

theorem Running.of_keepsAs (running : e.Running config interceptors) (keeps : e.KeepsAs after) (pool : after.pool.Open) :
    after.Running config interceptors where
  config := keeps.config.trans running.config
  interceptors := keeps.interceptors.trans running.interceptors
  pool := pool
  numbered := by
    rw [keeps.pending, keeps.nextRetry]
    exact running.numbered

theorem Running.deliver (running : e.Running config interceptors) {m : Message} {t : Trigger} {now : Instant}
    (taken : e.deliver m t now = .ok after) : after.Running config interceptors := by
  refine running.of_keepsAs (keepsAs_deliver taken) ?_
  obtain ⟨pool, offered, rfl⟩ := deliver_pool taken
  exact running.pool.submit offered

theorem Running.dispatch (running : e.Running config interceptors) (m : Message) (now : Instant) :
    (e.dispatch m now).2.Running config interceptors ∧ ∃ new, e.Gains (e.dispatch m now).2 new := by
  refine dispatch_keeps (P := fun after => after.Running config interceptors ∧ ∃ new, e.Gains after new) ?_
    ⟨running, [], gains_refl e⟩
  rintro b t last ⟨running, new, gains⟩ taken
  exact ⟨running.deliver taken, _, gains.deliver taken⟩

/-- The deliveries stay under way if those in the pool only change their places. -/
theorem Running.shuffled (running : e.Running config interceptors) {pool : Pool Task} (same : e.pool.Shuffled pool) :
    ({ e with pool } : Engine).Running config interceptors ∧ e.Passes { e with pool } [] :=
  ⟨running.of_keepsAs ⟨rfl, rfl, rfl, rfl, rfl, rfl⟩ same.open_, .rests (same.deliveries.append_right _) rfl⟩

/-- A retry that is offered to the pool enters it or goes on waiting. -/
theorem Running.resubmit (running : e.Running config interceptors) (id : Nat) (draw : Float) :
    (e.resubmit id draw).1.Running config interceptors ∧ e.Passes (e.resubmit id draw).1 [] := by
  cases found : e.pending.get? id with
  | none =>
    have same : (e.resubmit id draw).1 = e := by simp only [Engine.resubmit, found]
    rw [same]
    exact ⟨running, .of_eq rfl rfl⟩
  | some d =>
    rcases resubmit_cases running.pool found draw with ⟨pool, offered, answer⟩ | ⟨_, answer⟩
    · rw [answer]
      refine ⟨⟨running.config, running.interceptors, running.pool.submit offered, fun other member => ?_⟩, .rests ?_ rfl⟩
      · obtain ⟨x, inside, rfl⟩ := List.mem_map.mp member
        exact running.numbered _ (List.mem_map_of_mem (List.mem_of_mem_filter inside))
      · have waiting := (Table.entries_perm_of_get? found).map Prod.snd
        refine ((Pool.deliveries_submit offered).append_right _).trans ?_
        exact List.perm_middle.symm.trans (waiting.symm.append_left _)
    · rw [answer]
      exact ⟨running.of_keepsAs ⟨rfl, rfl, rfl, rfl, rfl, rfl⟩ running.pool, .of_eq rfl rfl⟩

/-- A worker starts the try of a delivery that it holds. -/
theorem Running.start (running : e.Running config interceptors) {ticket : Nat} {d : Delivery}
    (found : e.atWork? ticket = some d) (ready : d.attempt.IsReady) (decide : Decisions) (now : Instant) :
    let result := e.start ticket d decide now
    result.1.Running config interceptors ∧
      e.Passes result.1 ((.opens d decide :: result.2.1.map .call).map (fun x => (d.serial, x))) := by
  intro result
  obtain ⟨job, held, is⟩ := atWork?_some found
  obtain ⟨standing, block, pool⟩ := e.start_block ready ticket decide now
  have keeps := e.keepsAs_start ticket d decide now
  have counted := e.dispatched_start ticket d decide now
  have underway : result.1.underway = result.1.pool.deliveries ++ e.pending.entries.map Prod.snd := by
    rw [Engine.underway, keeps.pending]
  rcases pool with ⟨works, revised⟩ | ⟨ended, completed⟩
  · have revised : result.1.pool = e.pool.revise ticket (.delivery (d.begun now)) := revised
    obtain ⟨others, before, after⟩ := Pool.deliveries_revise running.pool (d.begun now) held is
    refine ⟨running.of_keepsAs keeps (revised ▸ running.pool.revise ticket _),
      .moves (before.append_right _) ?_ (.inl ⟨ready, block⟩) counted⟩
    rw [underway, revised, works]
    exact after.append_right _
  · have completed : result.1.pool = e.pool.complete ticket := completed
    have before := Pool.deliveries_complete running.pool held
    rw [is] at before
    refine ⟨running.of_keepsAs keeps (completed ▸ running.pool.complete ticket),
      .moves (before.append_right _) ?_ (.inl ⟨ready, block⟩) counted⟩
    rw [underway, completed, ended]
    exact .refl _

/-- The handler of a delivery is done. -/
theorem Running.finish (running : e.Running config interceptors) (steady : config.policy.jitter ≤ 0.0) {ticket : Nat}
    {d : Delivery} (found : e.atWork? ticket = some d) (delivering : d.attempt.state = .delivering)
    (outcome : Except HandlerError Unit) (draw : Float) :
    let result := e.finish ticket d outcome draw
    let after := match result.2.2 with
      | none => result.1
      | some (retry, _) => (result.1.await retry).2
    after.Running config interceptors ∧
      e.Passes after ((.answers outcome :: result.2.1.map .call).map (fun x => (d.serial, x))) := by
  intro result after
  obtain ⟨job, held, is⟩ := atWork?_some found
  obtain ⟨standing, ends, follows⟩ :=
    e.finish_concludes delivering (running.config ▸ steady) ticket outcome draw
  have keeps : e.KeepsAs result.1 := e.keepsAs_finish ticket d outcome draw
  have counted : result.1.dispatched = e.dispatched := e.dispatched_finish ticket d outcome draw
  have completed : result.1.pool = e.pool.complete ticket := e.pool_finish ticket d outcome draw
  have before := Pool.deliveries_complete running.pool held
  rw [is] at before
  have here : result.1.Running config interceptors :=
    running.of_keepsAs keeps (completed ▸ running.pool.complete ticket)
  have underway : result.1.underway = (e.pool.complete ticket).deliveries ++ e.pending.entries.map Prod.snd := by
    rw [Engine.underway, keeps.pending, completed]
  rcases follows with ⟨last, ended⟩ | ⟨retry, wait, again, rfl⟩
  · have is : after = result.1 := by
      have last : result.2.2 = none := last
      simp only [after, last]
    rw [is]
    refine ⟨here, .moves (before.append_right _) ?_ (.inr ⟨delivering, ends⟩) counted⟩
    rw [underway, ended]
    exact .refl _
  · have is : after = (result.1.await retry).2 := by
      have again : result.2.2 = some (retry, wait) := again
      simp only [after, again]
    obtain ⟨entries, numbered⟩ := await_numbered here.numbered retry
    rw [is]
    refine ⟨⟨here.config, here.interceptors, here.pool, numbered⟩,
      .moves (before.append_right _) ?_ (.inr ⟨delivering, ends⟩) counted⟩
    have waiting := (entries.map Prod.snd).append_left result.1.pool.deliveries
    have now : (result.1.await retry).2.underway.Perm (retry.waiting :: result.1.underway) :=
      waiting.trans List.perm_middle
    rw [underway] at now
    exact now

end Running
end Engine

/-! ### Systems -/

namespace System
variable {s : System} {config : EngineConfig} {interceptors : Nat}

/-- Whether a worker may do something: it starts a delivery that it holds once, and is done with it once the handler
is. -/
def allows (s : System) : Act → Bool
  | .start ticket _ => (s.engine.atWork? ticket).all (fun d => d.attempt.state ≠ .delivering)
  | .finish ticket _ _ => (s.engine.atWork? ticket).all (fun d => d.attempt.state = .delivering)
  | .release ticket => (s.engine.atWork? ticket).isNone
  | _ => true

/-- What is written down about an act, with the serial number of the delivery. -/
def entries (s : System) : Act → List (Nat × LogEntry)
  | .start ticket decide =>
    match s.engine.atWork? ticket with
    | some d => (.opens d decide :: (s.start ticket d decide).2.1.map .call).map (fun x => (d.serial, x))
    | none => []
  | .finish ticket outcome draw =>
    match s.engine.atWork? ticket with
    | some d => (.answers outcome :: (s.finish ticket d outcome draw).2.map .call).map (fun x => (d.serial, x))
    | none => []
  | _ => []

/-- Whether an act belongs to a shutdown. -/
def Act.shuts : Act → Bool
  | .stopAccepting | .beginShutdown | .timeOut | .endShutdown => true
  | _ => false

/-- What an act that has nothing to do with workers does to an engine that runs. -/
theorem passes_goOff (running : s.engine.Running config interceptors) (alarm : Alarm Purpose) (draw : Float) :
    (s.goOff alarm draw).engine.Running config interceptors ∧ s.engine.Passes (s.goOff alarm draw).engine [] := by
  cases purpose : alarm.purpose with
  | outside id =>
    have engine : (s.goOff alarm draw).engine = s.engine := by simp only [goOff, purpose]
    rw [engine]
    exact ⟨running, .of_eq rfl rfl⟩
  | retry id =>
    rw [s.engine_goOff purpose draw]
    exact running.resubmit id draw

theorem passes_finish (running : s.engine.Running config interceptors) (steady : config.policy.jitter ≤ 0.0)
    (here : config.route = .inProcess) {ticket : Nat} {d : Delivery} (found : s.engine.atWork? ticket = some d)
    (delivering : d.attempt.state = .delivering) (outcome : Except HandlerError Unit) (draw : Float) :
    (s.act (.finish ticket outcome draw)).engine.Running config interceptors ∧
      s.engine.Passes (s.act (.finish ticket outcome draw)).engine (s.entries (.finish ticket outcome draw)) := by
  have passes := running.finish steady found delivering outcome draw
  have keeps := s.engine.keepsAs_finish ticket d outcome draw
  simp only [act, entries, found, finish]
  generalize s.engine.finish ticket d outcome draw = result at passes keeps ⊢
  obtain ⟨engine, calls, retry⟩ := result
  cases retry with
  | none => exact passes
  | some retry =>
    have route : engine.config.route = .inProcess := by
      rw [keeps.config, running.config]
      exact here
    simp only [scheduleRetry, route, engine_await]
    exact passes

/-- What happens in a system apart from its pollers does one of these things to the deliveries under way. -/
theorem passes_act (running : s.engine.Running config interceptors) (steady : config.policy.jitter ≤ 0.0)
    (here : config.route = .inProcess)
    (tried : ∀ b ∈ s.engine.underway, b.attempt.IsReady ∨ b.attempt.state = .delivering)
    {a : Act} (allowed : s.allows a = true) (open_ : a.shuts = false) :
    (s.act a).engine.Running config interceptors ∧ s.engine.Passes (s.act a).engine (s.entries a) := by
  have same {after : System} (engine : after.engine = s.engine) :
      after.engine.Running config interceptors ∧ s.engine.Passes after.engine [] := by
    rw [engine]
    exact ⟨running, .of_eq rfl rfl⟩
  cases a with
  | insert e => exact same rfl
  | takeOut e => exact same rfl
  | claim e ttl => exact same rfl
  | failFetches why => exact same rfl
  | publish m => exact same rfl
  | publishDelayed m seconds => exact same rfl
  | failPublishes why => exact same rfl
  | receive => exact same rfl
  | dropReceiver => exact same rfl
  | passTo count => exact same rfl
  | dispatch m =>
    obtain ⟨runs, new, gains⟩ := running.dispatch m s.now
    exact ⟨runs, .gains gains⟩
  | deliver m t =>
    simp only [act, deliver]
    cases taken : s.engine.deliver m t s.now with
    | error why => exact same rfl
    | ok engine => exact ⟨running.deliver taken, .gains ((Engine.gains_refl _).deliver taken)⟩
  | occupy name limit =>
    obtain ⟨pool, is, shuffles⟩ := s.act_occupy running.pool name limit
    rw [is]
    exact running.shuffled shuffles
  | pickUp =>
    obtain ⟨pool, is, shuffles⟩ := s.act_pickUp running.pool
    rw [is]
    exact running.shuffled shuffles
  | release ticket =>
    obtain ⟨pool, is, shuffles⟩ := s.act_release running.pool (Option.isNone_iff_eq_none.mp allowed)
    rw [is]
    exact running.shuffled shuffles
  | start ticket decide =>
    cases found : s.engine.atWork? ticket with
    | none =>
      simp only [act, entries, found]
      exact same rfl
    | some d =>
      have idle : d.attempt.state ≠ .delivering := by simpa [allows, found] using allowed
      have inside : d ∈ s.engine.underway := List.mem_append_left _ (Engine.mem_deliveries_of_atWork? found)
      simp only [act, entries, found]
      exact running.start found ((tried d inside).resolve_right idle) decide s.now
  | finish ticket outcome draw =>
    cases found : s.engine.atWork? ticket with
    | none =>
      simp only [act, entries, found]
      exact same rfl
    | some d =>
      have delivering : d.attempt.state = .delivering := by simpa [allows, found] using allowed
      exact passes_finish running steady here found delivering outcome draw
  | ring place draw =>
    simp only [act]
    cases s.alarms.dueAt? place s.count with
    | none => exact same rfl
    | some alarm => exact passes_goOff running alarm draw
  | stopAccepting => cases open_
  | beginShutdown => cases open_
  | timeOut => cases open_
  | endShutdown => cases open_

end System

/-! ### Logbooks -/

/-- A depot with its chronicle, the deliveries that have come in, and what is written down about them. -/
structure Logbook where
  chronicle : Chronicle
  taken : List Delivery
  written : List (Nat × LogEntry)

namespace Logbook

/-- The logbook of a depot whose engine has seen no message. -/
def opened (clock : Clock) (broker : Broker) (config : EngineConfig) (registry : Registry) (interceptors : Nat)
    (pollers : List Poller) : Logbook :=
  ⟨.opened clock broker config registry interceptors pollers, [], []⟩

def system (l : Logbook) : System := l.chronicle.system

def engine (l : Logbook) : Engine := l.system.engine

/-- Whether an act is none that a worker may not do. -/
def allows (l : Logbook) : Depot.Act → Bool
  | .outside a => l.system.allows a
  | _ => true

def entries (l : Logbook) : Depot.Act → List (Nat × LogEntry)
  | .outside a => l.system.entries a
  | _ => []

/-- The deliveries in the pool of an engine that have just come in. -/
def newcomers (l : Logbook) (after : Engine) : List Delivery :=
  after.pool.deliveries.filter (fun d => l.engine.dispatched ≤ d.serial)

/-- The logbook once something has happened. -/
def note (l : Logbook) (after : Chronicle) (entries : List (Nat × LogEntry)) : Logbook :=
  ⟨after, l.taken ++ l.newcomers after.system.engine, l.written ++ entries⟩

/-- What happens is written down. What a worker may not do does not happen. -/
def act (l : Logbook) (a : Depot.Act) : Logbook :=
  if l.allows a then l.note (l.chronicle.act a) (l.entries a) else l

def run (l : Logbook) (acts : List Depot.Act) : Logbook := acts.foldl act l

/-- What is written down about the delivery of a serial number, in order. -/
def entriesOf (l : Logbook) (serial : Nat) : List LogEntry :=
  (l.written.filter (fun x => x.1 = serial)).map Prod.snd

/-- Whether an act belongs to a shutdown. -/
def shuts : Depot.Act → Bool
  | .outside a => a.shuts
  | _ => false

/-- Whatever happens in a depot does one of these things to the deliveries under way. -/
theorem passes_act {l : Logbook} {config : EngineConfig} {interceptors : Nat}
    (running : l.engine.Running config interceptors) (steady : config.policy.jitter ≤ 0.0)
    (here : config.route = .inProcess)
    (tried : ∀ b ∈ l.engine.underway, b.attempt.IsReady ∨ b.attempt.state = .delivering)
    {a : Depot.Act} (allowed : l.allows a = true) (open_ : shuts a = false) :
    (l.chronicle.act a).system.engine.Running config interceptors ∧
      l.engine.Passes (l.chronicle.act a).system.engine (l.entries a) := by
  have idle : l.engine.Running config interceptors ∧ l.engine.Passes l.engine [] := ⟨running, .of_eq rfl rfl⟩
  have poll {b : Depot.Act} (inside : ∀ c, b ≠ .outside c) :
      (l.chronicle.depot.act b).system.engine.Running config interceptors ∧
        l.engine.Passes (l.chronicle.depot.act b).system.engine [] := by
    rcases (l.chronicle.depot.keeps_poll inside).2.2 with same | ⟨m, same⟩
    · rw [same]
      exact idle
    · rw [same]
      obtain ⟨runs, new, gains⟩ := running.dispatch m l.system.now
      exact ⟨runs, .gains gains⟩
  cases a with
  | beginPoll place => exact poll (by simp)
  | go k => exact poll (by simp)
  | outside a => exact System.passes_act running steady here tried allowed open_

end Logbook
end Courier
