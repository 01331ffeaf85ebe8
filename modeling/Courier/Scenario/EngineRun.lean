import Courier.Scenario.Doubles
import Courier.Scenario.Gates
import Courier.System.Polling

/-!
# Scenarios of a system

A system with stand-ins for its handlers and interceptors is driven step by step. After a step
everything that can run does run: loops that poll, then tasks that were let through a gate, then tasks
that wait for a worker, and last alarms that are due. Handlers that take their time sleep on a clock of
their own, which moves only when the pool is drained. The pollers' calls to the store may be made to
fail.
-/
namespace Courier.Scenario

/-- A call of a poller to the store. -/
inductive StoreCall
  | claim
  | remove
deriving DecidableEq

/-- What the pollers' calls to the store run into. -/
structure Faults where
  /-- What every claim fails with, if it does. -/
  claimError : Option String
  /-- What every removal fails with, if it does. -/
  removeError : Option String
  /-- Whether someone else takes an entry out just before a removal. -/
  gone : Bool
  /-- The call at whose next start the pool closes. -/
  stopAt : Option StoreCall

/-- Where a loop stands that polls again and again. -/
inductive LoopStage
  | fresh
  | asleep
  | ended
deriving DecidableEq

/-- A loop that polls again and again. -/
structure PollLoop where
  poller : Nat
  stage : LoopStage
  cancelled : Bool

/-- What a scenario is about. -/
structure EngineSetup where
  start : Instant
  config : EngineConfig
  triggers : List (Trigger × HandlerRule)
  interceptors : List InterceptorDouble
  pollers : Nat
  pollConfig : PollConfig

/-- A system and what drives it. -/
structure EngineRun where
  system : System
  pollers : List Poller
  loops : List PollLoop
  handlers : Table String HandlerDouble
  interceptors : List InterceptorDouble
  gates : Gates
  /-- How the handlers that are at work will end, by ticket. -/
  outcomes : Table Nat (Except HandlerError Unit)
  /-- Handlers that take their time, by ticket. -/
  naps : Alarms Nat
  /-- The clock of those handlers. -/
  napClock : Nat
  faults : Faults
  /-- All calls that were made for deliveries, with the handler each of them was for. -/
  log : Array (String × DeliveryCall)
  /-- How many of them have been reported. -/
  reported : Nat

namespace EngineRun

def registered : List (Trigger × HandlerRule) → Registry → Except DeliveryError Registry
  | [], r => .ok r
  | (t, _) :: rest, r => do registered rest (← r.register t)

def new (setup : EngineSetup) : Except DeliveryError EngineRun := do
  let registry ← registered setup.triggers .empty
  let poller ← Poller.new setup.pollConfig
  return {
    system := .new setup.start (.new setup.config registry setup.interceptors.length)
    pollers := List.replicate setup.pollers poller
    loops := []
    handlers := setup.triggers.foldl (fun handlers t => handlers.insert t.1.handlerId (.new t.2)) .empty
    interceptors := setup.interceptors
    gates := .closed
    outcomes := .empty
    naps := .none
    napClock := 0
    faults := ⟨none, none, false, none⟩
    log := #[]
    reported := 0 }

def note (s : EngineRun) (handler : String) (calls : List DeliveryCall) : EngineRun :=
  { s with log := s.log ++ (calls.map (fun call => (handler, call))).toArray }

/-! ## Pollers -/

/-- The store call begins; the pool may close. -/
def reach (s : EngineRun) (call : StoreCall) : EngineRun :=
  if s.faults.stopAt = some call then
    let engine := { s.system.engine with pool := s.system.engine.pool.stopAccepting }
    { s with system := { s.system with engine }, faults := { s.faults with stopAt := none } }
  else s

def claim (s : EngineRun) (e : DueEntry) (ttl : Span) : Option (Except TransportError Bool) × EngineRun :=
  let s := s.reach .claim
  match s.faults.claimError with
  | some message => (some (.error (.store message)), s)
  | none =>
    let (result, system) := s.system.claim e ttl
    (result.map .ok, { s with system })

def remove (s : EngineRun) (e : DueEntry) : Except TransportError Bool × EngineRun :=
  let s := s.reach .remove
  match s.faults.removeError with
  | some message => (.error (.store message), s)
  | none =>
    let (result, system) := s.system.remove e
    (.ok (result && !s.faults.gone), { s with system })

def dispatch (s : EngineRun) (m : Message) : Except DeliveryError Nat × EngineRun :=
  let (result, system) := s.system.dispatch m
  (result, { s with system })

def surroundings : Surroundings EngineRun where
  isAccepting s := s.system.engine.isAccepting
  now s := s.system.now
  fetch s instant limit := s.system.broker.store.fetch instant limit
  claim := claim
  remove := remove
  dispatch := dispatch

/-- A poll by the poller at a place. -/
def poll (s : EngineRun) (place : Nat) : PollEnd × PollReport × EngineRun :=
  match s.pollers[place]? with
  | none => (.complete, .empty, s)
  | some p =>
    let (how, report, p, s) := p.pollOnce surroundings s
    (how, report, { s with pollers := s.pollers.set place p })

/-- A claim by the poller at a place, outside of its polls. -/
def claimBy (s : EngineRun) (place : Nat) (e : DueEntry) :
    Option (Except TransportError Bool) × EngineRun :=
  match s.pollers[place]? with
  | none => (none, s)
  | some p => s.claim e p.config.lockTimeout

/-- A round of a loop: it polls and sleeps. A poll that breaks off ends the loop. -/
def round (s : EngineRun) (place : Nat) (loop : PollLoop) : EngineRun :=
  let (how, _, s) := s.poll loop.poller
  let interval := ((s.pollers[loop.poller]?).map (fun p => p.config.interval)).getD .zero
  match how with
  | .broken => { s with loops := s.loops.set place { loop with stage := .ended } }
  | _ =>
    { s with
      system := s.system.setAlarm interval (.outside place)
      loops := s.loops.set place { loop with stage := .asleep } }

/-- A loop that was cancelled ends, and its alarm with it. -/
def endLoop (s : EngineRun) (place : Nat) (loop : PollLoop) : EngineRun :=
  { s with
    system := { s.system with alarms := s.system.alarms.cancel (fun p => p = .outside place) }
    loops := s.loops.set place { loop with stage := .ended } }

/-- The first loop that has something to do at once. -/
def readyLoop? (s : EngineRun) : Option (Nat × PollLoop) :=
  (s.loops.zipIdx.find? (fun (l, _) => l.stage ≠ .ended ∧ (l.cancelled ∨ l.stage = .fresh))).map
    (fun (l, place) => (place, l))

/-! ## Workers -/

def finish (s : EngineRun) (ticket : Nat) : EngineRun :=
  match s.system.engine.pool.held.find? (fun job => job.ticket == ticket) with
  | none => s
  | some ⟨_, _, .foreign _⟩ => { s with system := s.system.release ticket }
  | some ⟨_, _, .delivery d⟩ =>
    let handler := d.trigger.handlerId
    let outcome := (s.outcomes.get? ticket).getD (.ok ())
    let (system, calls) := s.system.finish ticket d outcome 0.0
    { s with system, outcomes := s.outcomes.erase ticket }.note handler calls

/-- The gate of a handler for a request. -/
def gateOf (handler requestId : String) : String := handler ++ "/" ++ requestId

/-- A task comes to a gate, and passes it or waits. -/
def arrive (s : EngineRun) (gate : String) (ticket : Nat) : EngineRun :=
  match s.gates.arrive gate ticket with
  | (true, gates) => { s with gates }.finish ticket
  | (false, gates) => { s with gates }

def changeHandler (s : EngineRun) (id : String) (f : HandlerDouble → HandlerDouble) : EngineRun :=
  match s.handlers.get? id with
  | none => s
  | some h => { s with handlers := s.handlers.insert id (f h) }

def call (s : EngineRun) (ticket : Nat) (handler requestId : String) : EngineRun :=
  match s.handlers.get? handler with
  | none => s.finish ticket
  | some h =>
    let s := s.changeHandler handler (fun h => h.entered requestId)
    let within (outcome : Except HandlerError Unit) : EngineRun :=
      { s with outcomes := s.outcomes.insert ticket outcome }
    match h.next requestId with
    | .done outcome => ((within outcome).changeHandler handler HandlerDouble.left).finish ticket
    | .atGate outcome => (within outcome).arrive (gateOf handler requestId) ticket
    | .asleep time =>
      { within (.ok ()) with naps := s.naps.set (s.napClock + time.nanos) ticket }

def decisions (s : EngineRun) : Decisions := fun place m =>
  match s.interceptors[place]? with
  | some i => i.decide m
  | none => .proceed

def start (s : EngineRun) (job : Job Task) : EngineRun :=
  match job.work with
  | .foreign name => s.arrive name job.ticket
  | .delivery d =>
    let (system, calls, atWork) := s.system.start job.ticket d s.decisions
    let s := { s with system }.note d.trigger.handlerId calls
    if atWork then s.call job.ticket d.trigger.handlerId d.message.requestId else s

/-- A handler that took its time is done. -/
def wake (s : EngineRun) (ticket : Nat) : EngineRun :=
  match s.system.engine.atWork? ticket with
  | none => s
  | some d => (s.changeHandler d.trigger.handlerId HandlerDouble.left).finish ticket

/-! ## What happens by itself -/

def fire (s : EngineRun) : Purpose → EngineRun
  | .retry id => { s with system := s.system.resubmit id 0.0 }
  | .outside place =>
    match s.loops[place]? with
    | none => s
    | some loop => s.round place loop

/-- The first alarm that is due by a count of the clock goes off. -/
def fireBy? (s : EngineRun) (target : Nat) : Option EngineRun :=
  match s.system.alarms.due? target with
  | none => none
  | some (alarm, alarms) =>
    some ({ s with system := { s.system with alarms }.passTo alarm.deadline }.fire alarm.purpose)

def act? (s : EngineRun) : Option EngineRun :=
  match s.readyLoop? with
  | some (place, loop) => some (if loop.cancelled then s.endLoop place loop else s.round place loop)
  | none =>
    match s.gates.next? with
    | some (ticket, gates) => some ({ s with gates }.finish ticket)
    | none =>
      match s.system.pickUp with
      | some (job, system) => some ({ s with system }.start job)
      | none => s.fireBy? s.system.count

/-- Everything that happens by itself, within a number of steps. -/
def settleWithin : Nat → EngineRun → EngineRun
  | 0, s => s
  | fuel + 1, s =>
    match s.act? with
    | some s => settleWithin fuel s
    | none => s

def patience : Nat := 1000000000

def settle (s : EngineRun) : EngineRun := settleWithin patience s

/-! ## Steps -/

/-- Fires the alarms up to a count of the clock, with everything that follows from each of them. -/
def passWithin (target : Nat) : Nat → EngineRun → EngineRun
  | 0, s => s
  | fuel + 1, s =>
    match s.fireBy? target with
    | some s => passWithin target fuel s.settle
    | none => s

def advance (s : EngineRun) (time : Span) : EngineRun :=
  let s := s.settle
  let target := s.system.count + time.nanos
  let s := passWithin target patience s
  { s with system := s.system.passTo target }.settle

/-- The handlers that take their time end theirs, one after the other, before a limit if there is
one, until the pool is drained. -/
def drainWithin (limit : Option Nat) : Nat → EngineRun → EngineRun
  | 0, s => s
  | fuel + 1, s =>
    let s := s.settle
    if s.system.engine.pool.outstanding = 0 then s
    else
      match s.naps.first? with
      | none => s
      | some nap =>
        if limit.any (fun limit => limit ≤ nap.deadline) then s
        else
          let naps := s.naps.cancel (fun ticket => ticket = nap.purpose)
          drainWithin limit fuel ({ s with naps, napClock := nap.deadline }.wake nap.purpose)

def drain (s : EngineRun) : EngineRun := drainWithin none patience s

/-- Shuts the engine down. If the time for that is over, it has passed for the handlers as well. -/
def shutdown (s : EngineRun) : Except DeliveryError Unit × EngineRun :=
  let limit := s.napClock + s.system.engine.config.shutdownTimeout.nanos
  let s := drainWithin (some limit) patience { s with system := s.system.beginShutdown }
  let (result, system) := s.system.endShutdown
  let napClock := if result.toOption.isNone then max s.napClock limit else s.napClock
  (result, { s with system, napClock })

def release (s : EngineRun) (gate : String) : EngineRun := { s with gates := s.gates.release gate }

/-- Gives the pool a task that waits at a gate. -/
def block (s : EngineRun) (gate group : String) (limit : Nat) : Except DeliveryError Unit × EngineRun :=
  match s.system.engine.pool.submit group limit (.foreign gate) with
  | .ok pool => (.ok (), { s with system := { s.system with engine := { s.system.engine with pool } } })
  | .error why => (.error why, s)

/-- Starts a loop that polls; it may be cancelled before it begins. -/
def run (s : EngineRun) (poller : Nat) (cancelled : Bool) : EngineRun :=
  { s with loops := s.loops ++ [⟨poller, .fresh, cancelled⟩] }

/-- The place of the loop that a poller started last. -/
def lastLoop? (s : EngineRun) (poller : Nat) : Option (Nat × PollLoop) :=
  (s.loops.zipIdx.reverse.find? (fun (l, _) => l.poller = poller)).map (fun (l, place) => (place, l))

/-- Cancels the loop that a poller started last. -/
def cancel (s : EngineRun) (poller : Nat) : EngineRun :=
  match s.lastLoop? poller with
  | none => s
  | some (place, loop) => { s with loops := s.loops.set place { loop with cancelled := true } }

/-- Whether the loop that a poller started last is over. -/
def isFinished? (s : EngineRun) (poller : Nat) : Option Bool :=
  (s.lastLoop? poller).map (fun (_, loop) => loop.stage = .ended)

/-- Hands the oldest timely message of the broker to its handlers. -/
def consume (s : EngineRun) : Option (Except DeliveryError Nat) × EngineRun :=
  match s.system.broker.receive with
  | (none, _) => (none, s)
  | (some m, broker) =>
    let (result, s) := { s with system := { s.system with broker } }.dispatch m
    (some result, s)

/-! ## Reports -/

def news (s : EngineRun) : List (String × DeliveryCall) := (s.log.toList).drop s.reported

def marked (s : EngineRun) : EngineRun := { s with reported := s.log.size }

/-- How often a call of some kind was made. -/
def countCalls (s : EngineRun) (which : String → DeliveryCall → Bool) : Nat :=
  s.log.toList.countP (fun p => which p.1 p.2)

end EngineRun
end Courier.Scenario
