import Courier.Alarm
import Courier.Broker
import Courier.Clock
import Courier.Engine.Basic

/-!
# The system

An engine and a broker that share a clock. A failure that leads to another try goes into the broker's due store, if the
engine's retries wait there and the broker takes it; any other retry waits on an alarm of the clock. Alarms that others
set stand in the same line.

Sums of machine words wrap round when they leave their range, as in a release build: the seconds of a retry's wait, and
the counts of a poller. Times and spans break off there in every build, and whoever was at it ends.
-/
namespace Courier

/-- What an alarm is for. -/
inductive Purpose
  /-- A retry's wait is over. -/
  | retry (id : Nat)
  /-- Something that others know by its number. -/
  | outside (id : Nat)
deriving DecidableEq, Repr

/-- An engine, a broker and a clock. -/
structure System where
  clock : Clock
  engine : Engine
  broker : Broker
  alarms : Alarms Purpose

namespace System

def new (start : Instant) (engine : Engine) : System := ⟨.startedAt start, engine, .empty, .none⟩

def now (s : System) : Instant := s.clock.now

def count (s : System) : Nat := s.clock.elapsed.toNat

def setAlarm (s : System) (wait : Span) (purpose : Purpose) : System :=
  { s with alarms := s.alarms.set (s.count + wait.nanos) purpose }

def dispatch (s : System) (m : Message) : Except DeliveryError Nat × System :=
  let (result, engine) := s.engine.dispatch m s.now
  (result, { s with engine })

def deliver (s : System) (m : Message) (t : Trigger) : Except DeliveryError Unit × System :=
  match s.engine.deliver m t s.now with
  | .ok engine => (.ok (), { s with engine })
  | .error why => (.error why, s)

/-! ## Retries -/

/-- Lets a retry wait on an alarm. Once the timers are stopped no alarm is set. -/
def await (s : System) (d : Delivery) (wait : Span) : System :=
  let (id, engine) := s.engine.await d
  if engine.timersStopped then { s with engine } else { s with engine }.setAlarm wait (.retry id)

/-- Publishes a retry for later, by the whole seconds of its wait. It breaks off if the broker does. -/
def publishRetry (s : System) (d : Delivery) (wait : Span) :
    Option (Except TransportError Unit) × System :=
  let (result, broker) := s.broker.publishDelayed d.addressed wait.wholeSeconds s.now
  (result, { s with broker })

/-- Lets a retry wait where the engine's retries wait. What the broker refuses waits on an alarm. -/
def scheduleRetry (s : System) (d : Delivery) (wait : Span) : System :=
  match s.engine.config.route with
  | .inProcess => s.await d wait
  | .delayStore =>
    match s.publishRetry d wait with
    | (some (.error _), s) => s.await d wait
    | (_, s) => s

def resubmit (s : System) (id : Nat) (draw : Float) : System :=
  match s.engine.resubmit id draw with
  | (engine, none) => { s with engine }
  | (engine, some wait) => { s with engine }.setAlarm wait (.retry id)

/-! ## Workers -/

def pickUp (s : System) : Option (Job Task × System) :=
  match s.engine.pool.pickUp with
  | none => none
  | some (job, pool) => some (job, { s with engine := { s.engine with pool } })

/-- A worker starts the try of a delivery. Says whether the handler is at work now. -/
def start (s : System) (ticket : Nat) (d : Delivery) (decide : Decisions) :
    System × List DeliveryCall × Bool :=
  let (engine, calls, atWork) := s.engine.start ticket d decide s.now
  ({ s with engine }, calls, atWork)

def finish (s : System) (ticket : Nat) (d : Delivery) (outcome : Except HandlerError Unit)
    (draw : Float) : System × List DeliveryCall :=
  let (engine, calls, retry) := s.engine.finish ticket d outcome draw
  let s := { s with engine }
  match retry with
  | none => (s, calls)
  | some (d, wait) => (s.scheduleRetry d wait, calls)

/-- A worker is done with a task that is no delivery. -/
def release (s : System) (ticket : Nat) : System := { s with engine := s.engine.release ticket }

/-! ## Time and shutdown -/

/-- Lets time pass up to a count of the clock. -/
def passTo (s : System) (target : Nat) : System :=
  { s with clock := s.clock.advance (.ofNanos (target - s.count)) }

/-- Starts a shutdown: no retry goes off any more. -/
def beginShutdown (s : System) : System :=
  { s with
    engine := s.engine.beginShutdown
    alarms := s.alarms.cancel (fun purpose => match purpose with
      | .retry _ => true
      | .outside _ => false) }

/-- The time that a shutdown gives the engine is over. -/
def timeOut (s : System) : System := { s with engine := s.engine.timeOut }

def endShutdown (s : System) : Except DeliveryError Unit × System :=
  let (result, engine) := s.engine.endShutdown
  (result, { s with engine })

end System
end Courier
