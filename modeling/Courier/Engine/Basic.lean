import Courier.Engine.Delivery
import Courier.Engine.Stats
import Courier.Pool.Basic

/-!
# The engine

The engine hands messages to the handlers of their topic. Every handler is a group of the pool, so
that a slow handler delays its own messages only. A retry that does not wait elsewhere is pending: the
engine keeps it until the pool takes it again.
-/
namespace Courier

/-- Where retries wait. -/
inductive RetryRoute
  /-- On a timer of the engine. -/
  | inProcess
  /-- In the broker's due store. -/
  | delayStore
deriving DecidableEq, Repr

/-- The settings of an engine. -/
structure EngineConfig where
  policy : RetryPolicy
  route : RetryRoute
  pool : PoolConfig
  /-- How long a shutdown waits for the pool. -/
  shutdownTimeout : Span

/-- The work of a pool: a delivery, or something that others gave to it. -/
inductive Task
  | delivery (d : Delivery)
  | foreign (name : String)

/-- An engine at work. -/
structure Engine where
  config : EngineConfig
  registry : Registry
  /-- How many interceptors are asked before a handler is called. -/
  interceptors : Nat
  pool : Pool Task
  dispatched : Nat
  acked : Nat
  shortCircuited : Nat
  failedAttempts : Nat
  retriesScheduled : Nat
  exhausted : Nat
  deferredRetries : Nat
  /-- Retries that wait, by number. -/
  pending : Table Nat Delivery
  /-- The number of the next retry that waits. -/
  nextRetry : Nat
  /-- Whether a shutdown has stopped the timers. -/
  timersStopped : Bool

namespace Engine

def new (config : EngineConfig) (registry : Registry) (interceptors : Nat) : Engine :=
  ⟨config, registry, interceptors, .new config.pool, 0, 0, 0, 0, 0, 0, 0, .empty, 0, false⟩

def stats (e : Engine) : Stats :=
  ⟨e.dispatched, e.acked, e.shortCircuited, e.failedAttempts, e.retriesScheduled, e.exhausted,
    e.pending.size, e.deferredRetries⟩

def isAccepting (e : Engine) : Bool := e.pool.accepting

/-! ## Taking messages -/

def submit (e : Engine) (d : Delivery) : Except DeliveryError Engine := do
  return { e with pool := ← e.pool.submit d.trigger.handlerId d.trigger.concurrency (.delivery d) }

/-- Gives the pool a message for a handler, and counts it once the pool has taken it. The two are one step
here: runs show the states before and after only, none in which the pool has the message and it is not
counted. -/
def deliver (e : Engine) (m : Message) (t : Trigger) (now : Instant) : Except DeliveryError Engine := do
  let after ← e.submit ⟨e.dispatched, m, t, .new m t.handlerId now⟩
  return { after with dispatched := e.dispatched + 1 }

/-- Hands a message to triggers in order, up to the first that cannot take it. Some number of triggers
came before. -/
def feed (m : Message) (now : Instant) : Nat → List Trigger → Engine → Except DeliveryError Nat × Engine
  | n, [], e => (.ok n, e)
  | n, t :: rest, e =>
    match e.deliver m t now with
    | .ok e => feed m now (n + 1) rest e
    | .error why => (.error (if n = 0 then why else .partialDispatch n why), e)

/-- Hands a message to its target handler or else to all handlers of its topic, and says how many
took it. -/
def dispatch (e : Engine) (m : Message) (now : Instant) : Except DeliveryError Nat × Engine :=
  match m.targetHandler with
  | none => feed m now 0 (e.registry.triggersFor m.topic) e
  | some handler =>
    match e.registry.find handler with
    | none => (.error (.unknownHandler handler), e)
    | some t => feed m now 0 [t] e

/-! ## Tries -/

def release (e : Engine) (ticket : Nat) : Engine := { e with pool := e.pool.complete ticket }

/-- Ends a try of a delivery with an acknowledgement. -/
def acknowledge (e : Engine) (ticket : Nat) (d : Delivery) (shortCircuited : Bool) :
    Engine × List DeliveryCall :=
  match d.acknowledge e.interceptors shortCircuited with
  | .error _ => (e.release ticket, [])
  | .ok (_, calls) => ({ e with acked := e.acked + 1 }.release ticket, calls)

/-- A worker starts the try of a delivery that it has picked up. Says whether the handler is at work
now. -/
def start (e : Engine) (ticket : Nat) (d : Delivery) (decide : Decisions) (now : Instant) :
    Engine × List DeliveryCall × Bool :=
  match d.start e.interceptors decide now with
  | .error _ => (e.release ticket, [], false)
  | .ok (d, calls, .proceed) =>
    ({ e with pool := e.pool.revise ticket (.delivery d) }, calls ++ [.handler d.message], true)
  | .ok (d, calls, .shortCircuit) =>
    let (e, told) := { e with shortCircuited := e.shortCircuited + 1 }.acknowledge ticket d true
    (e, calls ++ told, false)
  | .ok (_, calls, .crash) => (e.release ticket, calls, false)

/-- The delivery whose handler is at work under a ticket. -/
def atWork? (e : Engine) (ticket : Nat) : Option Delivery :=
  match e.pool.held.find? (fun job => job.ticket == ticket) with
  | some ⟨_, _, .delivery d⟩ => some d
  | _ => none

/-- A handler is done. A failure that leads to another try yields the delivery and how long it is to
wait. If the policy breaks off, the failure is counted and the task ends there: nothing comes after it. -/
def finish (e : Engine) (ticket : Nat) (d : Delivery) (outcome : Except HandlerError Unit) (draw : Float) :
    Engine × List DeliveryCall × Option (Delivery × Span) :=
  match outcome with
  | .ok () =>
    let (e, calls) := e.acknowledge ticket d false
    (e, calls, none)
  | .error why =>
    let e := { e with failedAttempts := e.failedAttempts + 1 }
    match d.fail why e.config.policy draw with
    | .error _ => (e.release ticket, [], none)
    | .ok (d, calls, some (.retry delay)) =>
      ({ e with retriesScheduled := e.retriesScheduled + 1 }.release ticket, calls, some (d, delay))
    | .ok (_, calls, some .exhaust) =>
      ({ e with exhausted := e.exhausted + 1 }.release ticket, calls, none)
    | .ok (_, calls, _) => (e.release ticket, calls, none)

/-! ## Retries that wait -/

/-- Keeps a retry until the pool takes it, under a number of its own. -/
def await (e : Engine) (d : Delivery) : Nat × Engine :=
  (e.nextRetry,
    { e with pending := e.pending.insert e.nextRetry d.waiting, nextRetry := e.nextRetry + 1 })

/-- The shortest wait of a retry that the pool turned away. -/
def shortestWait : Span := .ofMillis 100

/-- Offers a retry to the pool once its wait is over, and forgets it if the pool takes it. The two are one
step here: a worker that was quick enough to start the try before the retry is forgotten would see it
counted among those that wait, and runs show the states before and after only. A retry that a full pool
turned away waits again; if the policy breaks off, it is kept, and never offered any more. -/
def resubmit (e : Engine) (id : Nat) (draw : Float) : Engine × Option Span :=
  match e.pending.get? id with
  | none => (e, none)
  | some d =>
    match e.submit d with
    | .ok e => ({ e with pending := e.pending.erase id }, none)
    | .error why =>
      if why.isShutdown then ({ e with pending := e.pending.erase id }, none)
      else
        ({ e with deferredRetries := e.deferredRetries + 1 },
          (e.config.policy.delay d.message.failRetryCount draw).map (fun wait => wait.longer shortestWait))

/-! ## Shutdown -/

/-- Stops the timers, abandons the retries that wait, and closes the pool to new tasks. -/
def beginShutdown (e : Engine) : Engine :=
  { e with pending := .empty, timersStopped := true, pool := e.pool.stopAccepting }

/-- The time that a shutdown gives the pool is over. -/
def timeOut (e : Engine) : Engine := { e with pool := e.pool.timeOut }

/-- The end of a shutdown, once the pool is drained or its time is over. -/
def endShutdown (e : Engine) : Except DeliveryError Unit × Engine :=
  let (result, pool) := e.pool.conclude e.config.shutdownTimeout
  (result, { e with pool })

end Engine
end Courier
