import Courier.Pool.Basic
import Courier.Scenario.Gates

/-!
# Scenarios of a pool

A pool is driven step by step with tasks that end at once or wait at a gate that bears their name.
After a step everything that can run does run, until all tasks that are left wait.
-/
namespace Courier.Scenario

/-- How a task ends. A task at a gate waits first. -/
structure PoolTask where
  id : String
  atGate : Bool
  panics : Bool

/-- A pool with its gates and what has happened since the last report. -/
structure PoolRun where
  pool : Pool PoolTask
  gates : Gates
  started : List String
  finished : List String

namespace PoolRun

def new (config : PoolConfig) : PoolRun := ⟨.new config, .closed, [], []⟩

/-- A task that a worker holds comes to its end. -/
def finish (s : PoolRun) (job : Job PoolTask) : PoolRun :=
  { s with
    pool := s.pool.complete job.ticket
    finished := if job.work.panics then s.finished else s.finished ++ [job.work.id] }

/-- One thing that can happen by itself: a task that was let through goes on, or a worker takes the
next task and runs it to its end or to its gate. -/
def advance? (s : PoolRun) : Option PoolRun :=
  match s.gates.next? with
  | some (ticket, gates) =>
    let s := { s with gates }
    match s.pool.held.find? (fun job => job.ticket == ticket) with
    | some job => some (s.finish job)
    | none => some s
  | none =>
    match s.pool.pickUp with
    | none => none
    | some (job, pool) =>
      let s := { s with pool, started := s.started ++ [job.work.id] }
      if job.work.atGate then
        match s.gates.arrive job.work.id job.ticket with
        | (true, gates) => some ({ s with gates }.finish job)
        | (false, gates) => some { s with gates }
      else some (s.finish job)

/-- Everything that can happen by itself, within a number of steps. -/
def settleWithin : Nat → PoolRun → PoolRun
  | 0, s => s
  | fuel + 1, s =>
    match s.advance? with
    | some s => settleWithin fuel s
    | none => s

/-- Everything that can happen by itself. Each task starts once and goes on once. -/
def settle (s : PoolRun) : PoolRun :=
  settleWithin (2 * s.pool.outstanding + s.gates.woken.length + 1) s

def submit (s : PoolRun) (group : String) (limit : Nat) (task : PoolTask) :
    Except DeliveryError Unit × PoolRun :=
  match s.pool.submit group limit task with
  | .ok pool => (.ok (), { s with pool })
  | .error e => (.error e, s)

def release (s : PoolRun) (id : String) : PoolRun := { s with gates := s.gates.release id }

/-- Shuts the pool down. The time for the tasks to end is over as soon as all of them wait. -/
def shutdown (s : PoolRun) (timeout : Span) : Except DeliveryError Unit × PoolRun :=
  let s := { s with pool := s.pool.stopAccepting }.settle
  let (result, pool) := s.pool.conclude timeout
  (result, { s with pool })

def reported (s : PoolRun) : PoolRun := { s with started := [], finished := [] }

end PoolRun
end Courier.Scenario
