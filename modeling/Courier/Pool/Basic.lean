import Courier.Error
import Courier.Table
import Courier.Json.Reader
import Courier.Json.Written
import Courier.Text.Quoted

/-!
# The pool

Tasks run on a fixed number of workers that all groups share. A group runs at most as many tasks at
once as its limit says and keeps the others in a queue, first come, first served; the limit is the one
that came with the group's last task. Tasks that their group lets through wait in one line for a free
worker. The pool holds a bounded number of tasks and refuses more without a trace.
-/
namespace Courier

/-- The size of a pool. Both sizes count as one at least. -/
structure PoolConfig where
  workers : Nat
  maxPending : Nat
deriving DecidableEq, Repr

namespace PoolConfig

def standard : PoolConfig := ⟨16, 1000000⟩

def workerCount (c : PoolConfig) : Nat := max c.workers 1

def capacity (c : PoolConfig) : Nat := max c.maxPending 1

def toValue (c : PoolConfig) : Json.Value :=
  .ofMembers [("worker_count", .ofNat c.workers), ("max_pending", .ofNat c.maxPending)]

def read : Json.Reader PoolConfig := fun v => do
  match ← (Json.numbersShape "struct ExecutorConfig" Json.size ["worker_count", "max_pending"]).read v with
  | [workers, maxPending] => return ⟨workers, maxPending⟩
  | _ => throw .malformed

end PoolConfig

/-- A task that was accepted. No two tasks of a pool have one ticket. -/
structure Job (α : Type) where
  ticket : Nat
  group : String
  work : α

/-- What a pool knows about a group that has tasks. -/
structure Group (α : Type) where
  /-- Tasks in the line for a worker or held by one. -/
  running : Nat
  /-- How many tasks may run at once. -/
  limit : Nat
  /-- Tasks that have to wait, the oldest first. -/
  queue : List (Job α)

namespace Group

variable {α : Type}

def idle : Group α := ⟨0, 0, []⟩

/-- The waiting tasks that the limit lets through, the oldest first. -/
def passing (g : Group α) : List (Job α) := g.queue.take (g.limit - g.running)

def promoted (g : Group α) : Group α :=
  { g with running := g.running + g.passing.length, queue := g.queue.drop (g.limit - g.running) }

/-- The group with one more task at the end of its queue, and a new limit. -/
def joined (g : Group α) (limit : Nat) (job : Job α) : Group α :=
  { g with limit := max limit 1, queue := g.queue ++ [job] }

/-- The group with one task less that runs. -/
def relieved (g : Group α) : Group α := { g with running := g.running - 1 }

def isIdle (g : Group α) : Bool := g.running = 0 && g.queue.isEmpty

end Group

/-- What can be seen of a group from outside. -/
structure GroupView where
  running : Nat
  queued : Nat
  limit : Nat
deriving DecidableEq, Repr

/-- The state of a pool. -/
structure Pool (α : Type) where
  config : PoolConfig
  /-- The groups that have tasks. -/
  groups : Table String (Group α)
  /-- Tasks in the line for a worker. -/
  ready : List (Job α)
  /-- Tasks that workers hold. -/
  held : List (Job α)
  /-- Tasks accepted and not completed. -/
  outstanding : Nat
  accepting : Bool
  /-- Whether the workers take tasks. -/
  staffed : Bool
  /-- Whether the time that a shutdown gives the tasks is over, and it has not come to its end. -/
  late : Bool
  /-- The ticket of the next task. -/
  nextTicket : Nat

namespace Pool

variable {α : Type}

def new (config : PoolConfig) : Pool α := ⟨config, .empty, [], [], 0, true, true, false, 0⟩

def group (p : Pool α) (name : String) : Group α := (p.groups.get? name).getD .idle

/-- Offers a task. A refusal leaves the pool as it was. -/
def submit (p : Pool α) (name : String) (limit : Nat) (work : α) : Except DeliveryError (Pool α) :=
  if ¬ p.accepting then .error (.rejected name)
  else if p.config.capacity ≤ p.outstanding then .error (.queueFull name p.config.capacity)
  else
    let g := (p.group name).joined limit ⟨p.nextTicket, name, work⟩
    .ok { p with
      groups := p.groups.insert name g.promoted
      ready := p.ready ++ g.passing
      outstanding := p.outstanding + 1
      nextTicket := p.nextTicket + 1 }

/-- A free worker takes the first task in the line. -/
def pickUp (p : Pool α) : Option (Job α × Pool α) :=
  match p.ready with
  | [] => none
  | job :: rest =>
    if p.staffed ∧ p.held.length < p.config.workerCount then
      some (job, { p with ready := rest, held := p.held ++ [job] })
    else none

/-- The table after a task of a group completed, and the tasks that come through for it. -/
def released (p : Pool α) (name : String) : Table String (Group α) × List (Job α) :=
  match p.groups.get? name with
  | none => (p.groups, [])
  | some g =>
    let g := g.relieved
    if g.promoted.isIdle then (p.groups.erase name, g.passing)
    else (p.groups.insert name g.promoted, g.passing)

/-- A worker has completed the task with a ticket, in whatever way. -/
def complete (p : Pool α) (ticket : Nat) : Pool α :=
  match p.held.find? (fun job => job.ticket == ticket) with
  | none => p
  | some job =>
    let (groups, through) := p.released job.group
    { p with
      groups := groups
      ready := p.ready ++ through
      held := p.held.filter (fun job => job.ticket != ticket)
      outstanding := p.outstanding - 1 }

/-- The work of a task that a worker holds is given a new form. -/
def revise (p : Pool α) (ticket : Nat) (work : α) : Pool α :=
  { p with held := p.held.map (fun job => if job.ticket = ticket then { job with work } else job) }

def stopAccepting (p : Pool α) : Pool α := { p with accepting := false }

/-- The time that a shutdown gives the tasks is over, and there are some left. Workers take no more of them,
but one that is done by the time it looks up still completes the task that it holds. -/
def timeOut (p : Pool α) : Pool α :=
  if p.accepting = false ∧ p.staffed ∧ p.outstanding ≠ 0 then { p with staffed := false, late := true } else p

/-- The end of a shutdown. If its time is over, it tells how many tasks are left once the workers are gone,
which may be none; what is left is dropped with the groups. -/
def conclude (p : Pool α) (timeout : Span) : Except DeliveryError Unit × Pool α :=
  if p.outstanding = 0 ∧ p.late = false then (.ok (), { p with accepting := false, staffed := false })
  else
    (.error (.shutdownTimeout timeout p.outstanding),
      { p with accepting := false, staffed := false, late := false, groups := .empty, ready := [], held := [] })

/-- What can be seen of a group; nothing if it has no tasks. -/
def view? (p : Pool α) (name : String) : Option GroupView :=
  (p.groups.get? name).map (fun g => ⟨g.running, g.queue.length, g.limit⟩)

def activeGroups (p : Pool α) : Nat := p.groups.size

/-! ## Runs -/

/-- What may happen to a pool. -/
inductive Step (α : Type)
  | submit (group : String) (limit : Nat) (work : α)
  | pickUp
  | complete (ticket : Nat)
  | stopAccepting
  | timeOut
  | conclude (timeout : Span)

/-- The pool after a step. A step that is not possible changes nothing. -/
def step (p : Pool α) : Step α → Pool α
  | .submit group limit work => (p.submit group limit work).toOption.getD p
  | .pickUp => (p.pickUp.map Prod.snd).getD p
  | .complete ticket => p.complete ticket
  | .stopAccepting => p.stopAccepting
  | .timeOut => p.timeOut
  | .conclude timeout => (p.conclude timeout).2

def run (p : Pool α) (steps : List (Step α)) : Pool α := steps.foldl step p

/-! ## Texts -/

def offerText (group : String) (limit : Nat) : String :=
  "GTask \x7b group: " ++ Text.quoted group ++ ", concurrency: " ++ toString (max limit 1) ++ ", .. \x7d"

def text (p : Pool α) : String :=
  "GroupedExecutor \x7b config: ExecutorConfig \x7b worker_count: " ++ toString p.config.workers ++
    ", max_pending: " ++ toString p.config.maxPending ++ " \x7d, outstanding: " ++
    toString p.outstanding ++ ", accepting: " ++ (if p.accepting then "true" else "false") ++ ", .. \x7d"

end Pool
end Courier
