import Courier.Watchdog.Config

/-!
# The watchdog

A watchdog looks at a connection from time to time. A loss that is noticed starts a count; once it has
lasted for the threshold, the watchdog destroys all containers that are active, and the first look that
finds the connection again registers all that are not. A container may refuse either.
-/
namespace Courier

/-- What a look at the connection led to. -/
inductive Transition
  | unchanged
  /-- The connection is back, and containers are registered again. -/
  | registered
  /-- The first look that found no connection. -/
  | lossDetected
  /-- The loss has lasted, and containers are destroyed. -/
  | destroyed
deriving DecidableEq, Repr

namespace Transition

def text : Transition → String
  | .unchanged => "Unchanged"
  | .registered => "Registered"
  | .lossDetected => "LossDetected"
  | .destroyed => "Destroyed"

end Transition

/-- What the watchdog knows between two looks. -/
structure Watchdog where
  config : WatchdogConfig
  /-- Whether the containers are meant to be active. -/
  active : Bool
  /-- The clock at the first look that found no connection, until one finds it again. -/
  lostAt : Option Nat
deriving DecidableEq

namespace Watchdog

def new (config : WatchdogConfig) : Watchdog := ⟨config, true, none⟩

/-- Looks at the connection. The clock counts nanoseconds. -/
def look (w : Watchdog) (connected : Bool) (now : Nat) : Transition × Watchdog :=
  if connected then
    (if w.active then .unchanged else .registered, { w with active := true, lostAt := none })
  else
    let since := w.lostAt.getD now
    let lost := { w with lostAt := some since }
    if w.config.lossThreshold.nanos ≤ now - since ∧ w.active then
      (.destroyed, { lost with active := false })
    else (if w.lostAt.isSome then .unchanged else .lossDetected, lost)

end Watchdog

/-! ## Containers -/

/-- What a container is asked to do. -/
inductive Request
  | register
  | destroy
deriving DecidableEq, Repr

/-- A container of listeners. -/
structure Container where
  name : String
  active : Bool
  /-- Whether the container refuses to be registered. -/
  refusesRegister : Bool
  /-- Whether the container refuses to be destroyed. -/
  refusesDestroy : Bool
deriving DecidableEq

namespace Request

def isRefusedBy : Request → Container → Bool
  | .register, c => c.refusesRegister
  | .destroy, c => c.refusesDestroy

/-- The state that a container is asked to be in. -/
def wanted : Request → Bool
  | .register => true
  | .destroy => false

/-- Whether a container is asked: only if it is not in the wanted state. -/
def concerns (r : Request) (c : Container) : Bool := c.active != r.wanted

def answeredBy (r : Request) (c : Container) : Container :=
  if r.isRefusedBy c then c else { c with active := r.wanted }

end Request

/-- A request that was made to the container at a place. -/
structure ContainerCall where
  place : Nat
  request : Request
  refused : Bool
deriving DecidableEq

namespace Transition

def request? : Transition → Option Request
  | .registered => some .register
  | .destroyed => some .destroy
  | .unchanged | .lossDetected => none

def apply (t : Transition) (containers : List Container) : List Container :=
  match t.request? with
  | none => containers
  | some r => containers.map (fun c => if r.concerns c then r.answeredBy c else c)

/-- The calls that a transition makes, in order. -/
def calls (t : Transition) (containers : List Container) : List ContainerCall :=
  match t.request? with
  | none => []
  | some r =>
    (containers.zipIdx.filter (fun p => r.concerns p.1)).map
      (fun p => ⟨p.2, r, r.isRefusedBy p.1⟩)

end Transition

namespace Watchdog

/-- Looks at the connection and sees to the containers. -/
def check (w : Watchdog) (connected : Bool) (now : Nat) (containers : List Container) :
    Transition × Watchdog × List Container :=
  let (t, w) := w.look connected now
  (t, w, t.apply containers)

end Watchdog
end Courier
