import Courier.Alarm
import Courier.Clock
import Courier.Error
import Courier.Watchdog.Basic

/-!
# Scenarios of a watchdog

A watchdog is driven step by step over containers that count what is asked of them. Loops may run that
look at the connection whenever the interval has passed.
-/
namespace Courier.Scenario

/-- A container and what was asked of it. Some count only what they did not refuse. -/
structure CountedContainer where
  container : Container
  countsRefusals : Bool
  registers : Nat
  destroys : Nat

/-- A watchdog with its surroundings. -/
structure WatchdogRun where
  watchdog : Watchdog
  containers : List CountedContainer
  connected : Bool
  /-- Whether looking at the connection fails. -/
  erroring : Bool
  /-- How often the connection was looked at. -/
  probes : Nat
  clock : Clock
  /-- The loops that wait, by number. -/
  loops : Alarms Nat
  /-- How many loops were started. -/
  started : Nat

namespace CountedContainer

def count (c : CountedContainer) (call : ContainerCall) : CountedContainer :=
  if call.refused && !c.countsRefusals then c
  else match call.request with
    | .register => { c with registers := c.registers + 1 }
    | .destroy => { c with destroys := c.destroys + 1 }

/-- Asks a container by hand, whatever its state. -/
def ask (c : CountedContainer) (r : Request) : Except TransportError CountedContainer :=
  if r.isRefusedBy c.container then .error (.connection "subscription refused")
  else .ok ({ c with container := r.answeredBy c.container }.count ⟨0, r, false⟩)

/-- Puts a container into a state by hand. One that counts refusals is simply set; any other is asked,
and may refuse. -/
def setActive (c : CountedContainer) (on : Bool) : Except TransportError CountedContainer :=
  if c.countsRefusals then .ok { c with container := { c.container with active := on } }
  else c.ask (if on then .register else .destroy)

end CountedContainer

namespace WatchdogRun

def new (config : WatchdogConfig) (containers : List CountedContainer) (connected : Bool) : WatchdogRun :=
  ⟨.new config, containers, connected, false, 0, .startedAt default, .none, 0⟩

/-- Looks at the connection once. A look that fails finds no connection. -/
def check (s : WatchdogRun) : Transition × WatchdogRun :=
  let found := s.containers.map CountedContainer.container
  let (t, watchdog, left) := s.watchdog.check (s.connected && !s.erroring) s.clock.elapsed.toNat found
  let counted := s.containers.zipIdx.map (fun p =>
    ((t.calls found).filter (fun call => call.place = p.2)).foldl CountedContainer.count p.1)
  (t, { s with
    watchdog
    containers := (counted.zip left).map (fun p => { p.1 with container := p.2 })
    probes := s.probes + 1 })

def wait (s : WatchdogRun) (loop : Nat) : WatchdogRun :=
  { s with loops := s.loops.set (s.clock.elapsed.toNat + s.watchdog.config.checkInterval.nanos) loop }

def start (s : WatchdogRun) : WatchdogRun := { s with started := s.started + 1 }.wait s.started

/-- Ends the loop that was started last. Nothing is left of it. -/
def cancel (s : WatchdogRun) : Bool × WatchdogRun :=
  (0 < s.started, { s with loops := s.loops.cancel (fun loop => loop + 1 = s.started) })

/-- Lets time pass up to a count of the clock. Loops look at the connection at their deadlines. -/
def passTo (target : Nat) : Nat → WatchdogRun → WatchdogRun
  | 0, s => s
  | fuel + 1, s =>
    match s.loops.due? target with
    | none => s
    | some (alarm, loops) =>
      let clock := s.clock.advance (.ofNanos (alarm.deadline - s.clock.elapsed.toNat))
      passTo target fuel ({ s with clock, loops }.check.2.wait alarm.purpose)

/-- Lets some time pass. Each loop looks at most once in each of its intervals. -/
def advance (s : WatchdogRun) (time : Span) : WatchdogRun :=
  let target := s.clock.elapsed.toNat + time.nanos
  let looks := time.nanos / max s.watchdog.config.checkInterval.nanos 1 + 1
  let s := passTo target (s.loops.size * looks) s
  { s with clock := s.clock.advance (.ofNanos (target - s.clock.elapsed.toNat)) }

def change (s : WatchdogRun) (place : Nat) (f : CountedContainer → CountedContainer) : WatchdogRun :=
  { s with containers := s.containers.modify place f }

/-- Puts a container into a state by hand, if it lets itself. -/
def setActive (s : WatchdogRun) (place : Nat) (on : Bool) : Except TransportError Unit × WatchdogRun :=
  match s.containers[place]? with
  | none => (.ok (), s)
  | some c =>
    match c.setActive on with
    | .ok c => (.ok (), s.change place (fun _ => c))
    | .error e => (.error e, s)

/-- Makes a container refuse to be registered, or not. -/
def failRegister (s : WatchdogRun) (place : Nat) (on : Bool) : WatchdogRun :=
  s.change place (fun c => { c with container := { c.container with refusesRegister := on } })

/-- Makes a container refuse to be destroyed, or not. Only one that counts refusals can. -/
def failDestroy (s : WatchdogRun) (place : Nat) (on : Bool) : WatchdogRun :=
  s.change place (fun c =>
    if c.countsRefusals then { c with container := { c.container with refusesDestroy := on } } else c)

end WatchdogRun
end Courier.Scenario
