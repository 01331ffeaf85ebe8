import Courier.Engine.Delivery

/-!
# Stand-ins

In a scenario the handlers and interceptors follow simple rules. A handler plays a script, or takes
note of all messages and lets each of them wait, or fails a number of times. An interceptor keeps a
log, or takes the handler's place for some requests.
-/
namespace Courier.Scenario

/-- How a call of a handler goes. -/
structure HandlerAct where
  /-- Whether the handler waits at a gate first. -/
  atGate : Bool
  outcome : Except HandlerError Unit

/-- The rule that a handler follows. -/
inductive HandlerRule
  /-- The acts for the calls with one request id, in order; the last one repeats. Some request ids have
  acts of their own. -/
  | scripted (acts : List HandlerAct) (special : List (String × List HandlerAct))
  /-- Every call takes some time and succeeds. -/
  | recording (processing : Span)
  /-- A number of calls fail, or all of them. -/
  | failing (times : Option Nat)

/-- A handler and its calls so far. -/
structure HandlerDouble where
  rule : HandlerRule
  calls : Nat
  /-- Calls for each request id. -/
  callsFor : Table String Nat
  /-- Calls that have not ended. -/
  inFlight : Nat
  /-- The most calls that overlapped. -/
  maxInFlight : Nat

/-- How a call begins. -/
inductive HandlerStart
  | done (outcome : Except HandlerError Unit)
  | atGate (outcome : Except HandlerError Unit)
  | asleep (time : Span)

namespace HandlerDouble

def new (rule : HandlerRule) : HandlerDouble := ⟨rule, 0, .empty, 0, 0⟩

/-- The handler at the beginning of another call. -/
def entered (h : HandlerDouble) (requestId : String) : HandlerDouble :=
  { h with
    calls := h.calls + 1
    callsFor := h.callsFor.insert requestId ((h.callsFor.get? requestId).getD 0 + 1)
    inFlight := h.inFlight + 1
    maxInFlight := max h.maxInFlight (h.inFlight + 1) }

/-- The handler at the end of a call. -/
def left (h : HandlerDouble) : HandlerDouble := { h with inFlight := h.inFlight - 1 }

/-- The act at a place in a script. -/
def actAt (acts : List HandlerAct) (place : Nat) : HandlerAct :=
  (acts[min place (acts.length - 1)]?).getD ⟨false, .ok ()⟩

def next (h : HandlerDouble) (requestId : String) : HandlerStart :=
  match h.rule with
  | .scripted acts special =>
    let own := ((special.find? (fun p => p.1 == requestId)).map Prod.snd).getD acts
    let act := actAt own ((h.callsFor.get? requestId).getD 0)
    if act.atGate then .atGate act.outcome else .done act.outcome
  | .recording processing => if processing = .zero then .done (.ok ()) else .asleep processing
  | .failing times =>
    if times.any (fun n => n ≤ h.calls) then .done (.ok ())
    else .done (.error ⟨"simulated failure #" ++ toString (h.calls + 1)⟩)

end HandlerDouble

/-- The rule that an interceptor follows. -/
inductive InterceptorDouble
  /-- Takes the handler's place for some requests. -/
  | short (requests : List String)
  /-- Lets everything pass. -/
  | plain
  /-- Keeps a log. Takes the handler's place for some requests, and breaks off for others. -/
  | log (skipped crashing : List String)

namespace InterceptorDouble

def decide : InterceptorDouble → Message → Interception
  | .short requests, m => if requests.contains m.requestId then .shortCircuit else .proceed
  | .plain, _ => .proceed
  | .log skipped crashing, m =>
    if crashing.contains m.requestId then .crash
    else if skipped.contains m.requestId then .shortCircuit
    else .proceed

def isLogging : InterceptorDouble → Bool
  | .log _ _ => true
  | _ => false

def isCounting : InterceptorDouble → Bool
  | .short _ => true
  | _ => false

end InterceptorDouble
end Courier.Scenario
