import Courier.Scenario.EngineRun

/-!
# Reports of scenarios

What happened in a scenario since the last report. Calls of handlers and events are sorted by request
id and handler, and keep their order for each pair of these.
-/
namespace Courier.Scenario.EngineRun

/-- Whether a pair of a request id and a handler comes no later than another one. -/
def notAfter (a b : String × String) : Bool :=
  ((compare a.1 b.1).then (compare a.2 b.2)) != .gt

def handled (s : EngineRun) : List (String × Message) :=
  let calls := s.news.filterMap (fun (handler, call) => match call with
    | .handler m => some (handler, m)
    | _ => none)
  calls.mergeSort (fun a b => notAfter (a.2.requestId, a.1) (b.2.requestId, b.1))

def events (s : EngineRun) : List Event :=
  let events := s.news.filterMap (fun (_, call) => match call with
    | .event e => some e
    | _ => none)
  events.mergeSort (fun a b =>
    notAfter (a.attempt.requestId, a.attempt.handlerId) (b.attempt.requestId, b.attempt.handlerId))

/-- The lines of the interceptors that keep a log, in order. -/
def logLines (s : EngineRun) : List String :=
  let logs (place : Nat) : Bool := (s.interceptors[place]?).any InterceptorDouble.isLogging
  let line (what : String) (place : Nat) (m : Message) : String :=
    what ++ " " ++ toString place ++ " " ++ m.requestId ++ " " ++ toString m.deliverCount.toNat
  s.news.filterMap (fun (_, call) => match call with
    | .before place m => if logs place then some (line "before" place m) else none
    | .after place m => if logs place then some (line "after" place m) else none
    | _ => none)

def sortedLines (lines : List String) : List String := lines.mergeSort (fun a b => compare a b != .gt)

/-- The messages of a handler that have no tries left, with the last failure. -/
def failures (s : EngineRun) (handler : String) : List (Message × HandlerError) :=
  s.news.filterMap (fun (h, call) => match call with
    | .failCallback m why => if h = handler then some (m, why) else none
    | _ => none)

/-- How often a handler's fail callback was called. -/
def failureCount (s : EngineRun) (handler : String) : Nat :=
  s.countCalls (fun h call => match call with
    | .failCallback _ _ => h = handler
    | _ => false)

/-- How often the interceptor at a place was asked before and told after. -/
def interceptorCounts (s : EngineRun) (place : Nat) : Nat × Nat :=
  (s.countCalls (fun _ call => match call with
      | .before p _ => p = place
      | _ => false),
    s.countCalls (fun _ call => match call with
      | .after p _ => p = place
      | _ => false))

end Courier.Scenario.EngineRun
