import Courier.Span.Fraction
import Courier.Span.Record

/-!
# Retry policies

A policy says how often a message that a handler failed on is tried again, and how long each try
waits. The wait stays the same, grows by the base, or doubles; it never passes the largest wait. A
policy with jitter spreads the waits by a fraction of themselves that chance decides.
-/
namespace Courier

open Json (Value field need)

/-- How waits grow from try to try. -/
inductive Growth
  | fixed
  | linear
  | exponential
deriving DecidableEq, Repr

namespace Growth

def named : List (String × Growth) :=
  [("fixed", .fixed), ("linear", .linear), ("exponential", .exponential)]

def text : Growth → String
  | .fixed => "fixed"
  | .linear => "linear"
  | .exponential => "exponential"

/-- How many base waits the wait after the `n`-th failure is. Doubling ends after twenty times. -/
def factor : Growth → Nat → Nat
  | .fixed, _ => 1
  | .linear, n => max n 1
  | .exponential, n => Nat.pow 2 (min (max n 1 - 1) 20)

end Growth

/-- When and how often a failed message is tried again. -/
structure RetryPolicy where
  /-- The number of failures after which there are no more tries. -/
  maxRetries : UInt32
  baseDelay : Span
  maxDelay : Span
  /-- The fraction of a wait by which chance may lengthen or shorten it. -/
  jitter : Float
  growth : Growth

/-- What follows a failure. -/
inductive Verdict
  | retry (delay : Span)
  | exhaust
deriving DecidableEq

namespace RetryPolicy

def standard : RetryPolicy := ⟨3, .ofSeconds 3, .ofSeconds 300, 0.0, .fixed⟩

instance : Inhabited RetryPolicy := ⟨standard⟩

/-- The wait after the `n`-th failure, chance aside. -/
def backoff (p : RetryPolicy) (n : UInt32) : Span :=
  (p.baseDelay.scale (p.growth.factor n.toNat)).shorter p.maxDelay

/-- The wait after the `n`-th failure. The draw is a number from -1 to 1 that chance provides; it
counts only under a policy with jitter. There is no wait, and whoever asks for it breaks off, if the
jitter is not a number or chance leads to a wait that no span holds. -/
def delay (p : RetryPolicy) (n : UInt32) (draw : Float) : Option Span :=
  let wait := p.backoff n
  if p.jitter ≤ 0.0 ∨ wait = .zero then some wait
  else if p.jitter.isNaN then none
  else
    let seconds := wait.toFloat
    let reach := seconds * (if 1.0 < p.jitter then 1.0 else p.jitter)
    let spread := seconds + draw * reach
    (Span.ofFloat? (if 0.0 < spread then spread else 0.0)).map (fun wait => wait.shorter p.maxDelay)

/-- What follows the `n`-th failure, if there is a wait for it. -/
def decide (p : RetryPolicy) (n : UInt32) (draw : Float) : Option Verdict :=
  if p.maxRetries ≤ n then some .exhaust else (p.delay n draw).map .retry

/-! ## As a record -/

def toValue (p : RetryPolicy) : Value :=
  .ofMembers [("max_retries", .ofNat p.maxRetries.toNat),
    ("base_delay", p.baseDelay.toValue),
    ("max_delay", p.maxDelay.toValue),
    ("jitter_factor", .ofFloat p.jitter),
    ("backoff_strategy", .ofString p.growth.text)]

/-- A policy being read. -/
structure Draft where
  maxRetries : Option UInt32
  baseDelay : Option Span
  maxDelay : Option Span
  jitter : Option Float
  growth : Option Growth

def shape : Json.Shape Draft RetryPolicy where
  title := "struct RetryPolicy"
  listTitle := Json.listTitle "struct RetryPolicy" 5
  empty := ⟨none, none, none, none, none⟩
  fields := [
    field "max_retries" Json.word Draft.maxRetries (fun a d => { d with maxRetries := some a }),
    field "base_delay" Span.shape.read Draft.baseDelay (fun a d => { d with baseDelay := some a }),
    field "max_delay" Span.shape.read Draft.maxDelay (fun a d => { d with maxDelay := some a }),
    field "jitter_factor" Json.float Draft.jitter (fun a d => { d with jitter := some a }),
    field "backoff_strategy" (Json.variant Growth.named) Draft.growth
      (fun a d => { d with growth := some a })]
  strict := false
  make d := do
    let maxRetries ← need "max_retries" d.maxRetries
    let baseDelay ← need "base_delay" d.baseDelay
    let maxDelay ← need "max_delay" d.maxDelay
    let jitter ← need "jitter_factor" d.jitter
    let growth ← need "backoff_strategy" d.growth
    return ⟨maxRetries, baseDelay, maxDelay, jitter, growth⟩

end RetryPolicy
end Courier
