import Courier.Span
import Courier.Json.Reader
import Courier.Json.Written

/-!
# Spans as records

A span is written as a record of its seconds and nanoseconds. Other members are refused.
-/
namespace Courier.Span

open Json (Value field need)

def toValue (s : Span) : Value := .ofMembers [("secs", .ofNat s.seconds), ("nanos", .ofNat s.subNanos)]

/-- A span being read. -/
structure Draft where
  seconds : Option UInt64
  nanos : Option UInt32

/-- The record of a span. Nanoseconds of a second or more carry over. -/
def shape : Json.Shape Draft Span where
  title := "struct Duration"
  listTitle := "struct Duration"
  empty := ⟨none, none⟩
  fields := [
    field "secs" Json.longWord Draft.seconds (fun a d => { d with seconds := some a }),
    field "nanos" Json.word Draft.nanos (fun a d => { d with nanos := some a })]
  strict := true
  make d := do
    let seconds ← need "secs" d.seconds
    let nanos ← need "nanos" d.nanos
    match ofParts? seconds.toNat nanos.toNat with
    | some s => return s
    | none => throw (.unfit .longSpan)

end Courier.Span
