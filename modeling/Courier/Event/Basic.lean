import Courier.Attempt.Basic
import Courier.Message.Envelope

/-!
# Events

What is reported about the delivery of messages: that a try starts, and how it ended. Every event
names the attempt it is about.
-/
namespace Courier

open Json (Value Reader field need)

/-- The attempt that an event is about. -/
structure AttemptContext where
  requestId : String
  topic : Topic
  handlerId : String
  deliverCount : UInt32
  isRetry : Bool
  startedAt : Instant
deriving DecidableEq

/-- What happened to a delivery. -/
inductive Event
  | attemptStarted (attempt : AttemptContext)
  | acked (attempt : AttemptContext) (shortCircuited : Bool)
  | retryScheduled (attempt : AttemptContext) (errorMessage : String) (retryInMs : UInt64)
  | exhausted (attempt : AttemptContext) (errorMessage : String)
deriving DecidableEq

/-- What an event says about an attempt for a message. -/
def Attempt.context (a : Attempt) (m : Message) : AttemptContext :=
  ⟨a.requestId, m.topic, a.handlerId, m.deliverCount, m.isRetry, a.startedAt⟩

def Event.attempt : Event → AttemptContext
  | .attemptStarted attempt => attempt
  | .acked attempt _ => attempt
  | .retryScheduled attempt _ _ => attempt
  | .exhausted attempt _ => attempt

/-! ## As records -/

namespace AttemptContext

def toValue (c : AttemptContext) : Value :=
  .ofMembers [("request_id", .ofString c.requestId),
    ("topic", c.topic.toValue),
    ("handler_id", .ofString c.handlerId),
    ("deliver_count", .ofNat c.deliverCount.toNat),
    ("is_retry", .bool c.isRetry),
    ("started_at", .ofString c.startedAt.text)]

/-- An attempt being read. -/
structure Draft where
  requestId : Option String
  topic : Option Topic
  handlerId : Option String
  deliverCount : Option UInt32
  isRetry : Option Bool
  startedAt : Option Instant

def shape : Json.Shape Draft AttemptContext where
  title := "struct AttemptContext"
  listTitle := Json.listTitle "struct AttemptContext" 6
  empty := ⟨none, none, none, none, none, none⟩
  fields := [
    field "request_id" Json.text Draft.requestId (fun a d => { d with requestId := some a }),
    field "topic" Topic.shape.read Draft.topic (fun a d => { d with topic := some a }),
    field "handler_id" Json.text Draft.handlerId (fun a d => { d with handlerId := some a }),
    field "deliver_count" Json.word Draft.deliverCount (fun a d => { d with deliverCount := some a }),
    field "is_retry" Json.bool Draft.isRetry (fun a d => { d with isRetry := some a }),
    field "started_at" Json.instant Draft.startedAt (fun a d => { d with startedAt := some a })]
  strict := false
  make d := do
    let requestId ← need "request_id" d.requestId
    let topic ← need "topic" d.topic
    let handlerId ← need "handler_id" d.handlerId
    let deliverCount ← need "deliver_count" d.deliverCount
    let isRetry ← need "is_retry" d.isRetry
    let startedAt ← need "started_at" d.startedAt
    return ⟨requestId, topic, handlerId, deliverCount, isRetry, startedAt⟩

end AttemptContext

namespace Event

/-- An event as a value: a record with its kind as the only member. -/
def toValue : Event → Value
  | .attemptStarted attempt => .ofMembers [("AttemptStarted", attempt.toValue)]
  | .acked attempt shortCircuited =>
    .ofMembers [("Acked",
      .ofMembers [("attempt", attempt.toValue), ("short_circuited", .bool shortCircuited)])]
  | .retryScheduled attempt errorMessage retryInMs =>
    .ofMembers [("RetryScheduled",
      .ofMembers [("attempt", attempt.toValue), ("error_message", .ofString errorMessage),
        ("retry_in_ms", .ofNat retryInMs.toNat)])]
  | .exhausted attempt errorMessage =>
    .ofMembers [("Exhausted",
      .ofMembers [("attempt", attempt.toValue), ("error_message", .ofString errorMessage)])]

/-- The kinds of events. -/
inductive Kind
  | attemptStarted
  | acked
  | retryScheduled
  | exhausted

def kinds : List (String × Kind) :=
  [("AttemptStarted", .attemptStarted), ("Acked", .acked), ("RetryScheduled", .retryScheduled),
    ("Exhausted", .exhausted)]

/-- The contents of an event being read. -/
structure Draft where
  attempt : Option AttemptContext
  shortCircuited : Option Bool
  errorMessage : Option String
  retryInMs : Option UInt64

/-- The record inside an event: its title, its fields and the event they make. -/
def contents (name : String) (fields : List (Json.Field Draft)) (make : Draft → Except Json.Fault Event) :
    Json.Shape Draft Event where
  title := "struct variant DeliveryEvent::" ++ name
  listTitle := Json.listTitle ("struct variant DeliveryEvent::" ++ name) fields.length
  empty := ⟨none, none, none, none⟩
  fields := fields
  strict := false
  make := make

def attemptField : Json.Field Draft :=
  field "attempt" AttemptContext.shape.read Draft.attempt (fun a d => { d with attempt := some a })

def errorField : Json.Field Draft :=
  field "error_message" Json.text Draft.errorMessage (fun a d => { d with errorMessage := some a })

def ackedContents : Json.Shape Draft Event :=
  contents "Acked"
    [attemptField,
      field "short_circuited" Json.bool Draft.shortCircuited
        (fun a d => { d with shortCircuited := some a })]
    (fun d => do
      let attempt ← need "attempt" d.attempt
      let shortCircuited ← need "short_circuited" d.shortCircuited
      return .acked attempt shortCircuited)

def retryContents : Json.Shape Draft Event :=
  contents "RetryScheduled"
    [attemptField, errorField,
      field "retry_in_ms" Json.longWord Draft.retryInMs (fun a d => { d with retryInMs := some a })]
    (fun d => do
      let attempt ← need "attempt" d.attempt
      let errorMessage ← need "error_message" d.errorMessage
      let retryInMs ← need "retry_in_ms" d.retryInMs
      return .retryScheduled attempt errorMessage retryInMs)

def exhaustedContents : Json.Shape Draft Event :=
  contents "Exhausted" [attemptField, errorField]
    (fun d => do
      let attempt ← need "attempt" d.attempt
      let errorMessage ← need "error_message" d.errorMessage
      return .exhausted attempt errorMessage)

/-- Reads the contents of an event of a kind. -/
def readContents : Kind → Reader Event
  | .attemptStarted => fun v => do return .attemptStarted (← AttemptContext.shape.read v)
  | .acked => ackedContents.read
  | .retryScheduled => retryContents.read
  | .exhausted => exhaustedContents.read

/-- Reads an event. A bare name has none of the contents that its kind asks for. -/
def read : Reader Event
  | .text s => do
    match ← Json.variantNamed kinds (← Json.keyText s) with
    | .attemptStarted => throw (.unfit (.wrongType .unitVariant "newtype variant"))
    | _ => throw (.unfit (.wrongType .unitVariant "struct variant"))
  | .record (.more key v rest) => do
    let kind ← Json.variantNamed kinds (← Json.keyText key)
    let event ← readContents kind v
    match rest with
    | .close => return event
    | _ => throw .malformed
  | .record (.stray v) => .error (Json.unlike "variant identifier" v)
  | _ => .error .malformed

end Event
end Courier
