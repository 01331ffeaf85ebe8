import Courier.Message.Basic
import Courier.Json.Reader
import Courier.Json.Written
import Courier.Digest
import Courier.Error

/-!
# Envelopes

The written form of a message, and reading it back. A message is written as a record of its fields
in a fixed order; the target handler appears only if there is one. A message that has never been
delivered (count zero) is refused.
-/
namespace Courier

open Json (Value Items Members Reader Shape field freeField need)

/-! ## Topics -/

namespace Topic

def toValue (t : Topic) : Value :=
  .ofMembers [("service_id", .ofString t.service), ("code", .ofString t.code)]

/-- A topic being read. -/
structure Draft where
  service : Option String
  code : Option String

def shape : Shape Draft Topic where
  title := "struct Topic"
  listTitle := Json.listTitle "struct Topic" 2
  empty := ⟨none, none⟩
  fields := [
    field "service_id" Json.text Draft.service (fun a d => { d with service := some a }),
    field "code" Json.text Draft.code (fun a d => { d with code := some a })]
  strict := false
  make d := do
    let service ← need "service_id" d.service
    let code ← need "code" d.code
    return ⟨service, code⟩

end Topic

/-! ## Times of dispatch -/

namespace Dispatch

/-- The kinds of dispatch. -/
inductive Kind
  | timely
  | delayed

def kinds : List (String × Kind) := [("timely", .timely), ("delayed", .delayed)]

/-- A time of dispatch as a value: its kind, and the delay if there is one. -/
def toValue : Dispatch → Value
  | .timely => .ofMembers [("kind", .ofString "timely")]
  | .delayed seconds =>
    .ofMembers [("kind", .ofString "delayed"), ("delay_seconds", .ofNat seconds.toNat)]

def readKind : Reader Kind
  | .text s => do Json.variantNamed kinds (← Json.keyText s)
  | v => .error (Json.unlike "variant identifier" v)

/-- A delay being read. -/
structure Draft where
  seconds : Option UInt64

def delayShape : Shape Draft Dispatch where
  title := "struct variant Dispatch::Delayed"
  listTitle := Json.listTitle "struct variant Dispatch::Delayed" 1
  empty := ⟨none⟩
  fields := [field "delay_seconds" Json.longWord Draft.seconds (fun a _ => ⟨some a⟩)]
  strict := false
  make d := do return .delayed (← need "delay_seconds" d.seconds)

def elements (n : Nat) : String :=
  toString n ++ (if n = 1 then " element" else " elements") ++ " in sequence"

/-- The kind of a record and its other members, the last first. The whole record is looked at before
anything is made of it. -/
def gather (depth : Nat) (kind : Option Kind) (others : List (Json.Spelling × Value)) :
    Members → Except Json.Fault (Kind × Members)
  | .close => do return (← need "kind" kind, .behind others .close)
  | .broken | .stray _ => .error .malformed
  | .more key v rest => do
    if (← Json.keyText key) = "kind" then
      if kind.isSome then throw (.unfit (.repeatedField "kind"))
      gather depth (some (← readKind v)) others rest
    else if v.isKeepable depth then gather depth kind ((key, v) :: others) rest
    else throw .malformed

/-- The time of dispatch that a kind and a list of its contents make. -/
def ofList (kind : Kind) (contents : List Value) : Except Json.Fault Dispatch :=
  match kind, contents with
  | .timely, [] => .ok .timely
  | .timely, vs => .error (.unfit (.wrongLength vs.length (elements 0)))
  | .delayed, [] => .error (.unfit (.wrongLength 0 delayShape.listTitle))
  | .delayed, v :: vs => do
    let seconds ← Json.longWord v
    if vs = [] then return .delayed seconds
    else throw (.unfit (.wrongLength (vs.length + 1) (elements 1)))

/-- Reads a time of dispatch inside `depth` containers that may still be opened. -/
def read (depth : Nat) : Reader Dispatch
  | .record members => do
    match ← gather (depth - 1) none [] members with
    | (.timely, _) => return .timely
    | (.delayed, others) => delayShape.make (← delayShape.readMembers delayShape.empty others)
  | .list .close => .error (.unfit (.missingField "kind"))
  | .list (.more v rest) => do
    let kind ← readKind v
    if rest.isKeepable (depth - 1) then ofList kind rest.toList else throw .malformed
  | .list .broken => .error .malformed
  | v => .error (Json.unlike "internally tagged enum Dispatch" v)

end Dispatch

/-! ## Messages -/

namespace Message

def members (m : Message) : List (String × Value) :=
  [("request_id", .ofString m.requestId),
    ("topic", m.topic.toValue),
    ("body", .ofItems (m.body.map (fun b => .ofNat b.toNat))),
    ("deliver_count", .ofNat m.deliverCount.toNat),
    ("polling_count", .ofNat m.pollingCount.toNat),
    ("fail_retry_count", .ofNat m.failRetryCount.toNat),
    ("is_retry", .bool m.isRetry),
    ("dispatch", m.dispatch.toValue),
    ("created_at", .ofString m.createdAt.text)] ++
  match m.targetHandler with
  | some handler => [("target_handler", .ofString handler)]
  | none => []

def toValue (m : Message) : Value := .ofMembers m.members

/-- A message being read. -/
structure Draft where
  requestId : Option String
  topic : Option Topic
  body : Option (List UInt8)
  deliverCount : Option UInt32
  pollingCount : Option UInt32
  failRetryCount : Option UInt32
  isRetry : Option Bool
  dispatch : Option Dispatch
  createdAt : Option Instant
  targetHandler : Option (Option String)

def shape : Shape Draft Message where
  title := "struct Message"
  listTitle := Json.listTitle "struct Message" 10
  empty := ⟨none, none, none, none, none, none, none, none, none, none⟩
  fields := [
    field "request_id" Json.text Draft.requestId (fun a d => { d with requestId := some a }),
    field "topic" Topic.shape.read Draft.topic (fun a d => { d with topic := some a }),
    field "body" Json.bytes Draft.body (fun a d => { d with body := some a }),
    field "deliver_count" Json.word Draft.deliverCount (fun a d => { d with deliverCount := some a }),
    field "polling_count" Json.word Draft.pollingCount (fun a d => { d with pollingCount := some a }),
    field "fail_retry_count" Json.word Draft.failRetryCount
      (fun a d => { d with failRetryCount := some a }),
    field "is_retry" Json.bool Draft.isRetry (fun a d => { d with isRetry := some a }),
    field "dispatch" (Dispatch.read (Json.depthLimit - 1)) Draft.dispatch
      (fun a d => { d with dispatch := some a }),
    field "created_at" Json.instant Draft.createdAt (fun a d => { d with createdAt := some a }),
    freeField "target_handler" (Json.optional Json.text) Draft.targetHandler
      (fun a d => { d with targetHandler := some a })]
  strict := false
  make d := do
    let requestId ← need "request_id" d.requestId
    let topic ← need "topic" d.topic
    let body ← need "body" d.body
    let deliverCount ← need "deliver_count" d.deliverCount
    let pollingCount ← need "polling_count" d.pollingCount
    let failRetryCount ← need "fail_retry_count" d.failRetryCount
    let isRetry ← need "is_retry" d.isRetry
    let dispatch ← need "dispatch" d.dispatch
    let createdAt ← need "created_at" d.createdAt
    return ⟨requestId, topic, body, deliverCount, pollingCount, failRetryCount, isRetry, dispatch,
      createdAt, d.targetHandler.join⟩

def encode (m : Message) : List UInt8 := m.toValue.written

/-- A message read from a document, whatever its counters. -/
def read (bytes : List UInt8) : Except Json.Fault Message := Json.readDocument shape.read bytes

/-- The message that bytes spell. It has to have been delivered once at least. -/
def decode (bytes : List UInt8) : Except TransportError Message :=
  match read bytes with
  | .error fault => .error (.serialization fault.message)
  | .ok m =>
    if m.deliverCount = 0 then .error (.serialization "deliver_count must be at least 1") else .ok m

def digest (encoded : List UInt8) : String := Digest.hexText (Digest.sha256 encoded)

end Message
end Courier
