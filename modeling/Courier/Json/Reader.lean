import Courier.Json.Document
import Courier.Json.Fault

/-!
# Readers

A reader takes a value of some kind from a tree. Readers look at the tree from left to right and
report the first thing that is wrong: a number or a text of the wrong kind only after it was read to
its end, a list or a record as soon as it opens.
-/
namespace Courier.Json

abbrev Reader (α : Type) := Value → Except Fault α

/-- What stands in the place of something else. -/
def found? : Value → Option Found
  | .null => some .null
  | .bool b => some (.bool b)
  | .number n =>
    match n.value? with
    | some (.unsigned k) => some (.integer k)
    | some (.negative i) => some (.integer i)
    | some (.float f) => some (.float f)
    | none => none
  | .text s => (Spelling.toString? s).map .text
  | .list _ => some .list
  | .record _ => some .record
  | .broken => none

/-- The fault of a value that is not of the wanted type. -/
def unlike (wanted : String) (v : Value) : Fault :=
  match found? v with
  | some found => .unfit (.wrongType found wanted)
  | none => .malformed

def natural (limit : Nat) (wanted : String) : Reader Nat
  | .number n =>
    match n.value? with
    | some (.unsigned k) =>
      if k < limit then .ok k else .error (.unfit (.wrongValue (.integer k) wanted))
    | some (.negative i) => .error (.unfit (.wrongValue (.integer i) wanted))
    | some (.float f) => .error (.unfit (.wrongType (.float f) wanted))
    | none => .error .malformed
  | v => .error (unlike wanted v)

def byte : Reader UInt8 := fun v => do return (← natural 0x100 "u8" v).toUInt8

def word : Reader UInt32 := fun v => do return (← natural 0x100000000 "u32" v).toUInt32

def longWord : Reader UInt64 := fun v => do return (← natural 0x10000000000000000 "u64" v).toUInt64

def size : Reader Nat := natural 0x10000000000000000 "usize"

def float : Reader Float
  | .number n =>
    match n.value? with
    | some (.unsigned k) => .ok (Float.ofNat k)
    | some (.negative i) => .ok (Float.ofInt i)
    | some (.float f) => .ok f
    | none => .error .malformed
  | v => .error (unlike "f64" v)

def bool : Reader Bool
  | .bool b => .ok b
  | v => .error (unlike "a boolean" v)

/-- A text of a kind with a name. -/
def textAs (wanted : String) : Reader String
  | .text s =>
    match Spelling.toString? s with
    | some s => .ok s
    | none => .error .malformed
  | v => .error (unlike wanted v)

def text : Reader String := textAs "a string"

def optional {α : Type} (read : Reader α) : Reader (Option α)
  | .null => .ok none
  | v => do return some (← read v)

def instant : Reader Instant := fun v => do
  match Instant.parse (← textAs "an RFC 3339 formatted date and time string" v).toList with
  | .ok t => return t
  | .error why => throw (.unfit (.noInstant why))

/-- The items of a list, each read in turn. -/
def itemsOf {α : Type} (read : Reader α) : Items → Except Fault (List α)
  | .close => .ok []
  | .broken => .error .malformed
  | .more v rest => do
    let a ← read v
    return a :: (← itemsOf read rest)

/-- Bytes: a list of numbers, or a text taken byte for byte. -/
def bytes : Reader (List UInt8)
  | .list items => itemsOf byte items
  | .text s => .ok (Spelling.bytes s)
  | v => .error (unlike "byte array" v)

/-! ## Values that no reader wants -/

mutual

/-- Whether a value is complete. Of its texts only control characters are looked at, and its numbers
may be of any size. -/
def Value.isComplete : Value → Bool
  | .broken => false
  | .text s => isPassable s
  | .list items => items.isComplete
  | .record members => members.isComplete
  | _ => true

/-- Whether the items of a list are complete and the list is closed. -/
def Items.isComplete : Items → Bool
  | .close => true
  | .broken => false
  | .more v rest => v.isComplete && rest.isComplete

/-- Whether the members of a record are complete and the record is closed. -/
def Members.isComplete : Members → Bool
  | .close => true
  | .broken | .stray _ => false
  | .more key v rest => isPassable key && v.isComplete && rest.isComplete

end

mutual

/-- Whether a value can be kept for later: it is complete, its texts are characters, its numbers are
within range, and it nests fewer than `depth` containers. -/
def Value.isKeepable : Nat → Value → Bool
  | _, .broken => false
  | _, .text s => (Spelling.toString? s).isSome
  | _, .number n => n.value?.isSome
  | depth, .list items => 1 < depth && items.isKeepable (depth - 1)
  | depth, .record members => 1 < depth && members.isKeepable (depth - 1)
  | _, _ => true

/-- Whether the items of a list can be kept and the list is closed. -/
def Items.isKeepable : Nat → Items → Bool
  | _, .close => true
  | _, .broken => false
  | depth, .more v rest => v.isKeepable depth && rest.isKeepable depth

/-- Whether the members of a record can be kept and the record is closed. -/
def Members.isKeepable : Nat → Members → Bool
  | _, .close => true
  | _, .broken | _, .stray _ => false
  | depth, .more key v rest =>
    (Spelling.toString? key).isSome && v.isKeepable depth && rest.isKeepable depth

end

/-- How many containers may be nested where their contents are looked at, and one more. -/
def depthLimit : Nat := 128

def passOver (v : Value) : Except Fault Unit := if v.isComplete then .ok () else .error .malformed

/-! ## Records -/

/-- A field of a record that is read into a draft. -/
structure Field (δ : Type) where
  name : String
  /-- Whether a list may end before the field. -/
  mayLack : Bool
  isSet : δ → Bool
  read : Value → δ → Except Fault δ

/-- A kind of record: its fields in order, the draft they are read into, and the record a draft
makes. It may be given as a record or as the list of its fields. -/
structure Shape (δ α : Type) where
  title : String
  /-- What a list of the wrong length is told. -/
  listTitle : String
  empty : δ
  fields : List (Field δ)
  /-- Whether fields of other names are refused. -/
  strict : Bool
  make : δ → Except Fault α

def keyText (key : Spelling) : Except Fault String :=
  match Spelling.toString? key with
  | some name => .ok name
  | none => .error .malformed

namespace Shape

variable {δ α : Type}

/-- Reads the members of a record in the order they come. -/
def readMembers (shape : Shape δ α) (draft : δ) : Members → Except Fault δ
  | .close => .ok draft
  | .broken | .stray _ => .error .malformed
  | .more key v rest => do
    let name ← keyText key
    match shape.fields.find? (fun f => f.name == name) with
    | some field =>
      if field.isSet draft then throw (.unfit (.repeatedField name))
      readMembers shape (← field.read v draft) rest
    | none =>
      if shape.strict then throw (.unfit (.unknownField name (shape.fields.map Field.name)))
      passOver v
      readMembers shape draft rest

/-- The fault of a list that ends before these fields, the first of them in the given place. -/
def lacking (shape : Shape δ α) (place : Nat) : List (Field δ) → Except Fault Unit
  | [] => .ok ()
  | field :: later =>
    if field.mayLack then shape.lacking (place + 1) later
    else .error (.unfit (.wrongLength place shape.listTitle))

/-- Reads the items of a list as the fields in order. -/
def readItems (shape : Shape δ α) (place : Nat) : List (Field δ) → δ → Items → Except Fault δ
  | fields, draft, .close => do
    shape.lacking place fields
    return draft
  | field :: later, draft, .more v rest => do
    readItems shape (place + 1) later (← field.read v draft) rest
  | _, _, _ => .error .malformed

/-- Reads a record, or the list of its fields. -/
def read (shape : Shape δ α) : Reader α
  | .record members => do shape.make (← shape.readMembers shape.empty members)
  | .list items => do shape.make (← shape.readItems 0 shape.fields shape.empty items)
  | v => .error (unlike shape.title v)

end Shape

/-- The title of a record given as a list. -/
def listTitle (title : String) (count : Nat) : String :=
  title ++ " with " ++ toString count ++ (if count = 1 then " element" else " elements")

/-- A field of a draft, or the fault of its absence. -/
def need {α : Type} (name : String) : Option α → Except Fault α
  | some a => .ok a
  | none => .error (.unfit (.missingField name))

/-- A field that is kept in an optional place of the draft. -/
def field {δ α : Type} (name : String) (read : Reader α) (get : δ → Option α) (set : α → δ → δ) :
    Field δ where
  name := name
  mayLack := false
  isSet d := (get d).isSome
  read v d := do return set (← read v) d

def freeField {δ α : Type} (name : String) (read : Reader α) (get : δ → Option α) (set : α → δ → δ) :
    Field δ :=
  { field name read get set with mayLack := true }

/-- A record whose fields are numbers of one kind, read as the list of them. -/
def numbersShape (title : String) (read : Reader Nat) (names : List String) :
    Shape (List (String × Nat)) (List Nat) where
  title := title
  listTitle := listTitle title names.length
  empty := []
  fields := names.map (fun name =>
    field name read (fun d => (d.find? (fun p => p.1 == name)).map Prod.snd) (fun n d => (name, n) :: d))
  strict := false
  make d := names.mapM (fun name => need name ((d.find? (fun p => p.1 == name)).map Prod.snd))

/-! ## Alternatives -/

def variantNamed {α : Type} (known : List (String × α)) (name : String) : Except Fault α :=
  match known.find? (fun p => p.1 == name) with
  | some p => .ok p.2
  | none => .error (.unfit (.unknownVariant name (known.map Prod.fst)))

/-- An alternative without contents: its name, or a record of its name and nothing. -/
def variant {α : Type} (known : List (String × α)) : Reader α
  | .text s => do variantNamed known (← keyText s)
  | .record (.more key v rest) => do
    let a ← variantNamed known (← keyText key)
    match v with
    | .null => pure ()
    | v => throw (unlike "unit" v)
    match rest with
    | .close => return a
    | _ => throw .malformed
  | .record (.stray v) => .error (unlike "variant identifier" v)
  | _ => .error .malformed

/-- An alternative without contents, read from a value that was kept: a name, or a record with a
single member. -/
def keptVariant {α : Type} (known : List (String × α)) : Reader α
  | .text s => do variantNamed known (← keyText s)
  | .record (.more key v .close) => do
    let a ← variantNamed known (← keyText key)
    match v with
    | .null => return a
    | v => throw (unlike "unit" v)
  | .record _ => .error (.unfit (.wrongValue .record "map with a single key"))
  | v => .error (unlike "string or map" v)

def anything : Reader Value := fun v => if v.isKeepable depthLimit then .ok v else .error .malformed

def readDocument {α : Type} (read : Reader α) (bytes : List UInt8) : Except Fault α := do
  let document := Document.ofBytes bytes
  let a ← read document.value
  if document.clean then return a else throw .malformed

end Courier.Json
