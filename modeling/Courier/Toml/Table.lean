import Courier.Settings.Value

/-!
# Tables of a document

A document defines its tables bit by bit: by keys with points, by headers, and by headers of arrays of
tables. Each definition adds to what is there, within rules that keep a table from being defined
twice. A table that only appears on the way to another one is implicit, and dotted if it appeared in
a key with points.
-/
namespace Courier.Toml

/-- What a name stands for. -/
inductive Node
  | value (v : SettingValue)
  | table (implicit dotted : Bool) (entries : List (String × Node))
  /-- An array of tables, the last one first. -/
  | tables (elements : List (List (String × Node)))

abbrev Entries := List (String × Node)

def Entries.get? (entries : Entries) (key : String) : Option Node :=
  (entries.find? (fun e => e.1 == key)).map Prod.snd

/-- Entries in which a name stands for something else. -/
def Entries.put (entries : Entries) (key : String) (node : Node) : Entries :=
  (key, node) :: entries.filter (fun e => e.1 != key)

/-- Changes the table at the end of a path. Tables on the way that are missing appear as implicit ones;
of an array of tables the last one is meant. Keys with points do not lead into tables that are defined
by a header or a value. The change is told whether its table is dotted. -/
def within (byPoints : Bool) (change : Bool → Entries → Option Entries) :
    List String → Bool → Entries → Option Entries
  | [], dotted, entries => change dotted entries
  | key :: path, _, entries =>
    match entries.get? key with
    | none => do
      let inner ← within byPoints change path byPoints []
      return entries.put key (.table true byPoints inner)
    | some (.table implicit dotted inner) =>
      if byPoints ∧ ¬ implicit then none
      else do
        let inner ← within byPoints change path dotted inner
        return entries.put key (.table implicit dotted inner)
    | some (.tables (last :: earlier)) => do
      let last ← within byPoints change path false last
      return entries.put key (.tables (last :: earlier))
    | some _ => none

/-- Gives a key with points a value, within a table. -/
def assign (path : List String) (key : String) (v : SettingValue) (dotted : Bool) (entries : Entries) :
    Option Entries :=
  let put (dotted : Bool) (entries : Entries) : Option Entries :=
    if dotted = path.isEmpty ∨ (entries.get? key).isSome then none else some (entries.put key (.value v))
  within true put path dotted entries

/-- Defines a table by its header. Only one that is missing or implicit can be. -/
def openTable (path : List String) (key : String) (root : Entries) : Option Entries :=
  let define (_ : Bool) (entries : Entries) : Option Entries :=
    match entries.get? key with
    | none => some (entries.put key (.table false false []))
    | some (.table true false inner) => some (entries.put key (.table false false inner))
    | some _ => none
  within false define path false root

/-- Adds a table to an array of tables by its header. -/
def openElement (path : List String) (key : String) (root : Entries) : Option Entries :=
  let add (_ : Bool) (entries : Entries) : Option Entries :=
    match entries.get? key with
    | none => some (entries.put key (.tables [[]]))
    | some (.tables elements) => some (entries.put key (.tables ([] :: elements)))
    | some _ => none
  within false add path false root

/-! ## Finished tables -/

mutual

def Node.finished : Node → SettingValue
  | .value v => v
  | .table _ _ entries => .table (finishedEntries entries)
  | .tables elements => .list (finishedElements elements)

def finishedEntries : List (String × Node) → List (String × SettingValue)
  | [] => []
  | (key, node) :: rest => (key, node.finished) :: finishedEntries rest

/-- The values of an array of tables, the last one first. -/
def finishedElements : List (List (String × Node)) → List SettingValue
  | [] => []
  | entries :: rest => .table (finishedEntries entries) :: finishedElements rest

end

end Courier.Toml
