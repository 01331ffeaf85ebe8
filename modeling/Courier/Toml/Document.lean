import Courier.Toml.Value

/-!
# TOML documents

A document is a list of lines: comments, headers of tables, and keys with their values, each of which
belongs to the table of the last header before it.
-/
namespace Courier.Toml

/-- A document as it is read. -/
structure Draft where
  root : Entries
  /-- The path of the table that keys belong to. -/
  current : List String

/-- The parts of a path: the keys on the way and the last one. -/
def pathAndKey (keys : List String) : List String × String := (keys.dropLast, keys.getLast?.getD "")

/-- A key and its value, after what belongs to them on the line. -/
def pairLine (d : Draft) (cs : List Char) : Option (Draft × List Char) := do
  let (keys, rest) ← keys cs
  let (v, rest) ← anyValue (skipBlanks (← Text.afterWord? "=" rest))
  let rest ← closeLine? rest
  let (path, key) := pathAndKey keys
  let root ← within false (assign path key v) d.current false d.root
  return ({ d with root }, rest)

def headerLine (d : Draft) (isElement : Bool) (cs : List Char) : Option (Draft × List Char) := do
  let (keys, rest) ← keys cs
  let rest ← closeLine? (← Text.afterWord? (if isElement then "]]" else "]") rest)
  let (path, key) := pathAndKey keys
  let root ← if isElement then openElement path key d.root else openTable path key d.root
  return (⟨root, keys⟩, rest)

def line (d : Draft) (cs : List Char) : Option (Draft × List Char) :=
  match cs with
  | '#' :: _ => (closeLine? cs).map (fun rest => (d, rest))
  | '\n' :: rest => some (d, rest)
  | '[' :: '[' :: rest => headerLine d true rest
  | '[' :: rest => headerLine d false rest
  | _ => pairLine d cs

/-- The lines of a document, within a number of them. -/
def lines : Nat → Draft → List Char → Option Draft
  | 0, _, _ => none
  | fuel + 1, d, cs =>
    match skipBlanks cs with
    | [] => some d
    | cs => do
      let (d, rest) ← line d cs
      lines fuel d rest

/-- The characters of a document with line feeds only at the ends of lines. -/
def plainLines : List Char → List Char
  | '\r' :: '\n' :: rest => '\n' :: plainLines rest
  | c :: rest => c :: plainLines rest
  | [] => []

/-- The characters of a document without the mark that it may start with. -/
def skipMark : List Char → List Char
  | '\ufeff' :: rest => rest
  | cs => cs

/-- The names that a document gives values to, if it is well-formed. -/
def ofString? (text : String) : Option (List (String × SettingValue)) :=
  let cs := plainLines (skipMark text.toList)
  (lines (cs.length + 1) ⟨[], []⟩ cs).map (fun d => finishedEntries d.root)

end Courier.Toml
