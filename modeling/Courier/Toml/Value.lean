import Courier.Toml.Number
import Courier.Toml.Table
import Courier.Toml.Text

/-!
# Values of a document

Texts, numbers, moments, truth values, arrays and inline tables. An array may go over several lines
and end in a comma; an inline table may not.
-/
namespace Courier.Toml

open Text (afterWord? apostrophe)

def plainValue (cs : List Char) : Option (SettingValue × List Char) :=
  match cs with
  | [] => none
  | c :: _ =>
    if c = '"' ∨ c = apostrophe then (quotedText cs).map (fun p => (.text (String.ofList p.1), p.2))
    else if c = 't' then (afterWord? "true" cs).map (fun rest => (.bool true, rest))
    else if c = 'f' then (afterWord? "false" cs).map (fun rest => (.bool false, rest))
    else number cs

mutual

/-- A value inside some number of others. The first number bounds the steps. -/
def value : Nat → Nat → List Char → Option (SettingValue × List Char)
  | 0, _, _ => none
  | fuel + 1, depth, cs =>
    match cs with
    | '[' :: rest => if depth + 1 < depthLimit then items fuel (depth + 1) [] rest else none
    | '\x7b' :: rest => if depth + 1 < depthLimit then pairs fuel (depth + 1) none rest else none
    | _ => plainValue cs

/-- The items of an array after those that were read, the last one first. -/
def items : Nat → Nat → List SettingValue → List Char → Option (SettingValue × List Char)
  | 0, _, _, _ => none
  | fuel + 1, depth, before, cs =>
    match skipSpace false cs with
    | ']' :: rest => some (.list before.reverse, rest)
    | cs => do
      let (v, rest) ← value fuel depth cs
      match skipSpace false rest with
      | ',' :: rest => items fuel depth (v :: before) rest
      | ']' :: rest => return (.list (v :: before).reverse, rest)
      | _ => none

/-- The entries of an inline table after those that were read. Before the first one it may close. -/
def pairs : Nat → Nat → Option Entries → List Char → Option (SettingValue × List Char)
  | 0, _, _, _ => none
  | fuel + 1, depth, before, cs =>
    match before, skipBlanks cs with
    | none, '\x7d' :: rest => some (.table [], rest)
    | _, cs => do
      let (path, rest) ← keys cs
      let v ← afterWord? "=" rest
      let (v, rest) ← value fuel depth (skipBlanks v)
      let entries ← assign path.dropLast (path.getLast?.getD "") v false (before.getD [])
      match skipBlanks rest with
      | ',' :: rest => pairs fuel depth (some entries) rest
      | '\x7d' :: rest => return (.table (finishedEntries entries), rest)
      | _ => none

end

def anyValue (cs : List Char) : Option (SettingValue × List Char) := value (2 * cs.length + 2) 0 cs

end Courier.Toml
