import Courier.Decimal.Nearest
import Courier.Settings.Value
import Courier.Text.Blank
import Courier.Text.Escape
import Courier.Text.Reading

/-!
# Settings in the environment

A variable whose name starts with the lead of the settings gives a value to the setting that the rest
of its name spells, in any case; points lead into tables. Its text is a truth value, a number, a quoted
text or character, a list in brackets, a table in braces, or else a bare text. A text that is none of
these as a whole stands for itself.
-/
namespace Courier.Environment

open Text (afterWord? apostrophe isPrintable sign)

/-- Whether a character separates values from each other. -/
def isSpace (c : Char) : Bool := c = ' ' || c = '\t' || c = '\n' || c = '\r' || c = '\x0c'

/-- The characters from a place on without separating space. -/
def skipSpace (cs : List Char) : List Char := cs.dropWhile isSpace

/-- Whether a character may stand in a bare text. -/
def isBare (c : Char) : Bool := c ≠ ',' && c ≠ '\x7b' && c ≠ '\x7d' && c ≠ '[' && c ≠ ']'

/-- Whether a character may stand in a bare key. -/
def isKey (c : Char) : Bool := c.isAlphanum || c = '_' || c = '-'

def trimmed (cs : List Char) : List Char :=
  (Text.afterBlanks (Text.afterBlanks cs).reverse).reverse

/-! ## Numbers -/

/-- The number that decimal digits spell; there has to be one at least. -/
def natural? (cs : List Char) : Option Nat :=
  if cs.isEmpty then none
  else cs.foldl (fun n c => do
    let n ← n
    if c.isDigit then some (n * 10 + (c.toNat - '0'.toNat)) else none) (some 0)

/-- An integer: unsigned if it has no minus and fits, signed if it fits 64 bits. -/
def integer? (cs : List Char) : Option SettingValue :=
  let (negative, rest) := sign cs
  match natural? rest with
  | none => none
  | some n =>
    if negative then if n ≤ 0x8000000000000000 then some (.signed (-(n : Int))) else none
    else if n < 0x10000000000000000 then some (.unsigned n) else none

/-- A binary fraction: digits before or behind a point, and perhaps a power of ten. -/
def fraction? (cs : List Char) : Option SettingValue := do
  let (negative, rest) := sign cs
  let mantissa := rest.takeWhile (fun c => c ≠ 'e' && c ≠ 'E')
  let whole := mantissa.takeWhile (fun c => c ≠ '.')
  let places := (mantissa.dropWhile (fun c => c ≠ '.')).drop 1
  let digits ← natural? (whole ++ places)
  let exponent : Int ← match rest.drop mantissa.length with
    | [] => some 0
    | _ :: power =>
      let (down, ds) := sign power
      (natural? ds).map (fun n => if down then -(n : Int) else n)
  let size := Decimal.nearest digits (exponent - places.length)
  return .float (if negative then -size else size)

def bare (cs : List Char) : SettingValue :=
  let number := if cs.contains '.' then (fraction? cs).orElse (fun _ => integer? cs) else integer? cs
  number.getD (.text (String.ofList cs))

/-! ## Quoted texts -/

/-- A text up to its closing quote. A backslash hides the character after it. -/
def untilQuote : List Char → Option (List Char × List Char)
  | [] => none
  | '"' :: rest => some ([], rest)
  | '\\' :: c :: rest => (untilQuote rest).map (fun p => ('\\' :: c :: p.1, p.2))
  | c :: rest => (untilQuote rest).map (fun p => (c :: p.1, p.2))

def unescaped (cs : List Char) : Option (List Char) :=
  match cs with
  | [] => some []
  | '\\' :: rest =>
    match _escaped : Text.escape? rest with
    | none => none
    | some (c, after) => (unescaped after).map (fun text => c :: text)
  | c :: rest => if isPrintable c then (unescaped rest).map (fun text => c :: text) else none
termination_by cs.length
decreasing_by
  · have := Text.length_escape? _escaped; simp only [List.length_cons]; omega
  · simp

def quoted (cs : List Char) : Option (String × List Char) := do
  let (inside, rest) ← untilQuote cs
  return (String.ofList (← unescaped inside), rest)

def key (cs : List Char) : Option (String × List Char) :=
  match cs with
  | '"' :: rest => quoted rest
  | _ =>
    if (cs.takeWhile isKey).isEmpty then none
    else some (String.ofList (cs.takeWhile isKey), cs.dropWhile isKey)

def plainValue (cs : List Char) : Option (SettingValue × List Char) :=
  match afterWord? "true" cs, afterWord? "false" cs, cs with
  | some rest, _, _ => some (.bool true, rest)
  | _, some rest, _ => some (.bool false, rest)
  | _, _, '"' :: rest => (quoted rest).map (fun p => (.text p.1, p.2))
  | _, _, cs =>
    match cs with
    | a :: after =>
      if a = apostrophe then
        match after with
        | c :: b :: rest => if b = apostrophe then some (.char c, rest) else none
        | _ => none
      else some (bare (trimmed (cs.takeWhile isBare)), cs.dropWhile isBare)
    | [] => some (bare [], [])

/-! ## Lists and tables -/

mutual

/-- A value with the space around it. The first number bounds the steps. -/
def value : Nat → List Char → Option (SettingValue × List Char)
  | 0, _ => none
  | fuel + 1, cs => do
    let (v, rest) ← match skipSpace cs with
      | '[' :: rest => items fuel [] rest
      | '\x7b' :: rest => entries fuel [] rest
      | cs => plainValue cs
    return (v, skipSpace rest)

/-- The items of a list after those that were read, the last one first. -/
def items : Nat → List SettingValue → List Char → Option (SettingValue × List Char)
  | 0, _, _ => none
  | fuel + 1, before, cs =>
    match cs with
    | ']' :: rest => some (.list before.reverse, rest)
    | _ => do
      let (v, rest) ← value fuel cs
      match rest with
      | ',' :: rest => items fuel (v :: before) rest
      | ']' :: rest => return (.list (v :: before).reverse, rest)
      | _ => none

/-- The entries of a table after those that were read, the last one first. -/
def entries : Nat → List (String × SettingValue) → List Char → Option (SettingValue × List Char)
  | 0, _, _ => none
  | fuel + 1, before, cs =>
    match cs with
    | '\x7d' :: rest => some (.table before.reverse, rest)
    | _ => do
      let (name, rest) ← key (skipSpace cs)
      let (v, rest) ← value fuel (← afterWord? "=" (skipSpace rest))
      match rest with
      | ',' :: rest => entries fuel ((name, v) :: before) rest
      | '\x7d' :: rest => return (.table ((name, v) :: before).reverse, rest)
      | _ => none

end

/-- The value that the text of a variable stands for. -/
def valueOf (text : String) : SettingValue :=
  let cs := text.toList
  match value (2 * cs.length + 2) cs with
  | some (v, []) => v
  | _ => .text text

/-! ## Names -/

/-- The rest of a name that starts with a lead in any case, in lower case as far as ASCII goes. -/
def afterLead? (lead name : String) : Option (List Char) :=
  let cs := name.toList.map Char.toLower
  let start := lead.toList.map Char.toLower
  if start.isPrefixOf cs then some (cs.drop start.length) else none

/-- A value inside the tables of a path. -/
def nested (v : SettingValue) : List String → SettingValue
  | [] => v
  | name :: path => .table [(name, nested v path)]

/-- What a variable gives, if its name is that of a setting: no part of the name may be empty. -/
def given? (lead name text : String) : Option SettingValue := do
  let rest ← afterLead? lead name
  let path := (String.ofList (trimmed rest)).splitOn "."
  if path.any String.isEmpty then none else some (nested (valueOf text) path)

end Courier.Environment
