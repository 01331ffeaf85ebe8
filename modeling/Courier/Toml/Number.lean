import Courier.Calendar
import Courier.Decimal.Nearest
import Courier.Settings.Value
import Courier.Text.Reading

/-!
# Numbers and moments of a document

Integers in four bases, binary fractions, and dates and times. Digits may be set apart by single
underscores. A moment is only checked: it counts as a table with a single entry of a reserved name.
-/
namespace Courier.Toml

open Text (afterWord? sign)

/-- Digits with single underscores between them; at least one digit. -/
def digits (isDigit : Char → Bool) : List Char → Option (List Char × List Char)
  | [] => none
  | c :: rest =>
    if isDigit c then
      match rest with
      | '_' :: after => (digits isDigit after).map (fun p => (c :: p.1, p.2))
      | [] => some ([c], [])
      | d :: after =>
        if isDigit d then (digits isDigit (d :: after)).map (fun p => (c :: p.1, p.2))
        else some ([c], d :: after)
    else none

/-- The value of a digit in any base up to sixteen. -/
def digitValue (c : Char) : Nat :=
  if c ≤ '9' then c.toNat - '0'.toNat
  else if c ≤ 'F' then c.toNat - 'A'.toNat + 10
  else c.toNat - 'a'.toNat + 10

def numberOf (base : Nat) (digits : List Char) : Nat :=
  digits.foldl (fun n c => n * base + digitValue c) 0

/-- Decimal digits that do not start with a zero, unless that is all. -/
def wholeDigits (cs : List Char) : Option (List Char × List Char) :=
  match cs with
  | '0' :: rest => some (['0'], rest)
  | _ => digits Char.isDigit cs

def signed (negative : Bool) (n : Nat) : Option SettingValue :=
  if negative then if n ≤ 0x8000000000000000 then some (.signed (-(n : Int))) else none
  else if n < 0x8000000000000000 then some (.signed n) else none

/-- An integer in a base other than ten. -/
def based (base : Nat) (isDigit : Char → Bool) (cs : List Char) : Option (SettingValue × List Char) := do
  let (ds, rest) ← digits isDigit cs
  return (← signed false (numberOf base ds), rest)

def integer (cs : List Char) : Option (SettingValue × List Char) :=
  match cs with
  | '0' :: 'x' :: rest => based 16 (fun c => c.isDigit || ('a' ≤ c && c ≤ 'f') || ('A' ≤ c && c ≤ 'F')) rest
  | '0' :: 'o' :: rest => based 8 (fun c => '0' ≤ c && c ≤ '7') rest
  | '0' :: 'b' :: rest => based 2 (fun c => c = '0' || c = '1') rest
  | _ => do
    let (negative, rest) := sign cs
    let (ds, rest) ← wholeDigits rest
    return (← signed negative (numberOf 10 ds), rest)

/-- The places behind the point, if there are any. -/
def places (cs : List Char) : Option (List Char × List Char) :=
  match cs with
  | '.' :: rest => digits Char.isDigit rest
  | _ => some ([], cs)

/-- The power of ten, if there is one. -/
def power (cs : List Char) : Option (Option Int × List Char) :=
  match cs with
  | [] => some (none, [])
  | c :: rest =>
    if c = 'e' ∨ c = 'E' then do
      let (negative, rest) := sign rest
      let (ds, rest) ← digits Char.isDigit rest
      let n : Int := numberOf 10 ds
      return (some (if negative then -n else n), rest)
    else some (none, cs)

/-- A number with places or a power of ten. One beyond the largest is refused, unless it is
negative. -/
def decimal (cs : List Char) : Option (SettingValue × List Char) := do
  let (negative, rest) := sign cs
  let (whole, rest) ← wholeDigits rest
  let (fraction, rest) ← places rest
  let (exponent, rest) ← power rest
  if fraction.isEmpty ∧ exponent.isNone then none
  else
    let size := Decimal.nearest (numberOf 10 (whole ++ fraction)) (exponent.getD 0 - fraction.length)
    if size.isInf ∧ ¬ negative then none
    else some (.float (if negative then -size else size), rest)

def special (cs : List Char) : Option (SettingValue × List Char) :=
  let (negative, rest) := sign cs
  match afterWord? "inf" rest, afterWord? "nan" rest with
  | some rest, _ => some (.float (if negative then -Decimal.infinity else Decimal.infinity), rest)
  | _, some rest => some (.float (0.0 / 0.0), rest)
  | _, _ => none

/-! ## Moments -/

/-- A number of exactly so many digits, within bounds. -/
def field (width low high : Nat) (cs : List Char) : Option (Nat × List Char) :=
  let ds := cs.take width
  let n := numberOf 10 ds
  if ds.length = width ∧ ds.all Char.isDigit ∧ low ≤ n ∧ n ≤ high then some (n, cs.drop width) else none

def afterDate (cs : List Char) : Option (List Char) := do
  let (year, rest) ← field 4 0 9999 cs
  let (month, rest) ← field 2 1 12 (← afterWord? "-" rest)
  let (day, rest) ← field 2 1 31 (← afterWord? "-" rest)
  if (Calendar.date? year month day).isSome then some rest else none

/-- What follows a fraction of a second, if there is one. -/
def afterFraction : List Char → List Char
  | '.' :: c :: rest => if c.isDigit then rest.dropWhile Char.isDigit else '.' :: c :: rest
  | cs => cs

/-- What follows a time of day. The last minute of a day may have a second more. -/
def afterTime (cs : List Char) : Option (List Char) := do
  let (_, rest) ← field 2 0 23 cs
  let (_, rest) ← field 2 0 59 (← afterWord? ":" rest)
  let (_, rest) ← field 2 0 60 (← afterWord? ":" rest)
  return afterFraction rest

/-- What follows the distance to universal time, if it is given. -/
def afterOffset (cs : List Char) : Option (List Char) :=
  match cs with
  | [] => some []
  | c :: rest =>
    if c = 'Z' ∨ c = 'z' then some rest
    else if c = '+' ∨ c = '-' then do
      let (_, rest) ← field 2 0 23 rest
      let (_, rest) ← field 2 0 59 (← afterWord? ":" rest)
      return rest
    else some cs

/-- What follows the time of day that follows a date, if there is one. -/
def afterDateTime (cs : List Char) : Option (List Char) :=
  match cs with
  | [] => some []
  | c :: rest =>
    if c = 'T' ∨ c = 't' ∨ c = ' ' then
      match afterTime rest with
      | some rest => afterOffset rest
      | none => some cs
    else some cs

def afterMoment (cs : List Char) : Option (List Char) :=
  match afterDate cs with
  | some rest => afterDateTime rest
  | none => afterTime cs

def moment (cs : List Char) : Option (SettingValue × List Char) := do
  let rest ← afterMoment cs
  let written := cs.take (cs.length - rest.length)
  return (.table [("$__toml_private_datetime", .text (String.ofList written))], rest)

def number (cs : List Char) : Option (SettingValue × List Char) :=
  (((moment cs).orElse (fun _ => decimal cs)).orElse (fun _ => special cs)).orElse (fun _ => integer cs)

end Courier.Toml
