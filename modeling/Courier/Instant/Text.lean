import Courier.Instant.Basic
import Courier.Text.Blank

/-!
# The text of an instant

Instants are written as `2024-01-01T00:00:00.5Z`: date, time and the letter for universal time, with
none, three, six or nine decimal places, the fewest that are exact. A year outside 0 to 9999 carries
its sign. Reading is more generous: blanks around the fields, a space or a small letter between date
and time, any offset, and any number of decimal places.
-/
namespace Courier.Instant

/-! ## Writing -/

/-- The decimal places of a number of nanoseconds. -/
def fractionText (nanos : Nat) : String :=
  if nanos = 0 then ""
  else if nanos % 1000000 = 0 then "." ++ Span.padded 3 (nanos / 1000000)
  else if nanos % 1000 = 0 then "." ++ Span.padded 6 (nanos / 1000)
  else "." ++ Span.padded 9 nanos

/-- A year in four digits, with its sign if it is not among 0 to 9999. -/
def yearText (year : Int) : String :=
  if 0 ≤ year ∧ year ≤ 9999 then Span.padded 4 year.toNat
  else (if year < 0 then "-" else "+") ++ Span.padded 4 year.natAbs

/-- The written form of an instant. A leap second is written as the second that follows: at the end of a
minute as second 60. -/
def text (t : Instant) : String :=
  let date := Calendar.ofDayNumber (t.second / 86400)
  let ofDay := (t.second % 86400).toNat
  let second := ofDay % 60 + t.nano / 1000000000
  yearText date.year ++ "-" ++ Span.padded 2 date.month ++ "-" ++ Span.padded 2 date.day ++ "T" ++
    Span.padded 2 (ofDay / 3600) ++ ":" ++ Span.padded 2 (ofDay / 60 % 60) ++ ":" ++
    Span.padded 2 second ++ fractionText (t.nano % 1000000000) ++ "Z"

/-! ## Reading -/

/-- Why a text is no instant. -/
inductive Misread
  /-- The text ends too early. -/
  | short
  /-- A character does not belong where it stands. -/
  | foreign
  /-- A field or the date as a whole does not exist. -/
  | outOfRange
  /-- The text goes on after the offset. -/
  | trailing
  /-- The offset leads out of the calendar. -/
  | impossible
deriving DecidableEq, Repr

def Misread.message : Misread → String
  | .short => "premature end of input"
  | .foreign => "input contains invalid characters"
  | .outOfRange => "input is out of range"
  | .trailing => "trailing input"
  | .impossible => "no possible date and time matching input"

def digit? (c : Char) : Option Nat :=
  if '0' ≤ c ∧ c ≤ '9' then some (c.toNat - 48) else none

/-- The value of the digits at the start of a text, at most `width` of them if there is a width, and
what follows. The value stays below 2^63 at every digit. -/
def digitsFrom (value : Nat) : Option Nat → List Char → Except Misread (Nat × List Char)
  | some 0, cs => .ok (value, cs)
  | _, [] => .ok (value, [])
  | width, c :: cs =>
    match digit? c with
    | none => .ok (value, c :: cs)
    | some d =>
      if 0x8000000000000000 ≤ value * 10 + d then .error .outOfRange
      else digitsFrom (value * 10 + d) (width.map (· - 1)) cs

def number (width : Option Nat) : List Char → Except Misread (Nat × List Char)
  | [] => .error .short
  | c :: cs => if (digit? c).isSome then digitsFrom 0 width (c :: cs) else .error .foreign

/-- A field of two digits that has to lie between bounds, after blanks. -/
def field (low high : Nat) (cs : List Char) : Except Misread (Nat × List Char) := do
  let (value, rest) ← number (some 2) (Text.afterBlanks cs)
  if low ≤ value ∧ value ≤ high then return (value, rest) else throw .outOfRange

/-- The year: four digits, or any number of digits after a sign. -/
def yearField (cs : List Char) : Except Misread (Int × List Char) := do
  let (year, rest) ← match Text.afterBlanks cs with
    | '-' :: cs => do
      let (value, rest) ← number none cs
      pure (-(value : Int), rest)
    | '+' :: cs => do
      let (value, rest) ← number none cs
      pure ((value : Int), rest)
    | cs => do
      let (value, rest) ← number (some 4) cs
      pure ((value : Int), rest)
  if -0x80000000 ≤ year ∧ year < 0x80000000 then return (year, rest) else throw .outOfRange

def mark (wanted : Char) (cs : List Char) : Except Misread (List Char) :=
  match Text.afterBlanks cs with
  | [] => .error .short
  | c :: rest => if c = wanted then .ok rest else .error .foreign

def dateEnd : List Char → Except Misread (List Char)
  | [] => .error .short
  | c :: rest => if c = 'T' ∨ c = 't' ∨ c = ' ' then .ok rest else .error .foreign

/-- The decimal places of the seconds, in nanoseconds. Places after the ninth are passed over. -/
def fraction : List Char → Except Misread (Nat × List Char)
  | '.' :: cs => do
    let (value, rest) ← number (some 9) cs
    let places := cs.length - rest.length
    return (value * Nat.pow 10 (9 - places), rest.dropWhile (fun c => (digit? c).isSome))
  | cs => .ok (0, cs)

/-- Two digits of an offset. A lone character is too short unless it is no ASCII character. -/
def offsetDigits : List Char → Except Misread (Nat × Nat × List Char)
  | [] => .error .short
  | [c] => if c.toNat < 128 then .error .short else .error .foreign
  | c :: d :: rest =>
    match digit? c, digit? d with
    | some tens, some units => .ok (tens, units, rest)
    | _, _ => .error .foreign

/-- The seconds that local time is ahead of universal time. -/
def offset (cs : List Char) : Except Misread (Int × List Char) := do
  match cs with
  | [] => throw .short
  | c :: rest =>
    if c = 'Z' ∨ c = 'z' then return (0, rest)
    if (cs.take 3).map Char.toUpper = ['U', 'T', 'C'] then return (0, cs.drop 3)
    if c ≠ '+' ∧ c ≠ '-' ∧ c ≠ '−' then throw .foreign
    let (tens, units, rest) ← offsetDigits rest
    let hours := 10 * tens + units
    let (tens, units, rest) ← offsetDigits (rest.dropWhile (fun c => c = ':' || Text.isBlank c))
    if 6 ≤ tens then throw .outOfRange
    let ahead : Int := hours * 3600 + (10 * tens + units) * 60
    return (if c = '+' then ahead else -ahead, rest)

/-- The instant that a text names. The fields are checked from left to right, then the rest of the
text, the date as a whole and the offset. -/
def parse (cs : List Char) : Except Misread Instant := do
  let (year, cs) ← yearField cs
  let (month, cs) ← field 1 12 (← mark '-' cs)
  let (day, cs) ← field 1 31 (← mark '-' cs)
  let (hour, cs) ← field 0 23 (← dateEnd cs)
  let (minute, cs) ← field 0 59 (← mark ':' cs)
  let (second, cs) ← field 0 60 (← mark ':' cs)
  let (nanos, cs) ← fraction cs
  let (ahead, cs) ← offset (Text.afterBlanks cs)
  if Text.afterBlanks cs ≠ [] then throw .trailing
  match Calendar.date? year month day with
  | none => throw .outOfRange
  | some date =>
    if ¬ (-262143 ≤ year ∧ year ≤ 262142) then throw .outOfRange
    if ¬ (-86400 < ahead ∧ ahead < 86400) then throw .outOfRange
    let (second, nanos) := if second = 60 then (59, nanos + 1000000000) else (second, nanos)
    let wall := Calendar.dayNumber date * 86400 + (hour * 3600 + minute * 60 + second : Nat)
    match of? (wall - ahead) nanos with
    | some t => return t
    | none => throw .impossible

end Courier.Instant
