/-!
# Values of structured text

The tree of a text in the notation for objects, lists and literals. The tree keeps what a reader has
to tell apart: how a character was written, how a number was spelled, and where the text broke off,
so that a fault is reported at the first place that shows one.
-/
namespace Courier.Json

abbrev Digit := Fin 10

/-- The power of ten of a number: an optional sign (`true` for minus) and digits. -/
structure Exponent where
  sign : Option Bool
  digits : List Digit
deriving DecidableEq

/-- The spelling of a number. -/
structure Numeral where
  negative : Bool
  whole : List Digit
  fraction : List Digit
  exponent : Option Exponent
deriving DecidableEq

/-- A part of a quoted text. -/
inductive Piece
  /-- A byte that stands for itself. -/
  | plain (b : UInt8)
  /-- A byte written as a backslash and a letter. -/
  | short (b : UInt8)
  /-- A 16-bit unit written in hexadecimal. -/
  | unit (u : UInt16)
deriving DecidableEq

abbrev Spelling := List Piece

mutual

/-- A value. -/
inductive Value
  | null
  | bool (b : Bool)
  | number (n : Numeral)
  | text (s : Spelling)
  | list (items : Items)
  | record (members : Members)
  /-- The text breaks off before the value is complete. -/
  | broken

/-- The rest of a list. -/
inductive Items
  | close
  /-- The text breaks off inside the list. -/
  | broken
  | more (v : Value) (rest : Items)

/-- The rest of a record. -/
inductive Members
  | close
  /-- The text breaks off inside the record. -/
  | broken
  /-- A value that is no text stands where the first key should. -/
  | stray (v : Value)
  | more (key : Spelling) (v : Value) (rest : Members)

end

instance : Inhabited Value := ⟨.null⟩

/-- Items in front of a rest, the last one first. -/
def Items.behind (before : List Value) (rest : Items) : Items :=
  before.foldl (fun rest v => .more v rest) rest

/-- Members in front of a rest, the last one first. -/
def Members.behind (before : List (Spelling × Value)) (rest : Members) : Members :=
  before.foldl (fun rest m => .more m.1 m.2 rest) rest

def Items.ofList (vs : List Value) : Items := vs.foldr .more .close

def Members.ofList (ms : List (Spelling × Value)) : Members :=
  ms.foldr (fun m rest => .more m.1 m.2 rest) .close

def Items.isClosed : Items → Bool
  | .close => true
  | .broken => false
  | .more _ rest => rest.isClosed

def Members.isClosed : Members → Bool
  | .close => true
  | .broken | .stray _ => false
  | .more _ _ rest => rest.isClosed

/-- Whether a text may stand for characters: a byte below the blank has to be escaped. -/
def isPassable (s : Spelling) : Bool :=
  s.all (fun p => match p with | .plain b => 0x20 ≤ b | _ => true)

def Items.toList : Items → List Value
  | .more v rest => v :: rest.toList
  | _ => []

def Members.toList : Members → List (Spelling × Value)
  | .more key v rest => (key, v) :: rest.toList
  | _ => []

end Courier.Json
