import Courier.Json.Value

/-!
# Spelled texts

What a quoted text stands for. Read as characters, it has to be well-formed: no bare control
characters, surrogates only in pairs, and valid UTF-8. Read as bytes, anything goes and a lone
surrogate is kept in three bytes. Writing escapes quotes, backslashes and control characters only.
-/
namespace Courier.Json.Spelling

/-- The UTF-8 form of a code point, surrogates included. -/
def codePointBytes (n : Nat) : List UInt8 :=
  if n < 0x80 then [n.toUInt8]
  else if n < 0x800 then [(0xC0 + n / 64).toUInt8, (0x80 + n % 64).toUInt8]
  else if n < 0x10000 then
    [(0xE0 + n / 4096).toUInt8, (0x80 + n / 64 % 64).toUInt8, (0x80 + n % 64).toUInt8]
  else
    [(0xF0 + n / 262144).toUInt8, (0x80 + n / 4096 % 64).toUInt8, (0x80 + n / 64 % 64).toUInt8,
      (0x80 + n % 64).toUInt8]

/-- A unit that has to be followed by another one. -/
def isLeading (u : UInt16) : Bool := 0xD800 ≤ u && u ≤ 0xDBFF

def isTrailing (u : UInt16) : Bool := 0xDC00 ≤ u && u ≤ 0xDFFF

/-- The code point of a pair of units. -/
def pairValue (leading trailing : UInt16) : Nat :=
  0x10000 + (leading.toNat - 0xD800) * 0x400 + (trailing.toNat - 0xDC00)

/-- The bytes of a text. Lone surrogates are kept in three bytes. -/
def bytes : Spelling → List UInt8
  | [] => []
  | .plain b :: rest | .short b :: rest => b :: bytes rest
  | .unit u :: .unit v :: rest =>
    if isLeading u && isTrailing v then codePointBytes (pairValue u v) ++ bytes rest
    else codePointBytes u.toNat ++ bytes (.unit v :: rest)
  | .unit u :: rest => codePointBytes u.toNat ++ bytes rest

def isPaired : Spelling → Bool
  | [] => true
  | .plain _ :: rest | .short _ :: rest => isPaired rest
  | .unit u :: .unit v :: rest =>
    if isLeading u then isTrailing v && isPaired rest
    else !isTrailing u && isPaired (.unit v :: rest)
  | .unit u :: rest => !isLeading u && !isTrailing u && isPaired rest

/-- The characters of a text, if it is well-formed. -/
def toString? (s : Spelling) : Option String :=
  if isPassable s && isPaired s then String.fromUTF8? (bytes s).toByteArray else none

def ofByte (b : UInt8) : Piece :=
  if b = 0x22 || b = 0x5C || b = 0x08 || b = 0x0C || b = 0x0A || b = 0x0D || b = 0x09 then .short b
  else if b < 0x20 then .unit b.toUInt16
  else .plain b

def ofString (s : String) : Spelling := s.toUTF8.toList.map ofByte

end Courier.Json.Spelling
