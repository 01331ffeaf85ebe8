import Courier.Json.Number
import Courier.Json.Spelling

/-!
# Written values

The bytes of a value, without blanks between the tokens.
-/
namespace Courier.Json

/-- The letter after the backslash of a short escape. -/
def shortLetter (b : UInt8) : UInt8 :=
  if b = 0x08 then 0x62
  else if b = 0x0C then 0x66
  else if b = 0x0A then 0x6E
  else if b = 0x0D then 0x72
  else if b = 0x09 then 0x74
  else b

def hexByte (n : Nat) : UInt8 := if n < 10 then (0x30 + n).toUInt8 else (0x57 + n).toUInt8

def Piece.written : Piece → List UInt8
  | .plain b => [b]
  | .short b => [0x5C, shortLetter b]
  | .unit u =>
    [0x5C, 0x75, hexByte (u.toNat / 4096), hexByte (u.toNat / 256 % 16), hexByte (u.toNat / 16 % 16),
      hexByte (u.toNat % 16)]

/-- The bytes of a text with its quotes. -/
def Spelling.written (s : Spelling) : List UInt8 := 0x22 :: s.flatMap Piece.written ++ [0x22]

mutual

/-- The bytes of a value. What broke off has none. -/
def Value.written : Value → List UInt8
  | .null => [0x6E, 0x75, 0x6C, 0x6C]
  | .bool true => [0x74, 0x72, 0x75, 0x65]
  | .bool false => [0x66, 0x61, 0x6C, 0x73, 0x65]
  | .number n => n.bytes
  | .text s => Spelling.written s
  | .list .close => [0x5B, 0x5D]
  | .list (.more v rest) => 0x5B :: v.written ++ rest.written
  | .list .broken => [0x5B]
  | .record .close => [0x7B, 0x7D]
  | .record (.more key v rest) => 0x7B :: Spelling.written key ++ 0x3A :: v.written ++ rest.written
  | .record _ => [0x7B]
  | .broken => []

/-- The bytes of the rest of a list after an item. -/
def Items.written : Items → List UInt8
  | .close => [0x5D]
  | .broken => []
  | .more v rest => 0x2C :: v.written ++ rest.written

/-- The bytes of the rest of a record after a member. -/
def Members.written : Members → List UInt8
  | .close => [0x7D]
  | .broken | .stray _ => []
  | .more key v rest => 0x2C :: Spelling.written key ++ 0x3A :: v.written ++ rest.written

end

def Value.ofString (s : String) : Value := .text (.ofString s)

def Value.ofNat (n : Nat) : Value := .number (.ofNat n)

def Value.ofMembers (ms : List (String × Value)) : Value :=
  .record (.ofList (ms.map (fun m => (Spelling.ofString m.1, m.2))))

def Value.ofItems (vs : List Value) : Value := .list (.ofList vs)

/-- The characters that a value is written in. -/
def Value.writtenText (v : Value) : String := (String.fromUTF8? v.written.toByteArray).getD ""

end Courier.Json
