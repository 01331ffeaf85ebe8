import Courier.Text.Hidden

/-!
# Quoted text

Texts that appear inside a message stand in quotes. Quotes, backslashes, line ends, tabs and
characters that cannot be seen are escaped, so that two different texts never look alike.
-/
namespace Courier.Text

/-- The escape of one character inside quotes, or the character itself. -/
def escaped (c : Char) : List Char :=
  if c = '"' ∨ c = '\\' then ['\\', c]
  else if c = '\n' then ['\\', 'n']
  else if c = '\r' then ['\\', 'r']
  else if c = '\t' then ['\\', 't']
  else if c.toNat = 0 then ['\\', '0']
  else if isHidden c then '\\' :: 'u' :: '\x7b' :: (Nat.toDigits 16 c.toNat ++ ['\x7d'])
  else [c]

def quoted (s : String) : String := String.ofList ('"' :: (s.toList.flatMap escaped ++ ['"']))

end Courier.Text
