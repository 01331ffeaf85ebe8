/-!
# Reading characters

Small parts that readers of settings share: words, signs, and the characters that quoted texts hold.
-/
namespace Courier.Text

def apostrophe : Char := Char.ofNat 0x27

/-- Whether a character may stand in a comment or a quoted text: controls may not, save the tab. -/
def isPrintable (c : Char) : Bool := c = '\t' || (0x20 ≤ c.toNat && c.toNat ≠ 0x7F)

/-- What follows a word, if the characters start with it. -/
def afterWord? (word : String) (cs : List Char) : Option (List Char) :=
  if word.toList.isPrefixOf cs then some (cs.drop word.length) else none

/-- Whether a sign is negative, and what follows it. -/
def sign : List Char → Bool × List Char
  | '-' :: rest => (true, rest)
  | '+' :: rest => (false, rest)
  | cs => (false, cs)

end Courier.Text
