import Courier.Text.Escape
import Courier.Text.Reading

/-!
# Blanks, texts and keys of a document

The small parts of a TOML document: spaces and tabs, line ends, comments, the four kinds of quoted
text, and keys. Lines end in a line feed only. Each reader takes the characters from its place on and
yields what it read and the characters that follow.
-/
namespace Courier.Toml

open Text (apostrophe isPrintable)

/-- The characters from a place on without spaces and tabs. -/
def skipBlanks (cs : List Char) : List Char := cs.dropWhile (fun c => c = ' ' || c = '\t')

/-- What follows the end of a line, or the end of the document. -/
def endLine? : List Char → Option (List Char)
  | [] => some []
  | '\n' :: rest => some rest
  | _ => none

/-- What follows a comment, if there is one. -/
def skipComment : List Char → List Char
  | '#' :: rest => rest.dropWhile isPrintable
  | cs => cs

/-- What follows a line that holds no more than a comment. -/
def closeLine? (cs : List Char) : Option (List Char) := endLine? (skipComment (skipBlanks cs))

/-- What follows blanks, line ends and comments. Says first whether the place is inside a comment. -/
def skipSpace : Bool → List Char → List Char
  | _, [] => []
  | _, '\n' :: rest => skipSpace false rest
  | true, c :: rest => if isPrintable c then skipSpace true rest else c :: rest
  | false, c :: rest =>
    if c = '#' then skipSpace true rest
    else if c = ' ' ∨ c = '\t' then skipSpace false rest
    else c :: rest

/-! ## Quoted texts -/

/-- A text up to its closing quote, with escapes. -/
def basicText (cs : List Char) : Option (List Char × List Char) :=
  match cs with
  | [] => none
  | '"' :: rest => some ([], rest)
  | '\\' :: rest =>
    match _h : Text.escape? rest with
    | none => none
    | some (c, after) => (basicText after).map (fun p => (c :: p.1, p.2))
  | c :: rest => if isPrintable c then (basicText rest).map (fun p => (c :: p.1, p.2)) else none
termination_by cs.length
decreasing_by
  · have := Text.length_escape? _h; simp only [List.length_cons]; omega
  · simp

/-- A text up to its closing apostrophe, as it is. -/
def literalText : List Char → Option (List Char × List Char)
  | [] => none
  | c :: rest =>
    if c = apostrophe then some ([], rest)
    else if isPrintable c then (literalText rest).map (fun p => (c :: p.1, p.2))
    else none

/-- The end of a text over several lines: three quotes. Up to two more quotes before them belong to the
text. -/
def closed (quote : Char) (cs : List Char) : Option (List Char × List Char) :=
  let quotes := (cs.takeWhile (fun c => c = quote)).length
  if 3 ≤ quotes then
    let more := min (quotes - 3) 2
    some (List.replicate more quote, cs.drop (more + 3))
  else none

/-- What follows a backslash at the end of a line, if that is where it stands: the blanks and line
ends after it are left out. -/
def joinLines? (cs : List Char) : Option (List Char) :=
  match skipBlanks cs with
  | '\n' :: rest => some (rest.dropWhile (fun c => c = ' ' || c = '\t' || c = '\n'))
  | _ => none

theorem length_dropWhile_le (p : Char → Bool) (cs : List Char) : (cs.dropWhile p).length ≤ cs.length :=
  (List.dropWhile_sublist p).length_le

theorem length_joinLines? {cs rest : List Char} (h : joinLines? cs = some rest) :
    rest.length < cs.length := by
  unfold joinLines? at h
  split at h
  · rename_i after blank
    have kept := length_dropWhile_le (fun c => c = ' ' || c = '\t') cs
    have fewer := length_dropWhile_le (fun c => c = ' ' || c = '\t' || c = '\n') after
    rw [skipBlanks] at blank
    rw [blank] at kept
    simp only [Option.some.injEq] at h
    subst h
    simp only [List.length_cons] at kept
    omega
  · simp at h

/-- A text over several lines, with escapes, up to three quotes. -/
def longBasicText (cs : List Char) : Option (List Char × List Char) :=
  match cs with
  | [] => none
  | '"' :: rest =>
    match closed '"' cs with
    | some finish => some finish
    | none => (longBasicText rest).map (fun p => ('"' :: p.1, p.2))
  | '\\' :: rest =>
    match _joined : joinLines? rest with
    | some after => longBasicText after
    | none =>
      match _escaped : Text.escape? rest with
      | none => none
      | some (c, after) => (longBasicText after).map (fun p => (c :: p.1, p.2))
  | c :: rest =>
    if c = '\n' ∨ isPrintable c then (longBasicText rest).map (fun p => (c :: p.1, p.2)) else none
termination_by cs.length
decreasing_by
  · simp
  · have := length_joinLines? _joined; simp only [List.length_cons]; omega
  · have := Text.length_escape? _escaped; simp only [List.length_cons]; omega
  · simp

/-- A text over several lines, as it is, up to three apostrophes. -/
def longLiteralText : List Char → Option (List Char × List Char)
  | [] => none
  | c :: rest =>
    match closed apostrophe (c :: rest) with
    | some finish => some finish
    | none =>
      if c = '\n' ∨ isPrintable c then (longLiteralText rest).map (fun p => (c :: p.1, p.2)) else none

/-- A line end at the start of a text over several lines does not count. -/
def skipFirstLineEnd : List Char → List Char
  | '\n' :: rest => rest
  | cs => cs

def quotedText (cs : List Char) : Option (List Char × List Char) :=
  match cs with
  | '"' :: '"' :: '"' :: rest => longBasicText (skipFirstLineEnd rest)
  | '"' :: rest => basicText rest
  | _ =>
    if (cs.take 3) = [apostrophe, apostrophe, apostrophe] then longLiteralText (skipFirstLineEnd (cs.drop 3))
    else if cs.head? = some apostrophe then literalText cs.tail
    else none

/-! ## Keys -/

/-- Whether a character may stand in a key without quotes. -/
def isBare (c : Char) : Bool := c.isAlphanum || c = '_' || c = '-'

def simpleKey (cs : List Char) : Option (List Char × List Char) :=
  match cs with
  | '"' :: rest => basicText rest
  | c :: rest =>
    if c = apostrophe then literalText rest
    else if isBare c then some (cs.takeWhile isBare, cs.dropWhile isBare)
    else none
  | [] => none

/-- Keys with points between them, within a number of keys. -/
def keysWithin : Nat → List Char → Option (List String × List Char)
  | 0, _ => none
  | fuel + 1, cs => do
    let (key, rest) ← simpleKey (skipBlanks cs)
    match skipBlanks rest with
    | '.' :: rest =>
      let (later, rest) ← keysWithin fuel rest
      return (String.ofList key :: later, rest)
    | rest => return ([String.ofList key], rest)

/-- How deep a document may nest, and one more. -/
def depthLimit : Nat := 80

def keys (cs : List Char) : Option (List String × List Char) := keysWithin (depthLimit - 1) cs

end Courier.Toml
