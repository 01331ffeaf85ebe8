import Courier.Json.Value

/-!
# Documents

A document is one value with blanks around it. A machine reads its bytes one by one and keeps the
containers that are still open on a stack, so that nesting has no limit of its own. Where the bytes
stop making sense, the open containers are closed with a mark that says so.
-/
namespace Courier.Json

/-- A container that waits for the value being read. -/
inductive Frame
  /-- A list, with the items before this one, the last first. -/
  | item (before : List Value)
  /-- A record whose next key is being read. -/
  | key (before : List (Spelling × Value))
  /-- A record in which the value of a key is being read. -/
  | member (before : List (Spelling × Value)) (key : Spelling)
  /-- A record that starts with a value that is no key. -/
  | stray

/-- How far an escape in a text has been read. -/
inductive Escape
  | none
  | backslash
  /-- Hexadecimal digits, how many of them and what they amount to. -/
  | hex (count : Nat) (value : UInt16)

/-- What part of a number was read last. -/
inductive Stage
  | sign
  | zero
  | whole
  | point
  | fraction
  | mark
  | markSign
  | exponent

/-- A number being read, the last digits first. -/
structure Draft where
  negative : Bool
  whole : List Digit
  fraction : List Digit
  sign : Option Bool
  exponent : List Digit

def Draft.numeral (d : Draft) : Numeral :=
  ⟨d.negative, d.whole.reverse, d.fraction.reverse,
    if d.exponent.isEmpty then none else some ⟨d.sign, d.exponent.reverse⟩⟩

/-- What the machine expects next. -/
inductive Mode
  /-- A value. -/
  | value
  /-- The first item of a list or its end. -/
  | itemOrClose
  /-- The first key of a record or its end. -/
  | keyOrClose
  /-- A further key. -/
  | key
  /-- The colon after a key. -/
  | colon (key : Spelling)
  /-- A comma or the end of a list. -/
  | afterItem (before : List Value)
  /-- A comma or the end of a record. -/
  | afterMember (before : List (Spelling × Value))
  /-- The remaining letters of a literal. -/
  | word (letters : List UInt8) (v : Value)
  /-- More of a text, the last piece first. -/
  | text (pieces : Spelling) (escape : Escape)
  /-- More of a number. -/
  | number (draft : Draft) (stage : Stage)
  /-- Nothing but blanks; whether that has been so. -/
  | done (v : Value) (clean : Bool)
  /-- The text broke off and is looked at no more. -/
  | stopped (v : Value)

/-- A state of the machine. -/
structure Machine where
  mode : Mode
  stack : List Frame

def Machine.start : Machine := ⟨.value, []⟩

/-- The whole value, given the incomplete value at its innermost open place. -/
def unwind (v : Value) : List Frame → Value
  | [] => v
  | .item before :: stack => unwind (.list (.behind before (.more v .broken))) stack
  | .key before :: stack => unwind (.record (.behind before .broken)) stack
  | .member before key :: stack => unwind (.record (.behind before (.more key v .broken))) stack
  | .stray :: stack => unwind (.record (.stray v)) stack

def stop (v : Value) (stack : List Frame) : Machine := ⟨.stopped (unwind v stack), []⟩

def deliver (v : Value) : List Frame → Machine
  | [] => ⟨.done v true, []⟩
  | .item before :: stack => ⟨.afterItem (v :: before), stack⟩
  | .member before key :: stack => ⟨.afterMember ((key, v) :: before), stack⟩
  | .key before :: stack => stop (.record (.behind before .broken)) stack
  | .stray :: stack => stop (.record (.stray v)) stack

/-- A text is complete: a key or a value. -/
def deliverText (s : Spelling) : List Frame → Machine
  | .key before :: stack => ⟨.colon s, .key before :: stack⟩
  | stack => deliver (.text s) stack

/-- The blanks between tokens: space, tab, line feed and carriage return. -/
def isSpace (b : UInt8) : Bool := b = 0x20 || b = 0x09 || b = 0x0A || b = 0x0D

def digit? (b : UInt8) : Option Digit :=
  if h : 0x30 ≤ b.toNat ∧ b.toNat ≤ 0x39 then some ⟨b.toNat - 0x30, by omega⟩ else none

def hexDigit? (b : UInt8) : Option UInt16 :=
  if 0x30 ≤ b && b ≤ 0x39 then some (b - 0x30).toUInt16
  else if 0x41 ≤ b && b ≤ 0x46 then some (b - 0x37).toUInt16
  else if 0x61 ≤ b && b ≤ 0x66 then some (b - 0x57).toUInt16
  else none

/-- The byte that a letter after a backslash stands for. -/
def shortEscape? (b : UInt8) : Option UInt8 :=
  if b = 0x22 || b = 0x5C || b = 0x2F then some b
  else if b = 0x62 then some 0x08
  else if b = 0x66 then some 0x0C
  else if b = 0x6E then some 0x0A
  else if b = 0x72 then some 0x0D
  else if b = 0x74 then some 0x09
  else none

def beginValue (b : UInt8) (stack : List Frame) : Machine :=
  if b = 0x6E then ⟨.word [0x75, 0x6C, 0x6C] .null, stack⟩
  else if b = 0x74 then ⟨.word [0x72, 0x75, 0x65] (.bool true), stack⟩
  else if b = 0x66 then ⟨.word [0x61, 0x6C, 0x73, 0x65] (.bool false), stack⟩
  else if b = 0x22 then ⟨.text [] .none, stack⟩
  else if b = 0x5B then ⟨.itemOrClose, .item [] :: stack⟩
  else if b = 0x7B then ⟨.keyOrClose, .key [] :: stack⟩
  else if b = 0x2D then ⟨.number ⟨true, [], [], none, []⟩ .sign, stack⟩
  else match digit? b with
    | some d => ⟨.number ⟨false, [d], [], none, []⟩ (if d = 0 then .zero else .whole), stack⟩
    | none => stop .broken stack

def Machine.stepAfter (m : Machine) (b : UInt8) : Machine :=
  match m.mode with
  | .afterItem before =>
    if isSpace b then m
    else if b = 0x2C then ⟨.value, .item before :: m.stack⟩
    else if b = 0x5D then deliver (.list (.behind before .close)) m.stack
    else stop (.list (.behind before .broken)) m.stack
  | .afterMember before =>
    if isSpace b then m
    else if b = 0x2C then ⟨.key, .key before :: m.stack⟩
    else if b = 0x7D then deliver (.record (.behind before .close)) m.stack
    else stop (.record (.behind before .broken)) m.stack
  | .done v clean => ⟨.done v (clean && isSpace b), []⟩
  | _ => m

def stepText (pieces : Spelling) (escape : Escape) (stack : List Frame) (b : UInt8) : Machine :=
  match escape with
  | .none =>
    if b = 0x22 then deliverText pieces.reverse stack
    else if b = 0x5C then ⟨.text pieces .backslash, stack⟩
    else ⟨.text (.plain b :: pieces) .none, stack⟩
  | .backslash =>
    if b = 0x75 then ⟨.text pieces (.hex 0 0), stack⟩
    else match shortEscape? b with
      | some c => ⟨.text (.short c :: pieces) .none, stack⟩
      | none => stop .broken stack
  | .hex count value =>
    match hexDigit? b with
    | some d =>
      if count = 3 then ⟨.text (.unit (value * 16 + d) :: pieces) .none, stack⟩
      else ⟨.text pieces (.hex (count + 1) (value * 16 + d)), stack⟩
    | none => stop .broken stack

/-- A byte inside a number, or `none` if the number ended before it. -/
def stepNumber (d : Draft) (stage : Stage) (stack : List Frame) (b : UInt8) : Option Machine :=
  let isMark := b = 0x65 || b = 0x45
  match stage, digit? b with
  | .sign, some n => some ⟨.number { d with whole := [n] } (if n = 0 then .zero else .whole), stack⟩
  | .sign, none => some (stop .broken stack)
  | .zero, some _ => some (stop .broken stack)
  | .whole, some n => some ⟨.number { d with whole := n :: d.whole } .whole, stack⟩
  | .zero, none | .whole, none =>
    if b = 0x2E then some ⟨.number d .point, stack⟩
    else if isMark then some ⟨.number d .mark, stack⟩
    else none
  | .point, some n | .fraction, some n =>
    some ⟨.number { d with fraction := n :: d.fraction } .fraction, stack⟩
  | .point, none => some (stop .broken stack)
  | .fraction, none => if isMark then some ⟨.number d .mark, stack⟩ else none
  | .mark, some n | .markSign, some n | .exponent, some n =>
    some ⟨.number { d with exponent := n :: d.exponent } .exponent, stack⟩
  | .mark, none =>
    if b = 0x2B then some ⟨.number { d with sign := some false } .markSign, stack⟩
    else if b = 0x2D then some ⟨.number { d with sign := some true } .markSign, stack⟩
    else some (stop .broken stack)
  | .markSign, none => some (stop .broken stack)
  | .exponent, none => none

def Machine.step (m : Machine) (b : UInt8) : Machine :=
  match m.mode with
  | .value => if isSpace b then m else beginValue b m.stack
  | .itemOrClose =>
    if isSpace b then m
    else if b = 0x5D then deliver (.list .close) m.stack.tail
    else beginValue b m.stack
  | .keyOrClose =>
    if isSpace b then m
    else if b = 0x7D then deliver (.record .close) m.stack.tail
    else if b = 0x22 then ⟨.text [] .none, m.stack⟩
    else beginValue b (.stray :: m.stack.tail)
  | .key =>
    if isSpace b then m
    else if b = 0x22 then ⟨.text [] .none, m.stack⟩
    else stop .broken m.stack
  | .colon key =>
    if isSpace b then m
    else match m.stack with
      | .key before :: stack =>
        if b = 0x3A then ⟨.value, .member before key :: stack⟩
        else stop .broken (.member before key :: stack)
      | stack => stop .broken stack
  | .word letters v =>
    match letters with
    | [] => (deliver v m.stack).stepAfter b
    | [last] => if b = last then deliver v m.stack else stop .broken m.stack
    | next :: rest => if b = next then ⟨.word rest v, m.stack⟩ else stop .broken m.stack
  | .text pieces escape => stepText pieces escape m.stack b
  | .number draft stage =>
    match stepNumber draft stage m.stack b with
    | some m => m
    | none => (deliver (.number draft.numeral) m.stack).stepAfter b
  | .afterItem _ | .afterMember _ | .done _ _ | .stopped _ => m.stepAfter b

/-- Whether a number may end after a stage. -/
def Stage.isEnd : Stage → Bool
  | .zero | .whole | .fraction | .exponent => true
  | _ => false

/-- A value and whether only blanks follow it. -/
structure Document where
  value : Value
  clean : Bool

/-- What the machine has read when the bytes end. -/
def Machine.finish (m : Machine) : Document :=
  match m.mode with
  | .done v clean => ⟨v, clean⟩
  | .stopped v => ⟨v, false⟩
  | .number draft stage =>
    if m.stack.isEmpty && stage.isEnd then ⟨.number draft.numeral, true⟩
    else if stage.isEnd then ⟨unwind (.number draft.numeral) m.stack, false⟩
    else ⟨unwind .broken m.stack, false⟩
  | .afterItem before => ⟨unwind (.list (.behind before .broken)) m.stack, false⟩
  | .afterMember before => ⟨unwind (.record (.behind before .broken)) m.stack, false⟩
  | .colon key =>
    match m.stack with
    | .key before :: stack => ⟨unwind .broken (.member before key :: stack), false⟩
    | stack => ⟨unwind .broken stack, false⟩
  | .keyOrClose => ⟨unwind (.record .broken) m.stack.tail, false⟩
  | .itemOrClose => ⟨unwind (.list .broken) m.stack.tail, false⟩
  | _ => ⟨unwind .broken m.stack, false⟩

def Document.ofBytes (bytes : List UInt8) : Document := (bytes.foldl Machine.step .start).finish

end Courier.Json
