import Courier.Json.Reader
import Courier.Proofs.SpelledTexts

/-!
Written values are read back. The machine that reads a document takes the bytes of a written value as
that value, whatever containers are open around it (`Json.Reads`); the property goes from the items of a
list and the members of a record to the whole.
-/
namespace Courier.Json

/-- The machine after some bytes. -/
def Machine.feed (m : Machine) (bytes : List UInt8) : Machine := bytes.foldl Machine.step m

theorem Machine.feed_cons (m : Machine) (b : UInt8) (bytes : List UInt8) :
    m.feed (b :: bytes) = (m.step b).feed bytes := rfl

theorem Machine.feed_append (m : Machine) (a b : List UInt8) : m.feed (a ++ b) = (m.feed a).feed b :=
  List.foldl_append ..

/-- Whether a value may come next: at the start, in a list, or after a key. -/
def Waits : List Frame → Prop
  | [] | .item _ :: _ | .member _ _ :: _ => True
  | .key _ :: _ | .stray :: _ => False

/-- The bytes that may follow a value. -/
def Follows (b : UInt8) : Prop := b = 0x2C ∨ b = 0x5D ∨ b = 0x7D

/-- Whether the machine reads the bytes of a value as that value. -/
structure Reads (v : Value) : Prop where
  starts : ∃ b bytes, v.written = b :: bytes ∧ isSpace b = false ∧ b ≠ 0x5D
  follows : ∀ stack, Waits stack → ∀ b, Follows b →
    (Machine.feed ⟨.value, stack⟩ v.written).step b = (deliver v stack).stepAfter b
  ends : (Machine.feed .start v.written).finish = ⟨v, true⟩

theorem step_deliver {stack : List Frame} (waits : Waits stack) (v : Value) (b : UInt8) :
    (deliver v stack).step b = (deliver v stack).stepAfter b := by
  cases stack with
  | nil => rfl
  | cons frame stack =>
    cases frame with
    | item before => rfl
    | member before key => rfl
    | key before => exact waits.elim
    | stray => exact waits.elim

/-- A value that is complete with its last byte. -/
theorem Reads.of_feed {v : Value} (starts : ∃ b bytes, v.written = b :: bytes ∧ isSpace b = false ∧ b ≠ 0x5D)
    (fed : ∀ stack, Waits stack → Machine.feed ⟨.value, stack⟩ v.written = deliver v stack) : Reads v where
  starts := starts
  follows stack waits b _ := by rw [fed stack waits, step_deliver waits]
  ends := by
    have whole := fed [] trivial
    rw [Machine.start, whole]
    rfl

theorem reads_bool (b : Bool) : Reads (.bool b) := by
  cases b with
  | false => exact .of_feed ⟨0x66, _, rfl, rfl, by decide⟩ (fun _ _ => rfl)
  | true => exact .of_feed ⟨0x74, _, rfl, rfl, by decide⟩ (fun _ _ => rfl)

/-! ### Texts -/

private theorem hexDigit?_hexByte {n : Nat} (small : n < 16) : hexDigit? (hexByte n) = some n.toUInt16 := by
  have each : ∀ k : Fin 16, hexDigit? (hexByte k.val) = some k.val.toUInt16 := by decide
  exact each ⟨n, small⟩

private theorem shortEscape?_shortLetter {b : UInt8}
    (short : b = 0x22 ∨ b = 0x5C ∨ b = 0x08 ∨ b = 0x0C ∨ b = 0x0A ∨ b = 0x0D ∨ b = 0x09) :
    shortLetter b ≠ 0x75 ∧ shortEscape? (shortLetter b) = some b := by
  rcases short with rfl | rfl | rfl | rfl | rfl | rfl | rfl <;> decide

private theorem unit_of_digits (u : UInt16) :
    (((0 * 16 + (u.toNat / 4096).toUInt16) * 16 + (u.toNat / 256 % 16).toUInt16) * 16 +
      (u.toNat / 16 % 16).toUInt16) * 16 + (u.toNat % 16).toUInt16 = u := by
  apply UInt16.toNat_inj.mp
  have small := u.toNat_lt
  simp only [UInt16.toNat_add, UInt16.toNat_mul, Nat.toUInt16, UInt16.toNat_ofNat']
  have zero : (0 : UInt16).toNat = 0 := rfl
  have sixteen : (16 : UInt16).toNat = 16 := rfl
  rw [zero, sixteen]
  omega

private theorem step_hex (before : Spelling) (stack : List Frame) {count n : Nat} (value : UInt16) (small : n < 16)
    (more : count ≠ 3) : Machine.step ⟨.text before (.hex count value), stack⟩ (hexByte n) =
      ⟨.text before (.hex (count + 1) (value * 16 + n.toUInt16)), stack⟩ := by
  simp only [Machine.step, stepText, hexDigit?_hexByte small, more, if_false]

private theorem step_lastHex (before : Spelling) (stack : List Frame) {n : Nat} (value : UInt16) (small : n < 16) :
    Machine.step ⟨.text before (.hex 3 value), stack⟩ (hexByte n) =
      ⟨.text (.unit (value * 16 + n.toUInt16) :: before) .none, stack⟩ := by
  simp only [Machine.step, stepText, hexDigit?_hexByte small, if_true]

private theorem feed_unit (before : Spelling) (stack : List Frame) (u : UInt16) :
    Machine.feed ⟨.text before .none, stack⟩ (Piece.unit u).written = ⟨.text (.unit u :: before) .none, stack⟩ := by
  have small := u.toNat_lt
  have backslash : Machine.step ⟨.text before .none, stack⟩ 0x5C = ⟨.text before .backslash, stack⟩ := rfl
  have mark : Machine.step ⟨.text before .backslash, stack⟩ 0x75 = ⟨.text before (.hex 0 0), stack⟩ := rfl
  simp only [Piece.written, Machine.feed, List.foldl_cons, List.foldl_nil]
  rw [backslash, mark, step_hex _ _ _ (by omega) (by decide), step_hex _ _ _ (by omega) (by decide),
    step_hex _ _ _ (by omega) (by decide), step_lastHex _ _ _ (by omega), unit_of_digits]

/-- The machine reads a spelled byte as one piece. -/
private theorem feed_piece (before : Spelling) (stack : List Frame) (b : UInt8) :
    Machine.feed ⟨.text before .none, stack⟩ (Spelling.ofByte b).written =
      ⟨.text (Spelling.ofByte b :: before) .none, stack⟩ := by
  rcases Spelling.ofByte_cases b with ⟨is, _, notQuote, notBackslash⟩ | ⟨is, short⟩ | ⟨is, _⟩
  · rw [is]
    simp only [Piece.written, Machine.feed, List.foldl_cons, List.foldl_nil, Machine.step, stepText, notQuote,
      notBackslash, if_false]
  · obtain ⟨notUnit, read⟩ := shortEscape?_shortLetter short
    rw [is]
    simp only [Piece.written, Machine.feed, List.foldl_cons, List.foldl_nil, Machine.step, stepText, notUnit, read,
      if_false, if_true]
    rfl
  · rw [is]
    exact feed_unit before stack b.toUInt16

private theorem feed_pieces (bytes : List UInt8) (before : Spelling) (stack : List Frame) :
    Machine.feed ⟨.text before .none, stack⟩ ((bytes.map Spelling.ofByte).flatMap Piece.written) =
      ⟨.text ((bytes.map Spelling.ofByte).reverse ++ before) .none, stack⟩ := by
  induction bytes generalizing before with
  | nil => rfl
  | cons b bytes ih =>
    rw [List.map_cons, List.flatMap_cons, Machine.feed_append, feed_piece, ih, List.reverse_cons, List.append_assoc,
      List.singleton_append]

/-- After its opening quote a text is read up to and with its closing quote. -/
theorem feed_text (s : String) (stack : List Frame) :
    Machine.feed ⟨.text [] .none, stack⟩ ((Spelling.ofString s).flatMap Piece.written ++ [0x22]) =
      deliverText (.ofString s) stack := by
  have pieces := feed_pieces s.toUTF8.toList [] stack
  rw [List.append_nil] at pieces
  rw [Machine.feed_append, Spelling.ofString, pieces]
  show deliverText ((s.toUTF8.toList.map Spelling.ofByte).reverse).reverse stack = _
  rw [List.reverse_reverse]

theorem reads_ofString (s : String) : Reads (.ofString s) := by
  refine .of_feed ⟨0x22, _, rfl, rfl, by decide⟩ (fun stack waits => ?_)
  show Machine.feed ⟨.text [] .none, stack⟩ ((Spelling.ofString s).flatMap Piece.written ++ [0x22]) = _
  rw [feed_text]
  cases stack with
  | nil => rfl
  | cons frame stack =>
    cases frame with
    | item before => rfl
    | member before key => rfl
    | key before => exact waits.elim
    | stray => exact waits.elim

/-! ### Natural numbers -/

private theorem digit?_digitByte (d : Digit) : digit? (digitByte d) = some d := by
  revert d
  decide

private theorem digitByte_bounds (d : Digit) : 0x30 ≤ (digitByte d).toNat ∧ (digitByte d).toNat ≤ 0x39 := by
  revert d
  decide

private theorem beginValue_digitByte (d : Digit) (stack : List Frame) :
    beginValue (digitByte d) stack = ⟨.number ⟨false, [d], [], none, []⟩ (if d = 0 then .zero else .whole), stack⟩ := by
  obtain ⟨low, high⟩ := digitByte_bounds d
  have other {b : UInt8} (outside : b.toNat < 0x30 ∨ 0x39 < b.toNat) : digitByte d ≠ b := by
    rintro rfl
    omega
  unfold beginValue
  rw [if_neg (other (by decide)), if_neg (other (by decide)), if_neg (other (by decide)), if_neg (other (by decide)),
    if_neg (other (by decide)), if_neg (other (by decide)), if_neg (other (by decide)), digit?_digitByte]

private theorem not_isSpace_digitByte (d : Digit) : isSpace (digitByte d) = false := by
  revert d
  decide

/-- The first digit of several is not zero. -/
private theorem digitsBefore_spec (later : List Digit) {n fuel : Nat} (enough : n < fuel) :
    ∃ d ds, digitsBefore later n fuel = d :: (ds ++ later) ∧ (d = 0 → n = 0 ∧ ds = []) := by
  induction fuel generalizing later n with
  | zero => omega
  | succ fuel ih =>
    by_cases single : n < 10
    · refine ⟨lastDigit n, [], by simp [digitsBefore, single], fun zero => ⟨?_, rfl⟩⟩
      have value : n % 10 = 0 := congrArg Fin.val zero
      rwa [Nat.mod_eq_of_lt single] at value
    · obtain ⟨d, ds, split, first⟩ := ih (lastDigit n :: later) (show n / 10 < fuel by omega)
      refine ⟨d, ds ++ [lastDigit n], ?_, fun zero => ?_⟩
      · simp only [digitsBefore, single, if_false, split, List.append_assoc, List.singleton_append]
      · have none := (first zero).1
        omega

private theorem digitsOf_spec (n : Nat) : ∃ d ds, digitsOf n = d :: ds ∧ (d = 0 → ds = []) := by
  obtain ⟨d, ds, split, first⟩ := digitsBefore_spec [] (Nat.lt_succ_self n)
  exact ⟨d, ds, by rw [digitsOf, split, List.append_nil], fun zero => (first zero).2⟩

private theorem feed_digits (ds before : List Digit) (stack : List Frame) :
    Machine.feed ⟨.number ⟨false, before, [], none, []⟩ .whole, stack⟩ (ds.map digitByte) =
      ⟨.number ⟨false, ds.reverse ++ before, [], none, []⟩ .whole, stack⟩ := by
  induction ds generalizing before with
  | nil => rfl
  | cons d ds ih =>
    have step : Machine.step ⟨.number ⟨false, before, [], none, []⟩ .whole, stack⟩ (digitByte d) =
        ⟨.number ⟨false, d :: before, [], none, []⟩ .whole, stack⟩ := by
      simp only [Machine.step, stepNumber, digit?_digitByte]
    rw [List.map_cons, Machine.feed_cons, step, ih, List.reverse_cons, List.append_assoc, List.singleton_append]

private theorem written_ofNat (n : Nat) : (Value.ofNat n).written = (digitsOf n).map digitByte := by
  show (Numeral.ofNat n).bytes = _
  simp [Numeral.bytes, Numeral.ofNat]

/-- After the digits of a number the machine waits for the byte that ends it. -/
private theorem feed_ofNat (n : Nat) (stack : List Frame) :
    ∃ draft stage, Machine.feed ⟨.value, stack⟩ (Value.ofNat n).written = ⟨.number draft stage, stack⟩ ∧
      draft.numeral = .ofNat n ∧ (stage = .zero ∨ stage = .whole) := by
  obtain ⟨d, ds, digits, alone⟩ := digitsOf_spec n
  have first : Machine.step ⟨.value, stack⟩ (digitByte d) = beginValue (digitByte d) stack := by
    simp only [Machine.step, not_isSpace_digitByte, Bool.false_eq_true, if_false]
  rw [written_ofNat, digits, List.map_cons, Machine.feed_cons, first, beginValue_digitByte]
  by_cases zero : d = 0
  · rw [alone zero, if_pos zero]
    refine ⟨_, .zero, rfl, ?_, .inl rfl⟩
    simp [Draft.numeral, Numeral.ofNat, digits, alone zero]
  · rw [if_neg zero, feed_digits]
    refine ⟨_, .whole, rfl, ?_, .inr rfl⟩
    simp [Draft.numeral, Numeral.ofNat, digits]

theorem reads_ofNat (n : Nat) : Reads (.ofNat n) where
  starts := by
    obtain ⟨d, ds, digits, _⟩ := digitsOf_spec n
    refine ⟨digitByte d, ds.map digitByte, by rw [written_ofNat, digits, List.map_cons], not_isSpace_digitByte d, ?_⟩
    obtain ⟨low, high⟩ := digitByte_bounds d
    intro same
    rw [same] at high
    exact absurd high (by decide)
  follows stack _ b next := by
    obtain ⟨draft, stage, fed, numeral, last⟩ := feed_ofNat n stack
    have value : Value.number draft.numeral = .ofNat n := by rw [numeral]; rfl
    have ended : stepNumber draft stage stack b = none := by
      rcases last with rfl | rfl <;> rcases next with rfl | rfl | rfl <;> rfl
    rw [fed]
    simp only [Machine.step, ended, value]
  ends := by
    obtain ⟨draft, stage, fed, numeral, last⟩ := feed_ofNat n []
    have value : Value.number draft.numeral = .ofNat n := by rw [numeral]; rfl
    rw [Machine.start, fed]
    rcases last with rfl | rfl <;> simp only [Machine.finish, List.isEmpty_nil, Stage.isEnd, Bool.and_self, if_true, value]

/-! ### Lists and records -/

private theorem step_itemOrClose {b : UInt8} {stack : List Frame} (visible : isSpace b = false) (open_ : b ≠ 0x5D) :
    Machine.step ⟨.itemOrClose, stack⟩ b = Machine.step ⟨.value, stack⟩ b := by
  simp only [Machine.step, visible, Bool.false_eq_true, if_false, open_]

private theorem feed_items (vs : List Value) (read : ∀ v ∈ vs, Reads v) (m : Machine) (before : List Value)
    (stack : List Frame) (follows : ∀ b, Follows b → m.step b = Machine.stepAfter ⟨.afterItem before, stack⟩ b) :
    m.feed (Items.ofList vs).written = deliver (.list (.behind before (.ofList vs))) stack := by
  induction vs generalizing m before with
  | nil =>
    show m.step 0x5D = _
    rw [follows 0x5D (.inr (.inl rfl))]
    rfl
  | cons v vs ih =>
    have comma : m.step 0x2C = ⟨.value, .item before :: stack⟩ := by
      rw [follows 0x2C (.inl rfl)]
      rfl
    have here := (read v List.mem_cons_self).follows (.item before :: stack) trivial
    have rest := ih (fun w member => read w (List.mem_cons_of_mem _ member)) _ (v :: before) here
    show m.feed (0x2C :: v.written ++ (Items.ofList vs).written) = _
    rw [List.cons_append, Machine.feed_cons, comma, Machine.feed_append, rest]
    rfl

theorem reads_ofItems {vs : List Value} (read : ∀ v ∈ vs, Reads v) : Reads (.ofItems vs) := by
  cases vs with
  | nil => exact .of_feed ⟨0x5B, _, rfl, rfl, by decide⟩ (fun _ _ => rfl)
  | cons v vs =>
    refine .of_feed ⟨0x5B, _, rfl, rfl, by decide⟩ (fun stack waits => ?_)
    have first := read v List.mem_cons_self
    obtain ⟨b, bytes, starts, visible, open_⟩ := first.starts
    have opened : Machine.feed ⟨.itemOrClose, .item [] :: stack⟩ v.written =
        Machine.feed ⟨.value, .item [] :: stack⟩ v.written := by
      rw [starts, Machine.feed_cons, Machine.feed_cons, step_itemOrClose visible open_]
    have rest := feed_items vs (fun w member => read w (List.mem_cons_of_mem _ member)) _ [v] stack
      (first.follows (.item [] :: stack) trivial)
    show Machine.feed ⟨.itemOrClose, .item [] :: stack⟩ (v.written ++ (Items.ofList vs).written) = _
    rw [Machine.feed_append, opened, rest]
    rfl

private theorem feed_member (key : String) {v : Value} (read : Reads v) (before : List (Spelling × Value))
    (stack : List Frame) (b : UInt8) (next : Follows b) :
    (Machine.feed ⟨.text [] .none, .key before :: stack⟩
      ((Spelling.ofString key).flatMap Piece.written ++ [0x22] ++ 0x3A :: v.written)).step b =
        Machine.stepAfter ⟨.afterMember ((.ofString key, v) :: before), stack⟩ b := by
  rw [Machine.feed_append, feed_text, Machine.feed_cons]
  exact read.follows (.member before (.ofString key) :: stack) trivial b next

/-- The members of a record, by name. -/
private def spelled (ms : List (String × Value)) : Members :=
  .ofList (ms.map (fun m => (Spelling.ofString m.1, m.2)))

private theorem feed_members (ms : List (String × Value)) (read : ∀ m ∈ ms, Reads m.2) (m : Machine)
    (before : List (Spelling × Value)) (stack : List Frame)
    (follows : ∀ b, Follows b → m.step b = Machine.stepAfter ⟨.afterMember before, stack⟩ b) :
    m.feed (spelled ms).written = deliver (.record (.behind before (spelled ms))) stack := by
  induction ms generalizing m before with
  | nil =>
    show m.step 0x7D = _
    rw [follows 0x7D (.inr (.inr rfl))]
    rfl
  | cons member ms ih =>
    obtain ⟨key, v⟩ := member
    have comma : m.step 0x2C = ⟨.key, .key before :: stack⟩ := by
      rw [follows 0x2C (.inl rfl)]
      rfl
    have quote : Machine.step ⟨.key, .key before :: stack⟩ 0x22 = ⟨.text [] .none, .key before :: stack⟩ := rfl
    have here := feed_member key (read (key, v) List.mem_cons_self) before stack
    have rest := ih (fun w member => read w (List.mem_cons_of_mem _ member)) _ ((.ofString key, v) :: before) here
    have bytes : (spelled ((key, v) :: ms)).written = 0x2C :: 0x22 ::
        (((Spelling.ofString key).flatMap Piece.written ++ [0x22] ++ 0x3A :: v.written) ++ (spelled ms).written) := by
      show 0x2C :: Spelling.written (.ofString key) ++ 0x3A :: v.written ++ (spelled ms).written = _
      simp [Spelling.written]
    rw [bytes, Machine.feed_cons, comma, Machine.feed_cons, quote, Machine.feed_append, rest]
    rfl

theorem reads_ofMembers {ms : List (String × Value)} (read : ∀ m ∈ ms, Reads m.2) : Reads (.ofMembers ms) := by
  cases ms with
  | nil => exact .of_feed ⟨0x7B, _, rfl, rfl, by decide⟩ (fun _ _ => rfl)
  | cons member ms =>
    obtain ⟨key, v⟩ := member
    refine .of_feed ⟨0x7B, _, rfl, rfl, by decide⟩ (fun stack waits => ?_)
    have here := feed_member key (read (key, v) List.mem_cons_self) [] stack
    have rest := feed_members ms (fun w member => read w (List.mem_cons_of_mem _ member)) _ _ stack here
    have bytes : (Value.ofMembers ((key, v) :: ms)).written = 0x7B :: 0x22 ::
        (((Spelling.ofString key).flatMap Piece.written ++ [0x22] ++ 0x3A :: v.written) ++ (spelled ms).written) := by
      show 0x7B :: Spelling.written (.ofString key) ++ 0x3A :: v.written ++ (spelled ms).written = _
      simp [Spelling.written]
    have brace : Machine.step ⟨.value, stack⟩ 0x7B = ⟨.keyOrClose, .key [] :: stack⟩ := rfl
    have quote : Machine.step ⟨.keyOrClose, .key [] :: stack⟩ 0x22 = ⟨.text [] .none, .key [] :: stack⟩ := rfl
    rw [bytes, Machine.feed_cons, brace, Machine.feed_cons, quote, Machine.feed_append, rest]
    rfl

/-- A document of a written value is that value. -/
theorem Reads.document {v : Value} (read : Reads v) : Document.ofBytes v.written = ⟨v, true⟩ := read.ends

end Courier.Json
