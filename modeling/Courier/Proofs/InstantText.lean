import Mathlib.Algebra.Order.Ring.Nat
import Courier.Instant.Text
import Courier.Proofs.CalendarDays

/-!
The written form of an instant is read back as the instant that it tells: each field is a number of so many
digits, which ends at its width or before the mark that follows it. That is the instant itself, unless it lies in
a leap second that is not at the end of a minute: there its text is that of an instant in the second that follows.
-/
namespace Courier.Instant

/-! ### Digits -/

theorem digit?_eq_some {c : Char} (digit : c.isDigit = true) : digit? c = some (c.toNat - 48) := by
  obtain ⟨low, high⟩ := Char.isDigit_iff_toNat.mp digit
  refine if_pos ⟨?_, ?_⟩
  · exact UInt32.le_iff_toNat_le.mpr low
  · exact UInt32.le_iff_toNat_le.mpr high

private theorem digit_value {c : Char} (digit : c.isDigit = true) : c.toNat - 48 < 10 := by
  obtain ⟨low, high⟩ := Char.isDigit_iff_toNat.mp digit
  have zero : '0'.toNat = 48 := rfl
  have nine : '9'.toNat = 57 := rfl
  omega

private theorem isBlank_of_isDigit {c : Char} (digit : c.isDigit = true) : Text.isBlank c = false := by
  obtain ⟨low, high⟩ := Char.isDigit_iff_toNat.mp digit
  have zero : '0'.toNat = 48 := rfl
  have nine : '9'.toNat = 57 := rfl
  rw [zero] at low
  rw [nine] at high
  simp [Text.isBlank, Text.blankRanges]
  omega

private theorem ne_of_isDigit {c d : Char} (digit : c.isDigit = true) (other : d.isDigit = false) : c ≠ d := by
  rintro rfl
  rw [digit] at other
  cases other

/-- Whether a number that is read within a width ends after some digits. -/
def EndsAfter (width : Option Nat) (digits rest : List Char) : Prop :=
  width = some digits.length ∨
    (∀ w, width = some w → digits.length ≤ w) ∧ ∀ c, rest.head? = some c → digit? c = none

private theorem EndsAfter.tail {width : Option Nat} {c : Char} {digits rest : List Char}
    (ends : EndsAfter width (c :: digits) rest) : width ≠ some 0 ∧ EndsAfter (width.map (· - 1)) digits rest := by
  rcases ends with full | ⟨fits, stop⟩
  · rw [full]
    refine ⟨?_, .inl ?_⟩
    · simp
    · simp
  · constructor
    · intro none
      have := fits 0 none
      simp at this
    · refine .inr ⟨?_, stop⟩
      intro w is
      cases width with
      | none => cases is
      | some v =>
        have le := fits v rfl
        simp only [Option.map_some, Option.some.injEq] at is
        simp only [List.length_cons] at le
        omega

/-- Digits are read to their end. -/
private theorem digitsFrom_digits (width : Option Nat) (value : Nat) (digits rest : List Char)
    (all : ∀ c ∈ digits, c.isDigit = true) (small : (value + 1) * 10 ^ digits.length ≤ 0x8000000000000000)
    (ends : EndsAfter width digits rest) :
    digitsFrom value width (digits ++ rest) = .ok (Nat.ofDigitChars 10 digits value, rest) := by
  induction digits generalizing width value with
  | nil =>
    rw [List.nil_append, Nat.ofDigitChars_nil]
    rcases ends with full | ⟨_, stop⟩
    · rw [full]
      simp [digitsFrom]
    · cases rest with
      | nil => cases width with
        | none => simp [digitsFrom]
        | some w => cases w <;> simp [digitsFrom]
      | cons c cs =>
        have none_ := stop c rfl
        cases width with
        | none => simp [digitsFrom, none_]
        | some w => cases w <;> simp [digitsFrom, none_]
  | cons c digits ih =>
    have first := all c List.mem_cons_self
    have below := digit_value first
    obtain ⟨notFull, later⟩ := ends.tail
    rw [List.length_cons, Nat.pow_succ] at small
    have power : 0 < 10 ^ digits.length := Nat.pow_pos (by decide)
    have room : (value * 10 + (c.toNat - 48) + 1) * 10 ^ digits.length ≤ 0x8000000000000000 := by
      refine Nat.le_trans (Nat.mul_le_mul_right _ (show _ ≤ (value + 1) * 10 by omega)) ?_
      rw [Nat.mul_assoc, Nat.mul_comm 10]
      exact small
    have fits : ¬ 0x8000000000000000 ≤ value * 10 + (c.toNat - 48) := by
      have := Nat.le_mul_of_pos_right (value * 10 + (c.toNat - 48) + 1) power
      omega
    have step : digitsFrom value width ((c :: digits) ++ rest) =
        digitsFrom (value * 10 + (c.toNat - 48)) (width.map (· - 1)) (digits ++ rest) := by
      rw [List.cons_append]
      cases width with
      | none => simp only [digitsFrom, digit?_eq_some first, fits, if_false]
      | some w =>
        cases w with
        | zero => exact absurd rfl notFull
        | succ w => simp only [digitsFrom, digit?_eq_some first, fits, if_false]
    rw [step, ih _ _ (fun d member => all d (List.mem_cons_of_mem _ member)) room later, Nat.ofDigitChars_cons]
    have zero : '0'.toNat = 48 := rfl
    rw [zero, Nat.mul_comm 10 value]

/-! ### Padded numbers -/

private theorem toList_padded (width n : Nat) :
    (Span.padded width n).toList =
      List.replicate (width - (Nat.toDigits 10 n).length) '0' ++ Nat.toDigits 10 n := by
  simp [Span.padded]

private theorem isDigit_of_mem_padded {width n : Nat} {c : Char} (member : c ∈ (Span.padded width n).toList) :
    c.isDigit = true := by
  rw [toList_padded] at member
  rcases List.mem_append.mp member with zero | digit
  · rw [List.eq_of_mem_replicate zero]
    rfl
  · exact Nat.isDigit_of_mem_toDigits (by decide) (by decide) digit

private theorem value_padded (width n : Nat) : Nat.ofDigitChars 10 (Span.padded width n).toList 0 = n := by
  rw [toList_padded, Nat.ofDigitChars_append, Nat.ofDigitChars_replicate_zero, Nat.mul_zero,
    Nat.ofDigitChars_ten_toDigits]

private theorem length_padded {width n : Nat} (pos : 0 < width) (fits : n < 10 ^ width) :
    (Span.padded width n).toList.length = width := by
  have short := (Nat.length_toDigits_le_iff (n := n) (by decide : 1 < 10) pos).mpr fits
  rw [toList_padded, List.length_append, List.length_replicate]
  omega

private theorem length_padded_le {width limit n : Nat} (pos : 0 < limit) (le : width ≤ limit)
    (fits : n < 10 ^ limit) : (Span.padded width n).toList.length ≤ limit := by
  have short := (Nat.length_toDigits_le_iff (n := n) (by decide : 1 < 10) pos).mpr fits
  rw [toList_padded, List.length_append, List.length_replicate]
  omega

private theorem padded_cons (width n : Nat) : ∃ c cs, (Span.padded width n).toList = c :: cs := by
  cases found : (Span.padded width n).toList with
  | nil =>
    rw [toList_padded] at found
    exact absurd (List.append_eq_nil_iff.mp found).2 Nat.toDigits_ne_nil
  | cons c cs => exact ⟨c, cs, rfl⟩

/-- A padded number is read back, within a width or up to the next mark. -/
theorem number_padded {width : Option Nat} {pad n : Nat} {rest : List Char}
    (short : (Span.padded pad n).toList.length ≤ 18) (ends : EndsAfter width (Span.padded pad n).toList rest) :
    number width ((Span.padded pad n).toList ++ rest) = .ok (n, rest) := by
  have small : (0 + 1) * 10 ^ (Span.padded pad n).toList.length ≤ 0x8000000000000000 := by
    have := Nat.pow_le_pow_right (show 0 < 10 by decide) short
    omega
  have read := digitsFrom_digits width 0 _ rest (fun c => isDigit_of_mem_padded) small ends
  rw [value_padded] at read
  obtain ⟨c, cs, is⟩ := padded_cons pad n
  have digit : c.isDigit = true := isDigit_of_mem_padded (is ▸ List.mem_cons_self)
  rw [is, List.cons_append] at read ⊢
  simp only [number, digit?_eq_some digit, Option.isSome_some, if_true, read]

private theorem afterBlanks_padded (width n : Nat) (rest : List Char) :
    Text.afterBlanks ((Span.padded width n).toList ++ rest) = (Span.padded width n).toList ++ rest := by
  obtain ⟨c, cs, is⟩ := padded_cons width n
  have digit : c.isDigit = true := isDigit_of_mem_padded (is ▸ List.mem_cons_self)
  rw [is, List.cons_append, Text.afterBlanks, List.dropWhile_cons_of_neg (by rw [isBlank_of_isDigit digit]; decide)]

theorem field_padded {low high n : Nat} (rest : List Char) (above : low ≤ n) (below : n ≤ high) (fits : n < 100) :
    field low high ((Span.padded 2 n).toList ++ rest) = .ok (n, rest) := by
  have length := length_padded (n := n) (show 0 < 2 by decide) fits
  have read : number (some 2) ((Span.padded 2 n).toList ++ rest) = .ok (n, rest) :=
    number_padded (by omega) (.inl (by rw [length]))
  simp only [field, afterBlanks_padded, read, bind, Except.bind, above, below, and_self, if_true, pure, Except.pure]

private theorem bind_ok {ε α β : Type} (a : α) (f : α → Except ε β) : (Except.ok a >>= f) = f a := rfl

private theorem yearField_plain {c : Char} {cs rest : List Char} {n : Nat} (notMinus : c ≠ '-') (notPlus : c ≠ '+')
    (skip : Text.afterBlanks (c :: cs) = c :: cs) (read : number (some 4) (c :: cs) = .ok (n, rest))
    (range : -0x80000000 ≤ (n : Int) ∧ (n : Int) < 0x80000000) : yearField (c :: cs) = .ok ((n : Int), rest) := by
  unfold yearField
  rw [skip]
  dsimp only
  split
  · rename_i same
    exact absurd (List.cons.inj same).1 notMinus
  · rename_i same
    exact absurd (List.cons.inj same).1 notPlus
  · rw [read, bind_ok]
    dsimp only
    rw [pure_bind]
    dsimp only
    rw [if_pos range]
    rfl

private theorem yearField_minus {cs rest : List Char} {n : Nat} (read : number none cs = .ok (n, rest))
    (range : -0x80000000 ≤ -(n : Int) ∧ -(n : Int) < 0x80000000) : yearField ('-' :: cs) = .ok (-(n : Int), rest) := by
  have skip : Text.afterBlanks ('-' :: cs) = '-' :: cs := List.dropWhile_cons_of_neg (by decide)
  have other : ('-' : Char) ≠ '+' := by decide
  unfold yearField
  rw [skip]
  dsimp only
  split
  · rename_i same
    cases same
    rw [read, bind_ok]
    dsimp only
    rw [pure_bind]
    dsimp only
    rw [if_pos range]
    rfl
  · rename_i same
    exact absurd (List.cons.inj same).1 other
  · rename_i notMinus _
    exact absurd rfl (notMinus cs)

private theorem yearField_plus {cs rest : List Char} {n : Nat} (read : number none cs = .ok (n, rest))
    (range : -0x80000000 ≤ (n : Int) ∧ (n : Int) < 0x80000000) : yearField ('+' :: cs) = .ok ((n : Int), rest) := by
  have skip : Text.afterBlanks ('+' :: cs) = '+' :: cs := List.dropWhile_cons_of_neg (by decide)
  have other : ('+' : Char) ≠ '-' := by decide
  unfold yearField
  rw [skip]
  dsimp only
  split
  · rename_i same
    exact absurd (List.cons.inj same).1 other
  · rename_i same
    cases same
    rw [read, bind_ok]
    dsimp only
    rw [pure_bind]
    dsimp only
    rw [if_pos range]
    rfl
  · rename_i notPlus
    exact absurd rfl (notPlus cs)

theorem yearField_text {year : Int} (low : -262143 ≤ year) (high : year ≤ 262142) (rest : List Char) :
    yearField ((yearText year).toList ++ '-' :: rest) = .ok (year, '-' :: rest) := by
  unfold yearText
  by_cases plain : 0 ≤ year ∧ year ≤ 9999
  · rw [if_pos plain]
    have length := length_padded (n := year.toNat) (show 0 < 4 by decide) (by omega)
    have read : number (some 4) ((Span.padded 4 year.toNat).toList ++ '-' :: rest) = .ok (year.toNat, '-' :: rest) :=
      number_padded (by omega) (.inl (by rw [length]))
    have back : ((year.toNat : Nat) : Int) = year := Int.toNat_of_nonneg plain.1
    have skip := afterBlanks_padded 4 year.toNat ('-' :: rest)
    obtain ⟨c, cs, is⟩ := padded_cons 4 year.toNat
    have digit : c.isDigit = true := isDigit_of_mem_padded (is ▸ List.mem_cons_self)
    rw [is, List.cons_append] at read skip ⊢
    rw [yearField_plain (ne_of_isDigit digit rfl) (ne_of_isDigit digit rfl) skip read (by omega), back]
  · rw [if_neg plain]
    have length : (Span.padded 4 year.natAbs).toList.length ≤ 6 :=
      length_padded_le (by decide) (by decide) (by omega)
    have stop : ∀ c, ('-' :: rest).head? = some c → digit? c = none := by
      intro c is
      cases is
      decide
    have read : number none ((Span.padded 4 year.natAbs).toList ++ '-' :: rest) = .ok (year.natAbs, '-' :: rest) :=
      number_padded (by omega) (.inr ⟨nofun, stop⟩)
    rw [String.toList_append, List.append_assoc]
    by_cases negative : year < 0
    · have sign : "-".toList = ['-'] := rfl
      rw [if_pos negative, sign, List.singleton_append]
      have back : -((year.natAbs : Nat) : Int) = year := by omega
      rw [yearField_minus read (by omega), back]
    · have sign : "+".toList = ['+'] := rfl
      rw [if_neg negative, sign, List.singleton_append]
      have back : ((year.natAbs : Nat) : Int) = year := by omega
      rw [yearField_plus read (by omega), back]

/-! ### Marks, places and the offset -/

private theorem mark_self {c : Char} (visible : Text.isBlank c = false) (rest : List Char) :
    mark c (c :: rest) = .ok rest := by
  have skip : Text.afterBlanks (c :: rest) = c :: rest :=
    List.dropWhile_cons_of_neg (by rw [visible]; decide)
  simp only [mark, skip, if_true]

private theorem fraction_padded {width n : Nat} (pos : 0 < width) (le : width ≤ 9) (fits : n < 10 ^ width) :
    fraction (("." ++ Span.padded width n).toList ++ ['Z']) = .ok (n * 10 ^ (9 - width), ['Z']) := by
  have length := length_padded pos fits
  have stop : ∀ c, (['Z'] : List Char).head? = some c → digit? c = none := by
    intro c is
    cases is
    decide
  have read : number (some 9) ((Span.padded width n).toList ++ ['Z']) = .ok (n, ['Z']) :=
    number_padded (by omega) (.inr ⟨by rintro w ⟨⟩; omega, stop⟩)
  have point : ".".toList = ['.'] := rfl
  have places : ((Span.padded width n).toList ++ ['Z']).length - ['Z'].length = width := by
    rw [List.length_append, length]
    omega
  rw [String.toList_append, point, List.append_assoc, List.singleton_append]
  simp only [fraction, read, bind, Except.bind, pure, Except.pure, places]
  rfl

theorem fraction_text {nanos : Nat} (fits : nanos < 1000000000) :
    fraction ((fractionText nanos).toList ++ ['Z']) = .ok (nanos, ['Z']) := by
  unfold fractionText
  by_cases zero : nanos = 0
  · rw [if_pos zero, zero]
    rfl
  · rw [if_neg zero]
    by_cases millis : nanos % 1000000 = 0
    · rw [if_pos millis, fraction_padded (by decide) (by decide) (by omega)]
      have back : nanos / 1000000 * 10 ^ (9 - 3) = nanos := by omega
      rw [back]
    · rw [if_neg millis]
      by_cases micros : nanos % 1000 = 0
      · rw [if_pos micros, fraction_padded (by decide) (by decide) (by omega)]
        have back : nanos / 1000 * 10 ^ (9 - 6) = nanos := by omega
        rw [back]
      · rw [if_neg micros, fraction_padded (by decide) (by decide) (by omega), Nat.sub_self, Nat.pow_zero,
          Nat.mul_one]

private theorem offset_universal : offset (Text.afterBlanks ['Z']) = .ok (0, []) := rfl

/-! ### The whole text -/

private theorem toList_text (t : Instant) :
    t.text.toList =
      (yearText (Calendar.ofDayNumber (t.second / 86400)).year).toList ++ '-' ::
        ((Span.padded 2 (Calendar.ofDayNumber (t.second / 86400)).month).toList ++ '-' ::
          ((Span.padded 2 (Calendar.ofDayNumber (t.second / 86400)).day).toList ++ 'T' ::
            ((Span.padded 2 ((t.second % 86400).toNat / 3600)).toList ++ ':' ::
              ((Span.padded 2 ((t.second % 86400).toNat / 60 % 60)).toList ++ ':' ::
                ((Span.padded 2 ((t.second % 86400).toNat % 60 + t.nano / 1000000000)).toList ++
                  ((fractionText (t.nano % 1000000000)).toList ++ ['Z'])))))) := by
  have dash : "-".toList = ['-'] := rfl
  have letter : "T".toList = ['T'] := rfl
  have colon : ":".toList = [':'] := rfl
  have universal : "Z".toList = ['Z'] := rfl
  simp only [text, String.toList_append, dash, letter, colon, universal, List.append_assoc, List.cons_append,
    List.nil_append]

private theorem of?_parts (t : Instant) :
    of? (t.second / 86400 * 86400 + ((t.second % 86400).toNat / 3600 * 3600 +
      (t.second % 86400).toNat / 60 % 60 * 60 + (t.second % 86400).toNat % 60 : Nat) - 0) t.nano = some t := by
  have low := t.notBefore
  have high := t.notAfter
  have whole : t.second / 86400 * 86400 + ((t.second % 86400).toNat / 3600 * 3600 +
      (t.second % 86400).toNat / 60 % 60 * 60 + (t.second % 86400).toNat % 60 : Nat) - 0 = t.second := by omega
  rw [whole]
  unfold of?
  rw [dif_pos ⟨low, high, t.nano_lt⟩]

/-- Whether an instant lies in a leap second that is not at the end of a minute. -/
def IsStray (t : Instant) : Prop := 1000000000 ≤ t.nano ∧ t.second % 60 ≠ 59

instance (t : Instant) : Decidable t.IsStray := inferInstanceAs (Decidable (_ ∧ _))

section Regular
variable {t : Instant} (regular : ¬ t.IsStray)
include regular

/-- A leap second is second 60 of its minute. -/
private theorem secondAndNanos :
    (if (t.second % 86400).toNat % 60 + t.nano / 1000000000 = 60 then (59, t.nano % 1000000000 + 1000000000)
      else ((t.second % 86400).toNat % 60 + t.nano / 1000000000, t.nano % 1000000000)) =
        ((t.second % 86400).toNat % 60, t.nano) := by
  have nanoLt := t.nano_lt
  unfold IsStray at regular
  by_cases inLeap : 1000000000 ≤ t.nano
  · rw [if_pos (by omega)]
    exact Prod.ext (by simp only; omega) (by simp only; omega)
  · rw [if_neg (by omega)]
    exact Prod.ext (by simp only; omega) (by simp only; omega)

/-- An instant is read back from its written form, unless it lies in a stray leap second. -/
theorem parse_text_of_regular : parse t.text.toList = .ok t := by
  obtain ⟨low, high⟩ := Calendar.year_bounds t
  obtain ⟨existing, number⟩ := Calendar.ofDayNumber_spec (t.second / 86400)
  obtain ⟨month1, month12, day1, day31⟩ := Calendar.ofDayNumber_bounds (t.second / 86400)
  have nanoLt := t.nano_lt
  have parts := of?_parts t
  have dash : Text.isBlank '-' = false := by decide
  have colon : Text.isBlank ':' = false := by decide
  have letter (cs : List Char) : dateEnd ('T' :: cs) = .ok cs := rfl
  have ended : Text.afterBlanks [] = [] := rfl
  rw [toList_text]
  unfold parse
  rw [yearField_text low high, bind_ok]
  dsimp only
  rw [mark_self dash, bind_ok, field_padded _ month1 month12 (by omega), bind_ok]
  dsimp only
  rw [mark_self dash, bind_ok, field_padded _ day1 day31 (by omega), bind_ok]
  dsimp only
  rw [letter, bind_ok, field_padded _ (by omega) (by omega) (by omega), bind_ok]
  dsimp only
  rw [mark_self colon, bind_ok, field_padded _ (by omega) (by omega) (by omega), bind_ok]
  dsimp only
  rw [mark_self colon, bind_ok, field_padded _ (by omega) (by omega) (by omega), bind_ok]
  dsimp only
  rw [fraction_text (by omega), bind_ok]
  dsimp only
  rw [offset_universal, bind_ok]
  dsimp only
  rw [if_neg (not_not_intro ended), existing]
  dsimp only
  rw [if_neg (not_not_intro ⟨low, high⟩), if_neg (by decide), secondAndNanos regular, number]
  dsimp only
  rw [parts]
  rfl

end Regular

/-! ### What a text tells -/

/-- The instant that the written form of an instant tells: the instant itself, or in a stray leap second one as far
into the second that follows. -/
def told (t : Instant) : Instant :=
  if stray : t.IsStray then
    have low := t.notBefore
    have high := t.notAfter
    have nanoLt := t.nano_lt
    have inLeap : 1000000000 ≤ t.nano := stray.1
    have notLast : t.second % 60 ≠ 59 := stray.2
    ⟨t.second + 1, t.nano - 1000000000, by omega, by omega, by omega⟩
  else t

theorem told_of_regular {t : Instant} (regular : ¬ t.IsStray) : t.told = t := dif_neg regular

/-- Only an instant in a stray leap second is not the one that its text tells. -/
theorem told_eq_iff (t : Instant) : t.told = t ↔ ¬ t.IsStray := by
  refine ⟨fun same stray => ?_, told_of_regular⟩
  have moved : t.told.second = t.second + 1 := by rw [told, dif_pos stray]
  rw [same] at moved
  omega

theorem told_regular (t : Instant) : ¬ t.told.IsStray := by
  by_cases stray : t.IsStray
  · have nanoLt := t.nano_lt
    have within : t.told.nano < 1000000000 := by
      rw [told, dif_pos stray]
      show t.nano - 1000000000 < 1000000000
      omega
    exact fun again => absurd again.1 (Nat.not_le.mpr within)
  · rw [told_of_regular stray]
    exact stray

/-- An instant in a stray leap second has the text of the one as far into the second that follows. -/
theorem text_told (t : Instant) : t.told.text = t.text := by
  by_cases stray : t.IsStray
  · have nanoLt := t.nano_lt
    obtain ⟨inLeap, notLast⟩ := stray
    have second : t.told.second = t.second + 1 := by rw [told, dif_pos ⟨inLeap, notLast⟩]
    have nano : t.told.nano = t.nano - 1000000000 := by rw [told, dif_pos ⟨inLeap, notLast⟩]
    have day : (t.second + 1) / 86400 = t.second / 86400 := by omega
    have hour : ((t.second + 1) % 86400).toNat / 3600 = (t.second % 86400).toNat / 3600 := by omega
    have minute : ((t.second + 1) % 86400).toNat / 60 % 60 = (t.second % 86400).toNat / 60 % 60 := by omega
    have last : ((t.second + 1) % 86400).toNat % 60 + (t.nano - 1000000000) / 1000000000 =
        (t.second % 86400).toNat % 60 + t.nano / 1000000000 := by omega
    have rest : (t.nano - 1000000000) % 1000000000 = t.nano % 1000000000 := by omega
    simp only [text, second, nano, day, hour, minute, last, rest]
  · rw [told_of_regular stray]

/-- What is read from the written form of an instant is what that form tells. -/
theorem parse_text (t : Instant) : parse t.text.toList = .ok t.told := by
  rw [← t.text_told]
  exact parse_text_of_regular t.told_regular

end Courier.Instant
