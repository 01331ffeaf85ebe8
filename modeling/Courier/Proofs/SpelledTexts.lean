import Courier.Json.Spelling
import Courier.Json.Written

/-!
The spelling of a text stands for that text: each of its bytes is spelled as one piece that stands for
that byte and for no part of a surrogate.
-/
namespace Courier.Json.Spelling

/-! ### Bytes of a string -/

private theorem toList_loop (bytes : ByteArray) (i : Nat) (before : List UInt8) :
    ByteArray.toList.loop bytes i before = before.reverse ++ bytes.data.toList.drop i := by
  induction left : bytes.size - i generalizing i before with
  | zero =>
    have done : ¬ i < bytes.size := by omega
    have short : bytes.data.toList.length ≤ i := by
      rw [Array.length_toList]
      exact Nat.not_lt.mp done
    rw [ByteArray.toList.loop, if_neg done, List.drop_eq_nil_of_le short, List.append_nil]
  | succ left ih =>
    have more : i < bytes.size := by omega
    have inside : i < bytes.data.toList.length := by
      rw [Array.length_toList]
      exact more
    have here : bytes.get! i = bytes.data.toList[i] := by
      rw [Array.getElem_toList]
      exact getElem!_pos bytes.data i more
    rw [ByteArray.toList.loop, if_pos more, ih (i + 1) _ (by omega), List.reverse_cons, List.append_assoc, here,
      List.singleton_append, List.getElem_cons_drop]

private theorem toByteArray_toList (bytes : ByteArray) : bytes.toList.toByteArray = bytes := by
  have list : bytes.toList = bytes.data.toList := by
    rw [ByteArray.toList, toList_loop, List.reverse_nil, List.nil_append, List.drop_zero]
  rw [list]
  exact ByteArray.ext (by rw [List.data_toByteArray])

private theorem fromUTF8?_toUTF8 (s : String) : String.fromUTF8? s.toUTF8 = some s := by
  unfold String.fromUTF8?
  exact dif_pos s.isValidUTF8

/-! ### Pieces of a byte -/

/-- How a byte is spelled: as itself, in short, or as a unit below the blank. -/
theorem ofByte_cases (b : UInt8) :
    (ofByte b = .plain b ∧ 0x20 ≤ b ∧ b ≠ 0x22 ∧ b ≠ 0x5C) ∨
      (ofByte b = .short b ∧ (b = 0x22 ∨ b = 0x5C ∨ b = 0x08 ∨ b = 0x0C ∨ b = 0x0A ∨ b = 0x0D ∨ b = 0x09)) ∨
      (ofByte b = .unit b.toUInt16 ∧ b < 0x20) := by
  unfold ofByte
  by_cases special :
      (b = 0x22 || b = 0x5C || b = 0x08 || b = 0x0C || b = 0x0A || b = 0x0D || b = 0x09) = true
  · refine .inr (.inl ⟨if_pos special, ?_⟩)
    simpa [or_assoc] using special
  · rw [if_neg special]
    by_cases low : b < 0x20
    · exact .inr (.inr ⟨if_pos low, low⟩)
    · refine .inl ⟨if_neg low, UInt8.not_lt.mp low, ?_, ?_⟩
      · rintro rfl
        exact special rfl
      · rintro rfl
        exact special rfl

private theorem isPassable_ofByte (bs : List UInt8) : isPassable (bs.map ofByte) = true := by
  unfold isPassable
  rw [List.all_map, List.all_eq_true]
  intro b _
  rcases ofByte_cases b with ⟨is, high, _⟩ | ⟨is, _⟩ | ⟨is, _⟩
  · simpa [is] using high
  · simp [is]
  · simp [is]

private theorem toNat_unit {b : UInt8} (low : b < 0x20) : b.toUInt16.toNat < 0x20 := by
  rw [UInt8.toNat_toUInt16]
  exact UInt8.lt_iff_toNat_lt.mp low

private theorem not_isLeading {b : UInt8} (low : b < 0x20) : isLeading b.toUInt16 = false := by
  have small := toNat_unit low
  have first : ¬ (0xD800 : UInt16) ≤ b.toUInt16 := by
    rw [UInt16.le_iff_toNat_le]
    have : (0xD800 : UInt16).toNat = 0xD800 := rfl
    omega
  simp [isLeading, first]

private theorem not_isTrailing {b : UInt8} (low : b < 0x20) : isTrailing b.toUInt16 = false := by
  have small := toNat_unit low
  have first : ¬ (0xDC00 : UInt16) ≤ b.toUInt16 := by
    rw [UInt16.le_iff_toNat_le]
    have : (0xDC00 : UInt16).toNat = 0xDC00 := rfl
    omega
  simp [isTrailing, first]

private theorem codePointBytes_unit {b : UInt8} (low : b < 0x20) : codePointBytes b.toUInt16.toNat = [b] := by
  have small : b.toUInt16.toNat < 0x80 := Nat.lt_trans (toNat_unit low) (by decide)
  unfold codePointBytes
  rw [if_pos small, UInt8.toNat_toUInt16]
  simp

private theorem isPaired_ofByte (bs : List UInt8) : isPaired (bs.map ofByte) = true := by
  induction bs with
  | nil => rfl
  | cons b bs ih =>
    rw [List.map_cons]
    rcases ofByte_cases b with ⟨is, _⟩ | ⟨is, _⟩ | ⟨is, low⟩
    · rw [is]
      exact ih
    · rw [is]
      exact ih
    · rw [is]
      unfold isPaired
      split
      · rfl
      · rename_i same
        cases same
      · rename_i same
        cases same
      · rename_i u v rest same
        obtain ⟨unit, tail⟩ := List.cons.inj same
        cases unit
        rw [not_isLeading low, not_isTrailing low]
        rw [tail] at ih
        simpa using ih
      · rename_i u rest _ same
        obtain ⟨unit, tail⟩ := List.cons.inj same
        cases unit
        rw [not_isLeading low, not_isTrailing low, ← tail]
        simpa using ih

private theorem bytes_ofByte (bs : List UInt8) : bytes (bs.map ofByte) = bs := by
  induction bs with
  | nil => rfl
  | cons b bs ih =>
    rw [List.map_cons]
    rcases ofByte_cases b with ⟨is, _⟩ | ⟨is, _⟩ | ⟨is, low⟩
    · rw [is]
      exact congrArg (b :: ·) ih
    · rw [is]
      exact congrArg (b :: ·) ih
    · rw [is]
      unfold bytes
      split
      · rename_i same
        cases same
      · rename_i same
        cases same
      · rename_i same
        cases same
      · rename_i u v rest same
        obtain ⟨unit, tail⟩ := List.cons.inj same
        cases unit
        rw [not_isLeading low, ← tail, ih, codePointBytes_unit low]
        rfl
      · rename_i u rest _ same
        obtain ⟨unit, tail⟩ := List.cons.inj same
        cases unit
        rw [← tail, ih, codePointBytes_unit low]
        rfl

/-- A spelled text is read as the text. -/
theorem toString?_ofString (s : String) : toString? (ofString s) = some s := by
  unfold toString? ofString
  rw [isPassable_ofByte, isPaired_ofByte, bytes_ofByte, toByteArray_toList]
  exact fromUTF8?_toUTF8 s

end Courier.Json.Spelling
