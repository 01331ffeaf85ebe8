import Mathlib.Algebra.Order.Ring.Nat
import Courier.Message.Envelope
import Courier.Proofs.InstantText

/-!
Instants that are read from a text. A text has a second 60 at the end of a minute only, and so no instant that is
read lies in a stray leap second; nor does the instant of a message that is read from its envelope, whatever else
the envelope holds.
-/
namespace Courier

/-- What a computation of two steps ends with is what its second step ends with. -/
theorem of_bind_ok {ε α β : Type} {first : Except ε α} {next : α → Except ε β} {b : β}
    (is : (first >>= next) = .ok b) : ∃ a, first = .ok a ∧ next a = .ok b := by
  cases first with
  | error why => cases is
  | ok a => exact ⟨a, rfl, is⟩

namespace Instant

/-! ### Fields of a text -/

private theorem digit?_lt {c : Char} {d : Nat} (is : digit? c = some d) : d < 10 := by
  unfold digit? at is
  split at is
  · rename_i among
    have high : c.toNat ≤ 57 := UInt32.le_iff_toNat_le.mp among.2
    have value : c.toNat - 48 = d := Option.some.inj is
    omega
  · cases is

/-- Digits that are read within a width add no more places than there are. -/
private theorem digitsFrom_lt {width value : Nat} {cs : List Char} {result : Nat} {rest : List Char}
    (reads : digitsFrom value (some width) cs = .ok (result, rest)) :
    ∃ places ≤ width, cs.length = places + rest.length ∧ result < (value + 1) * 10 ^ places := by
  induction cs generalizing width value with
  | nil =>
    have is : digitsFrom value (some width) [] = .ok (value, []) := by cases width <;> rfl
    rw [is] at reads
    cases reads
    exact ⟨0, Nat.zero_le _, rfl, by omega⟩
  | cons c cs ih =>
    cases width with
    | zero =>
      have is : digitsFrom value (some 0) (c :: cs) = .ok (value, c :: cs) := rfl
      rw [is] at reads
      cases reads
      exact ⟨0, Nat.le_refl _, (Nat.zero_add _).symm, by omega⟩
    | succ width =>
      simp only [digitsFrom] at reads
      split at reads
      · cases reads
        exact ⟨0, Nat.zero_le _, (Nat.zero_add _).symm, by omega⟩
      · rename_i d isDigit
        have below : d < 10 := digit?_lt isDigit
        split at reads
        · cases reads
        · obtain ⟨places, within, length, less⟩ := ih reads
          have within : places ≤ width := within
          refine ⟨places + 1, Nat.succ_le_succ within, by simp only [List.length_cons]; omega, ?_⟩
          calc result < (value * 10 + d + 1) * 10 ^ places := less
            _ ≤ (value + 1) * 10 * 10 ^ places := Nat.mul_le_mul_right _ (by omega)
            _ = (value + 1) * 10 ^ (places + 1) := by rw [Nat.pow_succ, Nat.mul_comm (10 ^ places), Nat.mul_assoc]

/-- The decimal places of the seconds are less than a second. -/
theorem fraction_lt {cs rest : List Char} {nanos : Nat} (reads : fraction cs = .ok (nanos, rest)) :
    nanos < 1000000000 := by
  unfold fraction at reads
  split at reads
  · rename_i cs
    obtain ⟨⟨value, left⟩, digits, reads⟩ := of_bind_ok reads
    cases reads
    unfold number at digits
    split at digits
    · cases digits
    · split at digits
      · rename_i c more _
        obtain ⟨places, within, length, less⟩ := digitsFrom_lt digits
        have taken : (c :: more).length - left.length = places := by omega
        rw [Nat.zero_add, Nat.one_mul] at less
        show value * Nat.pow 10 (9 - ((c :: more).length - left.length)) < 1000000000
        rw [taken]
        calc value * 10 ^ (9 - places) < 10 ^ places * 10 ^ (9 - places) :=
              Nat.mul_lt_mul_of_pos_right less (Nat.pow_pos (by decide))
          _ = 10 ^ 9 := by rw [← Nat.pow_add, Nat.add_sub_cancel' within]
      · cases digits
  · cases reads
    decide

/-- Offsets are whole minutes. -/
theorem offset_mod {cs rest : List Char} {ahead : Int} (reads : offset cs = .ok (ahead, rest)) : ahead % 60 = 0 := by
  unfold offset at reads
  split at reads
  · cases reads
  · split at reads
    · cases reads
      rfl
    · split at reads
      · cases reads
        rfl
      · rename_i c cs _ _
        by_cases foreign : c ≠ '+' ∧ c ≠ '-' ∧ c ≠ '−'
        · rw [if_pos foreign] at reads
          cases reads
        · rw [if_neg foreign] at reads
          obtain ⟨⟨hourTens, hourUnits, left⟩, _, reads⟩ := of_bind_ok reads
          obtain ⟨⟨tens, units, _⟩, _, reads⟩ := of_bind_ok reads
          dsimp only at reads
          by_cases many : 6 ≤ tens
          · rw [if_pos many] at reads
            cases reads
          · rw [if_neg many] at reads
            have is := congrArg Prod.fst (Except.ok.inj reads)
            have is : (if c = '+' then _ else _) = ahead := is
            split at is <;> omega

theorem of?_eq {second : Int} {nano : Nat} {t : Instant} (is : of? second nano = some t) :
    t.second = second ∧ t.nano = nano := by
  unfold of? at is
  split at is
  · cases is
    exact ⟨rfl, rfl⟩
  · cases is

/-- An instant that is read lies in no stray leap second. -/
theorem regular_of_parse {cs : List Char} {t : Instant} (reads : parse cs = .ok t) : ¬ t.IsStray := by
  unfold parse at reads
  obtain ⟨⟨year, _⟩, _, reads⟩ := of_bind_ok reads
  obtain ⟨_, _, reads⟩ := of_bind_ok reads
  obtain ⟨⟨month, _⟩, _, reads⟩ := of_bind_ok reads
  obtain ⟨_, _, reads⟩ := of_bind_ok reads
  obtain ⟨⟨day, _⟩, _, reads⟩ := of_bind_ok reads
  obtain ⟨_, _, reads⟩ := of_bind_ok reads
  obtain ⟨⟨hour, _⟩, _, reads⟩ := of_bind_ok reads
  obtain ⟨_, _, reads⟩ := of_bind_ok reads
  obtain ⟨⟨minute, _⟩, _, reads⟩ := of_bind_ok reads
  obtain ⟨_, _, reads⟩ := of_bind_ok reads
  obtain ⟨⟨second, _⟩, _, reads⟩ := of_bind_ok reads
  obtain ⟨⟨nanos, _⟩, fractionIs, reads⟩ := of_bind_ok reads
  obtain ⟨⟨ahead, _⟩, offsetIs, reads⟩ := of_bind_ok reads
  have small := fraction_lt fractionIs
  have minutes := offset_mod offsetIs
  dsimp only at reads
  split at reads
  · cases reads
  · split at reads
    · cases reads
    · rename_i date _
      split at reads
      · cases reads
      · split at reads
        · cases reads
        · split at reads
          · rename_i found
            cases reads
            obtain ⟨secondIs, nanoIs⟩ := of?_eq found
            rintro ⟨inLeap, notLast⟩
            by_cases last : second = 60
            · rw [secondIs, last] at notLast
              simp only [if_true] at notLast
              omega
            · rw [nanoIs, if_neg last] at inLeap
              omega
          · cases reads

end Instant

/-! ### Records -/

namespace Json

/-- A draft that is read into keeps what each field keeps. -/
structure Shape.Keeps {δ α : Type} (shape : Shape δ α) (holds : δ → Prop) : Prop where
  empty : holds shape.empty
  field : ∀ f ∈ shape.fields, ∀ v d next, holds d → f.read v d = .ok next → holds next

namespace Shape.Keeps
variable {δ α : Type} {shape : Shape δ α} {holds : δ → Prop} (keeps : shape.Keeps holds)
include keeps

theorem readMembers {last : δ} : ∀ {members : Members} {d : δ}, holds d →
    shape.readMembers d members = .ok last → holds last
  | .close, d, first, reads => by
    cases reads
    exact first
  | .broken, _, _, reads => by cases reads
  | .stray _, _, _, reads => by cases reads
  | .more key v rest, d, first, reads => by
    simp only [Shape.readMembers] at reads
    obtain ⟨name, _, reads⟩ := of_bind_ok reads
    split at reads
    · rename_i f found
      by_cases again : f.isSet d = true
      · rw [if_pos again] at reads
        cases reads
      · rw [if_neg again] at reads
        obtain ⟨next, one, reads⟩ := of_bind_ok reads
        exact readMembers (keeps.field f (List.mem_of_find?_eq_some found) v d next first one) reads
    · by_cases strict : shape.strict = true
      · rw [if_pos strict] at reads
        cases reads
      · rw [if_neg strict] at reads
        obtain ⟨_, _, reads⟩ := of_bind_ok reads
        exact readMembers first reads

theorem readItems {items : Items} {place : Nat} {fields : List (Field δ)} {d last : δ} (among : fields ⊆ shape.fields)
    (first : holds d) (reads : shape.readItems place fields d items = .ok last) : holds last := by
  induction fields generalizing items place d with
  | nil =>
    cases items with
    | close =>
      cases reads
      exact first
    | broken => cases reads
    | more v rest => cases reads
  | cons f later ih =>
    cases items with
    | close =>
      obtain ⟨_, _, reads⟩ := of_bind_ok reads
      cases reads
      exact first
    | broken => cases reads
    | more v rest =>
      obtain ⟨next, one, reads⟩ := of_bind_ok reads
      exact ih (fun x inside => among (List.mem_cons_of_mem _ inside))
        (keeps.field f (among List.mem_cons_self) v d next first one) reads

/-- What is read is made of a draft that keeps it. -/
theorem read {v : Value} {a : α} (reads : shape.read v = .ok a) : ∃ d, holds d ∧ shape.make d = .ok a := by
  unfold Shape.read at reads
  split at reads
  · obtain ⟨d, members, reads⟩ := of_bind_ok reads
    exact ⟨d, keeps.readMembers keeps.empty members, reads⟩
  · obtain ⟨d, items, reads⟩ := of_bind_ok reads
    exact ⟨d, keeps.readItems (List.Subset.refl _) keeps.empty items, reads⟩
  · cases reads

end Shape.Keeps

/-- A field that is read leaves in its place what its reader has read. -/
theorem of_field_read {δ β : Type} {name : String} {read : Reader β} {get : δ → Option β} {set : β → δ → δ} {v : Value}
    {d next : δ} (reads : (field name read get set).read v d = .ok next) : ∃ b, read v = .ok b ∧ next = set b d := by
  obtain ⟨b, is, reads⟩ := of_bind_ok reads
  cases reads
  exact ⟨b, is, rfl⟩

theorem regular_of_instant {v : Value} {t : Instant} (reads : instant v = .ok t) : ¬ t.IsStray := by
  obtain ⟨s, _, reads⟩ := of_bind_ok reads
  split at reads
  · rename_i parsed
    cases reads
    exact Instant.regular_of_parse parsed
  · cases reads

end Json

namespace Message

theorem draft_keeps_regular : shape.Keeps (fun d => ∀ t, d.createdAt = some t → ¬ t.IsStray) := by
  have unread : shape.empty.createdAt = none := rfl
  refine ⟨fun t is => ?_, fun f inside v d next regular reads => ?_⟩
  · rw [unread] at is
    cases is
  simp only [shape, List.mem_cons, List.not_mem_nil, or_false] at inside
  -- only one of the fields is about the instant
  rcases inside with rfl | rfl | rfl | rfl | rfl | rfl | rfl | rfl | rfl | rfl
  case inr.inr.inr.inr.inr.inr.inr.inr.inl =>
    obtain ⟨t, read, rfl⟩ := Json.of_field_read reads
    intro u is
    cases is
    exact Json.regular_of_instant read
  case inr.inr.inr.inr.inr.inr.inr.inr.inr =>
    have reads : (Json.field "target_handler" (Json.optional Json.text) Draft.targetHandler
        (fun a d => { d with targetHandler := some a })).read v d = .ok next := reads
    obtain ⟨_, _, rfl⟩ := Json.of_field_read reads
    exact regular
  all_goals
    obtain ⟨_, _, rfl⟩ := Json.of_field_read reads
    exact regular

/-- A message that is read was not sent in a stray leap second. -/
theorem regular_of_read {bytes : List UInt8} {m : Message} (reads : read bytes = .ok m) : ¬ m.createdAt.IsStray := by
  obtain ⟨a, value, reads⟩ := of_bind_ok reads
  have same : a = m := by
    split at reads
    · cases reads
      rfl
    · cases reads
  subst same
  obtain ⟨d, regular, made⟩ := draft_keeps_regular.read value
  simp only [shape] at made
  obtain ⟨_, _, made⟩ := of_bind_ok made
  obtain ⟨_, _, made⟩ := of_bind_ok made
  obtain ⟨_, _, made⟩ := of_bind_ok made
  obtain ⟨_, _, made⟩ := of_bind_ok made
  obtain ⟨_, _, made⟩ := of_bind_ok made
  obtain ⟨_, _, made⟩ := of_bind_ok made
  obtain ⟨_, _, made⟩ := of_bind_ok made
  obtain ⟨_, _, made⟩ := of_bind_ok made
  obtain ⟨t, needed, made⟩ := of_bind_ok made
  cases made
  refine regular t ?_
  unfold Json.need at needed
  split at needed
  · rename_i is
    cases needed
    exact is
  · cases needed

end Message
end Courier
