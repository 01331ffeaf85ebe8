import Mathlib.Algebra.Order.Ring.Nat
import Courier.Instant.Basic

/-!
Days and dates. Every day has a date that exists, and the number of that date is the number of the day;
the days of all instants lie in years of at most six digits.
-/
namespace Courier.Calendar

private theorem length_monthLengths (leap : Bool) : (monthLengths leap).length = 12 := rfl

private theorem sum_monthLengths (leap : Bool) : (monthLengths leap).sum = if leap then 366 else 365 := by
  cases leap <;> rfl

/-- A day of the year lies in one of the months. -/
private theorem monthAndDay_spec (first : Nat) (lengths : List Nat) (rest : Nat) (inside : rest < lengths.sum) :
    ∃ k length, lengths[k]? = some length ∧ (monthAndDay first lengths rest).1 = first + k ∧
      1 ≤ (monthAndDay first lengths rest).2 ∧ (monthAndDay first lengths rest).2 ≤ length ∧
      (lengths.take k).sum + (monthAndDay first lengths rest).2 = rest + 1 := by
  induction lengths generalizing first rest with
  | nil => simp at inside
  | cons length later ih =>
    by_cases here : rest < length
    · have within : monthAndDay first (length :: later) rest = (first, rest + 1) := if_pos here
      refine ⟨0, length, rfl, ?_⟩
      rw [within]
      exact ⟨rfl, Nat.le_add_left 1 rest, here, Nat.zero_add _⟩
    · have after : rest - length < later.sum := by
        rw [List.sum_cons] at inside
        omega
      obtain ⟨k, found, is, month, low, high, total⟩ := ih (first + 1) (rest - length) after
      refine ⟨k + 1, found, by simpa using is, ?_, ?_, ?_, ?_⟩
      · simp only [monthAndDay, here, if_false, month]
        omega
      · simpa only [monthAndDay, here, if_false] using low
      · simpa only [monthAndDay, here, if_false] using high
      · simp only [monthAndDay, here, if_false, List.take_succ_cons, List.sum_cons]
        omega

/-- The day of the year of a day counted from the first day of year 1. -/
private theorem dayOfYear_lt (n : Int) :
    (n - daysBefore (yearOf n)).toNat < (monthLengths (isLeap (yearOf n))).sum := by
  obtain ⟨low, high⟩ := daysBefore_yearOf n
  rw [daysBefore_succ] at high
  rw [sum_monthLengths]
  split <;> rename_i leap <;> simp only [leap, if_true, if_false, Bool.false_eq_true] at high <;> omega

/-- The date of a day exists and has the number of that day. -/
theorem ofDayNumber_spec (n : Int) :
    date? (ofDayNumber n).year (ofDayNumber n).month (ofDayNumber n).day = some (ofDayNumber n) ∧
      dayNumber (ofDayNumber n) = n := by
  obtain ⟨k, length, found, month, low, high, total⟩ :=
    monthAndDay_spec 1 _ _ (dayOfYear_lt (n + epochDay))
  have early := (daysBefore_yearOf (n + epochDay)).1
  have monthIs : (ofDayNumber n).month = 1 + k := month
  have dayIs : (ofDayNumber n).day = (monthAndDay 1 (monthLengths (isLeap (yearOf (n + epochDay))))
      (n + epochDay - daysBefore (yearOf (n + epochDay))).toNat).2 := rfl
  have yearIs : (ofDayNumber n).year = yearOf (n + epochDay) := rfl
  constructor
  · have some_ : 1 + k ≠ 0 := by omega
    have place : 1 + k - 1 = k := by omega
    simp only [date?, monthLength?, yearIs, monthIs, some_, if_false, place, found]
    rw [if_pos (by rw [dayIs]; exact ⟨low, high⟩)]
    rw [← yearIs, ← monthIs]
  · have place : 1 + k - 1 = k := by omega
    have before : daysBeforeMonth (isLeap (yearOf (n + epochDay))) (1 + k) =
        ((monthLengths (isLeap (yearOf (n + epochDay)))).take k).sum := by
      rw [daysBeforeMonth, place]
      rfl
    unfold dayNumber
    rw [yearIs, monthIs, before, dayIs]
    omega

theorem ofDayNumber_bounds (n : Int) :
    1 ≤ (ofDayNumber n).month ∧ (ofDayNumber n).month ≤ 12 ∧ 1 ≤ (ofDayNumber n).day ∧ (ofDayNumber n).day ≤ 31 := by
  obtain ⟨k, length, found, month, low, high, _⟩ := monthAndDay_spec 1 _ _ (dayOfYear_lt (n + epochDay))
  obtain ⟨inside, value⟩ := List.getElem?_eq_some_iff.mp found
  have small : length ≤ 31 := by
    have member : length ∈ monthLengths (isLeap (yearOf (n + epochDay))) := value ▸ List.getElem_mem inside
    revert member
    cases isLeap (yearOf (n + epochDay)) <;> simp only [monthLengths, List.mem_cons, List.not_mem_nil] <;>
      simp <;> omega
  rw [length_monthLengths] at inside
  have monthIs : (ofDayNumber n).month = 1 + k := month
  have day : 1 ≤ (ofDayNumber n).day ∧ (ofDayNumber n).day ≤ length := ⟨low, high⟩
  omega

private theorem daysBefore_mono {a b : Int} (le : a ≤ b) : daysBefore a ≤ daysBefore b := by
  by_cases same : a = b
  · exact Int.le_of_eq (congrArg daysBefore same)
  · unfold daysBefore
    omega

theorem year_bounds (t : Instant) :
    -262143 ≤ (ofDayNumber (t.second / 86400)).year ∧ (ofDayNumber (t.second / 86400)).year ≤ 262142 := by
  have yearIs : (ofDayNumber (t.second / 86400)).year = yearOf (t.second / 86400 + epochDay) := rfl
  obtain ⟨low, high⟩ := daysBefore_yearOf (t.second / 86400 + epochDay)
  have notBefore := t.notBefore
  have notAfter := t.notAfter
  rw [yearIs]
  constructor
  · refine Int.not_lt.mp (fun small => ?_)
    have early := daysBefore_mono (show yearOf (t.second / 86400 + epochDay) + 1 ≤ -262143 by omega)
    have first : daysBefore (-262143) = -95746130 := by decide
    simp only [epochDay] at *
    omega
  · refine Int.not_lt.mp (fun large => ?_)
    have late := daysBefore_mono (show 262143 ≤ yearOf (t.second / 86400 + epochDay) by omega)
    have last : daysBefore 262143 = 95745399 := by decide
    simp only [epochDay] at *
    omega

end Courier.Calendar
