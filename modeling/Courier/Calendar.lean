/-!
# Days of the calendar

Years, months and days of the Gregorian calendar, carried back before its introduction, and the
count of days since 1970-01-01. The year of a day is the last one that does not start after it.
-/
namespace Courier.Calendar

def isLeap (year : Int) : Bool := year % 4 = 0 && (year % 100 ≠ 0 || year % 400 = 0)

def monthLengths (leap : Bool) : List Nat :=
  [31, if leap then 29 else 28, 31, 30, 31, 30, 31, 31, 30, 31, 30, 31]

/-- How many days a month has; none outside 1 to 12. -/
def monthLength? (year : Int) (month : Nat) : Option Nat :=
  if month = 0 then none else (monthLengths (isLeap year))[month - 1]?

/-- Days from the first day of year 1 to the first day of a year. -/
def daysBefore (year : Int) : Int :=
  365 * (year - 1) + (year - 1) / 4 - (year - 1) / 100 + (year - 1) / 400

/-- The day 1970-01-01, counted from the first day of year 1. -/
def epochDay : Int := 719162

/-- A day of the calendar. The month runs from 1 to 12 and the day of the month from 1. -/
structure Date where
  year : Int
  month : Nat
  day : Nat
deriving DecidableEq, Repr

def date? (year : Int) (month day : Nat) : Option Date :=
  match monthLength? year month with
  | some length => if 1 ≤ day ∧ day ≤ length then some ⟨year, month, day⟩ else none
  | none => none

/-- Days from the first day of a year to the first day of a month. -/
def daysBeforeMonth (leap : Bool) (month : Nat) : Nat := ((monthLengths leap).take (month - 1)).foldr (· + ·) 0

/-- The count of days from 1970-01-01 to a date. -/
def dayNumber (d : Date) : Int :=
  daysBefore d.year + daysBeforeMonth (isLeap d.year) d.month + (d.day - 1) - epochDay

/-- The year of a day counted from the first day of year 1. The mean length of a year gives a guess
that is off by one at most. -/
def yearOf (n : Int) : Int :=
  let guess := 400 * n / 146097 + 1
  if n < daysBefore guess then guess - 1
  else if daysBefore (guess + 1) ≤ n then guess + 1
  else guess

/-- The month and the day of the month of a day of the year counted from zero, given the lengths of
this month and those after it. -/
def monthAndDay (month : Nat) : List Nat → Nat → Nat × Nat
  | [], rest => (month, rest + 1)
  | length :: later, rest =>
    if rest < length then (month, rest + 1) else monthAndDay (month + 1) later (rest - length)

/-- The date of a day counted from 1970-01-01. -/
def ofDayNumber (n : Int) : Date :=
  let day := n + epochDay
  let year := yearOf day
  let place := monthAndDay 1 (monthLengths (isLeap year)) (day - daysBefore year).toNat
  ⟨year, place.1, place.2⟩

theorem daysBefore_succ (year : Int) :
    daysBefore (year + 1) = daysBefore year + if isLeap year then 366 else 365 := by
  unfold daysBefore isLeap
  by_cases four : year % 4 = 0 <;> by_cases hundred : year % 100 = 0 <;>
    by_cases fourHundred : year % 400 = 0 <;> simp [four, hundred, fourHundred] <;> omega

theorem daysBefore_yearOf (n : Int) :
    daysBefore (yearOf n) ≤ n ∧ n < daysBefore (yearOf n + 1) := by
  unfold yearOf
  simp only
  split
  · rename_i early
    unfold daysBefore at early ⊢
    omega
  · rename_i late
    split
    · rename_i next
      unfold daysBefore at late next ⊢
      omega
    · rename_i here
      omega

end Courier.Calendar
