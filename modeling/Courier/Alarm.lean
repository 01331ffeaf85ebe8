/-!
# Alarms

Whoever sleeps sets an alarm. Any alarm that is due may go off: those who sleep are woken in no certain
order. A clock that is moved by hand wakes them in the order of their deadlines, and those with one
deadline in the order in which they set their alarms.
-/
namespace Courier

/-- Something that is to happen at a count of the clock. -/
structure Alarm (α : Type) where
  deadline : Nat
  /-- The number of the alarm. -/
  serial : Nat
  purpose : α
deriving DecidableEq

/-- Alarms that have not gone off, in the order in which they were set. -/
structure Alarms (α : Type) where
  waiting : List (Alarm α)
  /-- The number of the next alarm. -/
  nextSerial : Nat

namespace Alarms

variable {α : Type}

def none : Alarms α := ⟨[], 0⟩

instance : Inhabited (Alarms α) := ⟨none⟩

def set (a : Alarms α) (deadline : Nat) (purpose : α) : Alarms α :=
  ⟨a.waiting ++ [⟨deadline, a.nextSerial, purpose⟩], a.nextSerial + 1⟩

/-- The first of the alarms with the earliest deadline. -/
def firstOf : List (Alarm α) → Option (Alarm α)
  | [] => .none
  | a :: rest =>
    match firstOf rest with
    | .none => some a
    | some b => if b.deadline < a.deadline then some b else some a

def first? (a : Alarms α) : Option (Alarm α) := firstOf a.waiting

/-- The alarms but one. -/
def without (a : Alarms α) (alarm : Alarm α) : Alarms α :=
  { a with waiting := a.waiting.filter (fun b => b.serial ≠ alarm.serial) }

/-- The alarm at a place in the line, if it is due by a count of the clock. -/
def dueAt? (a : Alarms α) (place now : Nat) : Option (Alarm α) :=
  a.waiting[place]?.filter (fun alarm => alarm.deadline ≤ now)

/-- The alarm at a place in the line, if its deadline is past all that a clock counts to. -/
def beyondAt? (a : Alarms α) (place : Nat) : Option (Alarm α) :=
  a.waiting[place]?.filter (fun alarm => 0x10000000000000000 ≤ alarm.deadline)

/-- The alarm with the earliest deadline, if it is due by a count of the clock, and the others. -/
def due? (a : Alarms α) (now : Nat) : Option (Alarm α × Alarms α) :=
  match a.first? with
  | .none => .none
  | some alarm => if alarm.deadline ≤ now then some (alarm, a.without alarm) else .none

def cancel (a : Alarms α) (which : α → Bool) : Alarms α :=
  { a with waiting := a.waiting.filter (fun b => !which b.purpose) }

def size (a : Alarms α) : Nat := a.waiting.length

end Alarms
end Courier
