/-!
# The Gregorian calendar

Days are counted from 1970-01-01, in both directions and without end, and the
calendar is continued to all years.  A year is found from an estimate that is
off by at most one, a month by walking along the lengths of the months.
-/

namespace Stockroom.Calendar

structure Date where
  year : Int
  month : Nat
  day : Nat
deriving DecidableEq, Repr

def isLeap (year : Int) : Bool :=
  year % 4 == 0 && (year % 100 != 0 || year % 400 == 0)

def monthLengths (year : Int) : List Nat :=
  [31, if isLeap year then 29 else 28, 31, 30, 31, 30, 31, 31, 30, 31, 30, 31]

/-- The days from 1970-01-01 to the first day of a year. -/
def daysBeforeYear (year : Int) : Int :=
  let past := year - 1
  365 * past + past / 4 - past / 100 + past / 400 - 719162

def Date.isValid (date : Date) : Bool :=
  match (monthLengths date.year)[date.month - 1]? with
  | some length => 1 ≤ date.month && 1 ≤ date.day && date.day ≤ length
  | none => false

/-- The days from 1970-01-01 to a date. -/
def Date.toDays (date : Date) : Int :=
  let months := (monthLengths date.year).take (date.month - 1)
  daysBeforeYear date.year + months.foldr Nat.add 0 + date.day - 1

def yearOfDay (day : Int) : Int :=
  let estimate := (day + 719162) * 400 / 146097 + 1
  if day < daysBeforeYear estimate then estimate - 1
  else if daysBeforeYear (estimate + 1) ≤ day then estimate + 1
  else estimate

/-- The month, counted on from `month`, and the day in it, of a day counted from zero. -/
def monthAndDay : (month : Nat) → (lengths : List Nat) → (day : Nat) → Nat × Nat
  | month, length :: rest, day =>
    if day < length then (month, day + 1) else monthAndDay (month + 1) rest (day - length)
  | month, [], day => (month, day + 1)

def Date.ofDays (day : Int) : Date :=
  let year := yearOfDay day
  let (month, dayOfMonth) := monthAndDay 1 (monthLengths year) (day - daysBeforeYear year).toNat
  ⟨year, month, dayOfMonth⟩

example : Date.ofDays 0 = ⟨1970, 1, 1⟩ ∧ Date.ofDays 19782 = ⟨2024, 2, 29⟩ := by decide

example : Date.ofDays (-96465292) = ⟨-262143, 1, 1⟩ ∧ Date.ofDays 95026236 = ⟨262142, 12, 31⟩ := by
  decide

end Stockroom.Calendar
