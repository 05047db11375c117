import Mathlib
import Stockroom.Time.Calendar

/-!
# The calendar counted back

A year lasts from its first day to that of the next, and so do the months that
its lengths list.  Each day therefore has a valid date, and counting the days
to that date gives the day.
-/

namespace Stockroom.Calendar

/-- A year has as many days as its months have together. -/
theorem daysBeforeYear_succ (year : Int) :
    daysBeforeYear (year + 1) = daysBeforeYear year + (monthLengths year).sum := by
  have hsum : (monthLengths year).sum = if isLeap year then 366 else 365 := by
    rw [monthLengths]
    cases isLeap year <;> rfl
  rw [hsum, daysBeforeYear, daysBeforeYear]
  simp only [isLeap, Bool.and_eq_true, Bool.or_eq_true, beq_iff_eq, bne_iff_ne]
  split <;> omega

/-- The estimate of a year is off by at most one. -/
theorem daysBeforeYear_yearOfDay (day : Int) :
    daysBeforeYear (yearOfDay day) ≤ day ∧ day < daysBeforeYear (yearOfDay day + 1) := by
  rw [yearOfDay]
  generalize hestimate : (day + 719162) * 400 / 146097 = past
  have hearly : daysBeforeYear past ≤ day := by
    simp only [daysBeforeYear]
    omega
  have hlate : day < daysBeforeYear (past + 1 + 1 + 1) := by
    simp only [daysBeforeYear]
    omega
  split
  · rename_i hbefore
    rw [Int.add_sub_cancel]
    exact ⟨hearly, hbefore⟩
  · rename_i hnotBefore
    split
    · rename_i hafter
      exact ⟨hafter, hlate⟩
    · rename_i hnotAfter
      exact ⟨Int.not_lt.1 hnotBefore, Int.not_le.1 hnotAfter⟩

/-- Walking along the months of a year ends in the month of the day. -/
theorem monthAndDay_spec (month : Nat) (lengths : List Nat) (day : Nat)
    (hday : day < lengths.sum) :
    ∃ index length rest, lengths[index]? = some length ∧ rest < length ∧
      (lengths.take index).sum + rest = day ∧
      monthAndDay month lengths day = (month + index, rest + 1) := by
  induction lengths generalizing month day with
  | nil => exact absurd hday (Nat.not_lt_zero day)
  | cons length lengths ih =>
    rw [monthAndDay]
    split
    · rename_i hwithin
      exact ⟨0, length, day, rfl, hwithin, Nat.zero_add day, rfl⟩
    · rename_i hbeyond
      rw [List.sum_cons] at hday
      obtain ⟨index, last, rest, hlast, hrest, hsum, hwalk⟩ :=
        ih (month + 1) (day - length) (by omega)
      refine ⟨index + 1, last, rest, hlast, hrest, ?_, ?_⟩
      · rw [List.take_succ_cons, List.sum_cons]
        omega
      · rw [hwalk, Nat.add_assoc, Nat.add_comm 1 index]

/-- Every day has a date of the calendar, and the days counted to that date are the day. -/
theorem ofDays_spec (day : Int) :
    (Date.ofDays day).isValid = true ∧ (Date.ofDays day).toDays = day ∧
      (Date.ofDays day).year = yearOfDay day := by
  obtain ⟨hfirst, hlast⟩ := daysBeforeYear_yearOfDay day
  rw [daysBeforeYear_succ] at hlast
  obtain ⟨index, length, rest, hlength, hrest, hsum, hwalk⟩ :=
    monthAndDay_spec 1 (monthLengths (yearOfDay day))
      (day - daysBeforeYear (yearOfDay day)).toNat (by omega)
  have hdate : Date.ofDays day = ⟨yearOfDay day, 1 + index, rest + 1⟩ := by
    rw [Date.ofDays, hwalk]
  refine ⟨?_, ?_, congrArg Date.year hdate⟩
  · simp only [hdate, Date.isValid, Nat.add_sub_cancel_left, hlength]
    simpa using Nat.succ_le_of_lt hrest
  · have hmonths : ((monthLengths (yearOfDay day)).take index).foldr Nat.add 0 + rest =
        (day - daysBeforeYear (yearOfDay day)).toNat := hsum
    simp only [hdate, Date.toDays, Nat.add_sub_cancel_left]
    omega

/-- The month and the day of a date of the calendar. -/
theorem Date.bounds_of_isValid {date : Date} (hvalid : date.isValid = true) :
    1 ≤ date.month ∧ date.month ≤ 12 ∧ 1 ≤ date.day ∧ date.day ≤ 31 := by
  rw [isValid] at hvalid
  split at hvalid
  · rename_i length hlength
    have hmonth : date.month - 1 < 12 := (List.getElem?_eq_some_iff.1 hlength).1
    have hmember : length ∈ monthLengths date.year := List.mem_of_getElem? hlength
    have hmost : length ≤ 31 := by
      revert hmember
      simp only [monthLengths]
      split <;> simp <;> omega
    simp only [Bool.and_eq_true, decide_eq_true_eq] at hvalid
    omega
  · cases hvalid

/-- The years whose days an instant can name. -/
theorem yearOfDay_bounds {day : Int} (hfirst : -96465292 ≤ day) (hlast : day ≤ 95026236) :
    -262143 ≤ yearOfDay day ∧ yearOfDay day ≤ 262142 := by
  obtain ⟨hbegun, hended⟩ := daysBeforeYear_yearOfDay day
  constructor
  · refine Int.not_lt.1 fun hearly => ?_
    rw [daysBeforeYear, Int.add_sub_cancel] at hended
    omega
  · refine Int.not_lt.1 fun hlate => ?_
    rw [daysBeforeYear] at hbegun
    -- The year just beyond the last is told apart by its first day alone.
    by_cases hyear : yearOfDay day = 262143
    · rw [hyear] at hbegun
      omega
    · omega

end Stockroom.Calendar
