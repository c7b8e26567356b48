import Mathlib.Tactic.IntervalCases
import Marketplace.Instant.Calendar

/-!
# The dates of day numbers

* `isValid_ofDayNumber`: the date of a day number exists. Its month is the one that holds the day of
  the year (`lt_monthStart_succ`), and the last month has a leap day if its year has one
  (`yearStart_succ`).
* `year_bounds`: the years between two days.
-/

namespace Marketplace.Date

/-- The length of a year that starts in March depends on the February at its end. -/
theorem yearStart_succ (y : Int) :
    yearStart (y + 1) = yearStart y + if isLeapYear (y + 1) then 366 else 365 := by
  simp only [yearStart, isLeapYear, decide_eq_true_eq]
  split <;> omega

/-- A day lies before the next month. -/
theorem lt_monthStart_succ (d : Nat) : d < monthStart (monthOfDay d + 1) := by
  simp only [monthStart, monthOfDay]
  omega

/-- The months from March to January always have the same length. -/
theorem monthLength_of_lt {m : Nat} (hm : m < 11) (year : Int) :
    monthStart (m + 1) = monthStart m + monthLength year (if m < 10 then m + 3 else m - 9) := by
  interval_cases m <;> rfl

theorem isValid_ofDayNumber (n : Int) : (ofDayNumber n).IsValid := by
  have hle := yearStart_marchYear_le (n + epoch)
  have hlt := lt_yearStart_marchYear (n + epoch)
  rw [yearStart_succ] at hlt
  simp only [ofDayNumber]
  generalize marchYear (n + epoch) = y at *
  obtain ⟨d, hd⟩ : ∃ d : Nat, n + epoch - yearStart y = d :=
    ⟨_, (Int.toNat_of_nonneg (by omega)).symm⟩
  have hyear : (d : Int) < if isLeapYear (y + 1) then 366 else 365 := by omega
  have hstart := monthStart_monthOfDay_le d
  have hend := lt_monthStart_succ d
  have hm : monthOfDay d ≤ 11 := by
    simp only [monthOfDay]
    split at hyear <;> omega
  simp only [hd, Int.toNat_natCast]
  generalize monthOfDay d = m at *
  by_cases hlast : m < 11
  · have hlength := monthLength_of_lt hlast
      (if (if m < 10 then m + 3 else m - 9) ≤ 2 then y + 1 else y)
    refine ⟨?_, ?_, ?_, ?_⟩ <;> dsimp only
    · split <;> omega
    · split <;> omega
    · omega
    · omega
  · obtain rfl : m = 11 := by omega
    have hfebruary : monthLength (y + 1) 2 = if isLeapYear (y + 1) then 29 else 28 := rfl
    have hmarch : monthStart 11 = 337 := rfl
    refine ⟨Nat.le_succ 1, Nat.le_add_right 2 10, Nat.le_add_left 1 _, ?_⟩
    change d - monthStart 11 + 1 ≤ monthLength (y + 1) 2
    rw [hfebruary]
    split at hyear
    · rw [if_pos ‹_›]
      omega
    · rw [if_neg ‹_›]
      omega

theorem monthLength_le (year : Int) (month : Nat) : monthLength year month ≤ 31 := by
  unfold monthLength
  split
  · split <;> decide
  · split <;> decide

theorem yearStart_mono {a b : Int} (h : a ≤ b) : yearStart a ≤ yearStart b := by
  simp only [yearStart]
  omega

/-- The days of the years from -262143 to 262142 are those between their first and their last. -/
theorem year_bounds {d : Date} (h : d.IsValid) (first : -96465292 ≤ d.dayNumber)
    (last : d.dayNumber ≤ 95026236) : -262143 ≤ d.year ∧ d.year ≤ 262142 := by
  obtain ⟨y, m, day⟩ := d
  obtain ⟨hm, hm', hday, hday'⟩ := h
  dsimp only at *
  have hlength := monthLength_le y m
  simp only [dayNumber, epoch, monthStart] at first last
  constructor
  · refine Int.not_lt.mp fun hlt => ?_
    split at first
    · have := yearStart_mono (show y - 1 ≤ -262145 by omega)
      have hvalue : yearStart (-262145) = -95746496 := rfl
      omega
    · have := yearStart_mono (show y ≤ -262144 by omega)
      have hvalue : yearStart (-262144) = -95746130 := rfl
      omega
  · refine Int.not_lt.mp fun hlt => ?_
    split at last
    · have := yearStart_mono (show 262142 ≤ y - 1 by omega)
      have hvalue : yearStart 262142 = 95745399 := rfl
      omega
    · have := yearStart_mono (show 262143 ≤ y by omega)
      have hvalue : yearStart 262143 = 95745764 := rfl
      omega

end Marketplace.Date
