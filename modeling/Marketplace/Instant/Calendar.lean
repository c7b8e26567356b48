/-!
# The calendar

Days are counted from 1970-01-01 in the Gregorian calendar, extended without end to both sides.
A `Date` names one of them. The count works with years that start in March, so that the leap day
ends its year.

* `Date.dayNumber` and `Date.ofDayNumber` go from a date to its count and back.
* `Date.IsValid` says that month and day exist.
-/

namespace Marketplace

/-- A day of the calendar. -/
structure Date where
  year : Int
  month : Nat
  day : Nat
  deriving DecidableEq, Repr

namespace Date

/-- Whether a year has a leap day. -/
def isLeapYear (year : Int) : Bool := year % 4 = 0 ∧ (year % 100 ≠ 0 ∨ year % 400 = 0)

/-- The number of days of a month. -/
def monthLength (year : Int) (month : Nat) : Nat :=
  if month = 2 then (if isLeapYear year then 29 else 28)
  else if month = 4 ∨ month = 6 ∨ month = 9 ∨ month = 11 then 30
  else 31

/-- Month and day exist. -/
def IsValid (d : Date) : Prop :=
  1 ≤ d.month ∧ d.month ≤ 12 ∧ 1 ≤ d.day ∧ d.day ≤ monthLength d.year d.month

instance (d : Date) : Decidable d.IsValid := inferInstanceAs (Decidable (_ ∧ _))

/-! ## Years that start in March -/

/-- The days from the first of March of year 0 to the first of March of year `y`. -/
def yearStart (y : Int) : Int := 365 * y + y / 4 - y / 100 + y / 400

/-- The days of a year before its month `m`, counted from March as 0. -/
def monthStart (m : Nat) : Nat := (153 * m + 2) / 5

/-- The days from 0000-03-01 to 1970-01-01. -/
def epoch : Int := 719468

/-- The year that holds a day, counted from the first of March of year 0. -/
def marchYear (n : Int) : Int :=
  let y := 400 * n / 146097
  if n < yearStart y then y - 1 else if yearStart (y + 1) ≤ n then y + 1 else y

theorem yearStart_marchYear_le (n : Int) : yearStart (marchYear n) ≤ n := by
  unfold marchYear
  dsimp only
  split
  · simp only [yearStart] at *; omega
  · split <;> simp only [yearStart] at * <;> omega

theorem lt_yearStart_marchYear (n : Int) : n < yearStart (marchYear n + 1) := by
  unfold marchYear
  dsimp only
  split
  · simp only [yearStart] at *; omega
  · split <;> simp only [yearStart] at * <;> omega

/-- The month of a day of the year. -/
def monthOfDay (dayOfYear : Nat) : Nat := (5 * dayOfYear + 2) / 153

theorem monthStart_monthOfDay_le (d : Nat) : monthStart (monthOfDay d) ≤ d := by
  simp only [monthStart, monthOfDay]; omega

/-! ## Day numbers -/

/-- The days from 1970-01-01 to a date. -/
def dayNumber (d : Date) : Int :=
  let y := if d.month ≤ 2 then d.year - 1 else d.year
  let m := if d.month ≤ 2 then d.month + 9 else d.month - 3
  yearStart y + monthStart m + d.day - 1 - epoch

/-- The date of a day number. -/
def ofDayNumber (n : Int) : Date :=
  let y := marchYear (n + epoch)
  let dayOfYear := (n + epoch - yearStart y).toNat
  let m := monthOfDay dayOfYear
  let month := if m < 10 then m + 3 else m - 9
  ⟨if month ≤ 2 then y + 1 else y, month, dayOfYear - monthStart m + 1⟩

@[simp] theorem dayNumber_ofDayNumber (n : Int) : (ofDayNumber n).dayNumber = n := by
  have h := yearStart_marchYear_le (n + epoch)
  have h' := lt_yearStart_marchYear (n + epoch)
  have hy : yearStart (marchYear (n + epoch) + 1) ≤ yearStart (marchYear (n + epoch)) + 366 := by
    simp only [yearStart]; omega
  simp only [ofDayNumber]
  generalize marchYear (n + epoch) = y at *
  obtain ⟨d, hd⟩ : ∃ d : Nat, n + epoch - yearStart y = d :=
    ⟨_, (Int.toNat_of_nonneg (by omega)).symm⟩
  have hs := monthStart_monthOfDay_le d
  have hm : monthOfDay d ≤ 11 := by simp only [monthOfDay]; omega
  simp only [hd, Int.toNat_natCast, dayNumber]
  generalize monthOfDay d = m at *
  by_cases hlt : m < 10
  · rw [if_pos hlt, if_neg (by omega), if_neg (by omega), if_neg (by omega)]
    rw [show m + 3 - 3 = m by omega]; omega
  · rw [if_neg hlt, if_pos (by omega), if_pos (by omega), if_pos (by omega)]
    rw [show m - 9 + 9 = m by omega, show y + 1 - 1 = y by omega]; omega

end Date

end Marketplace
