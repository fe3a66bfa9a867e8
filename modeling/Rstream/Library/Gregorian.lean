import Mathlib.Data.Nat.ModEq
import Mathlib.Tactic.IntervalCases

/-!
# The Gregorian calendar

The calendar is extended to all years from 0 on. A date is numbered by counting: the days of
the years before it, of the months before it, and of the days before it. Later dates have
higher numbers.
-/

namespace Rstream.Library.Gregorian

/-- Every fourth year is a leap year, but of the years that end a century every fourth one. -/
def IsLeap (year : Nat) : Prop := 4 ∣ year ∧ (100 ∣ year → 400 ∣ year)

instance (year : Nat) : Decidable (IsLeap year) := inferInstanceAs (Decidable (_ ∧ _))

/-- The days of a month. -/
def monthLength (year month : Nat) : Nat :=
  match month with
  | 2 => if IsLeap year then 29 else 28
  | 4 | 6 | 9 | 11 => 30
  | _ => 31

/-- The days of the first months of a year. -/
def monthsLength (year : Nat) : Nat → Nat
  | 0 => 0
  | months + 1 => monthsLength year months + monthLength year (months + 1)

/-- The days of the years before a year. -/
def yearStart : Nat → Nat
  | 0 => 0
  | year + 1 => yearStart year + monthsLength year 12

/-- The number of a date, counted from the first day of the year 0. -/
def dayNumber (year month day : Nat) : Nat :=
  yearStart year + monthsLength year (month - 1) + (day - 1)

theorem monthsLength_mono (year : Nat) : Monotone (monthsLength year) :=
  monotone_nat_of_le_succ fun _ => Nat.le_add_right _ _

theorem yearStart_mono : Monotone yearStart :=
  monotone_nat_of_le_succ fun _ => Nat.le_add_right _ _

theorem monthsLength_eq (year : Nat) {months : Nat} (inYear : months ≤ 12) :
    monthsLength year months =
      [0, 31, 59, 90, 120, 151, 181, 212, 243, 273, 304, 334, 365].getD months 0 +
        if 2 ≤ months ∧ IsLeap year then 1 else 0 := by
  by_cases leap : IsLeap year
  all_goals interval_cases months <;> simp [monthsLength, monthLength, leap]

theorem monthsLength_year (year : Nat) :
    monthsLength year 12 = 365 + if IsLeap year then 1 else 0 := by
  rw [monthsLength_eq year (Nat.le_refl 12)]
  simp

/-- The leap years among the years before a year. -/
theorem yearStart_eq (year : Nat) :
    yearStart year + (year + 99) / 100 = 365 * year + (year + 3) / 4 + (year + 399) / 400 := by
  induction year with
  | zero => rfl
  | succ year ih =>
    rw [yearStart, monthsLength_year]
    by_cases leap : IsLeap year
    · rw [if_pos leap]
      obtain ⟨fourth, century⟩ := leap
      by_cases ends : 100 ∣ year
      · have := century ends
        omega
      · omega
    · rw [if_neg leap]
      rw [IsLeap] at leap
      by_cases fourth : 4 ∣ year
      · have ends : 100 ∣ year ∧ ¬ 400 ∣ year := by tauto
        omega
      · omega

theorem dayNumber_lt {year month day year' month' day' : Nat} (inYear : month ≤ 12)
    (inMonth : 1 ≤ day ∧ day ≤ monthLength year month) (first : 1 ≤ month)
    (later : year < year' ∨ year = year' ∧ (month < month' ∨ month = month' ∧ day < day')) :
    dayNumber year month day < dayNumber year' month' day' := by
  have within : monthsLength year (month - 1) + (day - 1) < monthsLength year month := by
    obtain ⟨months, rfl⟩ := Nat.exists_eq_add_of_le' first
    rw [Nat.add_sub_cancel, monthsLength]
    omega
  rw [dayNumber, dayNumber]
  rcases later with years | ⟨rfl, months | ⟨rfl, days⟩⟩
  · have whole : yearStart year + monthsLength year 12 ≤ yearStart year' := yearStart_mono years
    have rest := monthsLength_mono year inYear
    omega
  · have rest : monthsLength year month ≤ monthsLength year (month' - 1) :=
      monthsLength_mono year (by omega)
    omega
  · omega

end Rstream.Library.Gregorian
