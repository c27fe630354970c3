import AuctionHouse.Instant.Calendar
import Mathlib.Tactic.IntervalCases

/-!
# Days of the calendar

The date of a day number is a day of the calendar (`valid_ofDay`).  What there is to it is that the
366th day of a year that begins in March is the leap day.
-/

namespace AuctionHouse.Date

/-- The years within a cycle that have a 366th day are those before a leap year. -/
theorem leap_of_splitCycle {rest : Nat} (rest_lt : rest < 146097)
    (last : (splitCycle rest).2 = 365) :
    ((splitCycle rest).1 + 1) % 4 = 0 ∧
      (((splitCycle rest).1 + 1) % 100 = 0 → (splitCycle rest).1 = 399) := by
  unfold splitCycle at *
  simp only at *
  omega

/-- The date of a day of a year that begins in March is a day of the calendar, the 366th if the next
year is a leap year. -/
theorem valid_ofYearAndDay {year : Int} {day : Nat} (day_le : day ≤ 365)
    (leap : day = 365 → isLeap (year + 1) = true) : (ofYearAndDay year day).Valid := by
  have month_lt : (5 * day + 2) / 153 < 12 := by omega
  have month_eq : 153 * ((5 * day + 2) / 153) ≤ 5 * day + 2 ∧
      5 * day + 2 < 153 * ((5 * day + 2) / 153) + 153 := by omega
  unfold ofYearAndDay Valid monthLength daysBefore
  simp only
  generalize (5 * day + 2) / 153 = month at *
  -- February is the last month of such a year and is cut short by its end.
  by_cases february : month = 11
  · subst february
    by_cases last : day = 365
    · simp [last, leap last]
    · have within : day - (153 * 11 + 2) / 5 + 1 ≤ if isLeap (year + 1) then 29 else 28 := by
        split <;> omega
      simpa using within
  · interval_cases month <;> simp_all <;> omega

theorem valid_ofDay (number : Int) : (ofDay number).Valid := by
  have rest_lt : (number % 146097).toNat < 146097 := by omega
  obtain ⟨year_lt, day_le, -⟩ := splitCycle_spec rest_lt
  apply valid_ofYearAndDay day_le
  intro last
  obtain ⟨fourth, century⟩ := leap_of_splitCycle rest_lt last
  unfold isLeap
  simp only [Bool.and_eq_true, Bool.or_eq_true, decide_eq_true_eq]
  omega

end AuctionHouse.Date
