/-!
# The civil calendar

Dates of the Gregorian calendar, extended to all years, and their day numbers.  A year is taken to
begin in March, so that the leap day is its last day; day zero is the first of March of the year 0.
Main statement: the date of a day number has that day number (`toDay_ofDay`), so no two days share
a date.
-/

namespace AuctionHouse

/-- A day of the civil calendar. -/
structure Date where
  year : Int
  month : Nat
  day : Nat
deriving DecidableEq, Repr

namespace Date

/-- Every fourth year is a leap year, but of the full centuries only every fourth. -/
def isLeap (year : Int) : Bool :=
  year % 4 = 0 && (year % 100 ≠ 0 || year % 400 = 0)

/-- The number of days of a month. -/
def monthLength (year : Int) (month : Nat) : Nat :=
  if month = 2 then if isLeap year then 29 else 28
  else if month = 4 ∨ month = 6 ∨ month = 9 ∨ month = 11 then 30
  else 31

/-- Whether there is such a day. -/
def Valid (date : Date) : Prop :=
  1 ≤ date.month ∧ date.month ≤ 12 ∧ 1 ≤ date.day ∧ date.day ≤ monthLength date.year date.month

instance (date : Date) : Decidable date.Valid :=
  inferInstanceAs (Decidable (_ ∧ _ ∧ _ ∧ _))

/-- The number of days before a month of a year that begins in March, which is month zero. -/
def daysBefore (month : Nat) : Nat := (153 * month + 2) / 5

/-- The day number of a date. -/
def toDay (date : Date) : Int :=
  let year := if date.month ≤ 2 then date.year - 1 else date.year
  365 * year + year / 4 - year / 100 + year / 400 + daysBefore ((date.month + 9) % 12) + date.day
    - 1

/-- The year within a cycle of four hundred, and the day within that year.  A cycle has 146,097
days, a century 36,524 and four years 1,461, but the last century of a cycle and the last of four
years are a day longer. -/
def splitCycle (rest : Nat) : Nat × Nat :=
  let century := min (rest / 36524) 3
  let inCentury := rest - 36524 * century
  let fours := inCentury / 1461
  let inFours := inCentury - 1461 * fours
  let year := min (inFours / 365) 3
  (100 * century + 4 * fours + year, inFours - 365 * year)

theorem splitCycle_spec {rest : Nat} (h : rest < 146097) :
    (splitCycle rest).1 < 400 ∧ (splitCycle rest).2 ≤ 365 ∧
      365 * (splitCycle rest).1 + (splitCycle rest).1 / 4 + (splitCycle rest).2 =
        rest + (splitCycle rest).1 / 100 := by
  unfold splitCycle
  generalize century_eq : min (rest / 36524) 3 = century
  generalize inCentury_eq : rest - 36524 * century = inCentury
  generalize fours_eq : inCentury / 1461 = fours
  generalize inFours_eq : inCentury - 1461 * fours = inFours
  generalize year_eq : min (inFours / 365) 3 = year
  have inCentury_le : inCentury ≤ 36524 := by omega
  have century_le : century ≤ 3 := by omega
  have rest_split : rest = 36524 * century + inCentury := by omega
  clear century_eq inCentury_eq
  have inFours_lt : inFours < 1461 := by omega
  have fours_lt : fours < 25 := by omega
  have inCentury_split : inCentury = 1461 * fours + inFours := by omega
  clear fours_eq inFours_eq
  have inYear_le : inFours - 365 * year ≤ 365 := by omega
  have year_le : year ≤ 3 := by omega
  have inFours_split : 365 * year ≤ inFours := by omega
  clear year_eq
  simp only
  omega

/-- The date of a day of a year that begins in March. -/
def ofYearAndDay (year : Int) (day : Nat) : Date :=
  let month := (5 * day + 2) / 153
  { year := if month < 10 then year else year + 1
    month := if month < 10 then month + 3 else month - 9
    day := day - daysBefore month + 1 }

theorem toDay_ofYearAndDay (year : Int) {day : Nat} (h : day ≤ 365) :
    toDay (ofYearAndDay year day) = 365 * year + year / 4 - year / 100 + year / 400 + day := by
  unfold ofYearAndDay
  have before_le : daysBefore ((5 * day + 2) / 153) ≤ day := by unfold daysBefore; omega
  have month_lt : (5 * day + 2) / 153 < 12 := by omega
  simp only
  generalize (5 * day + 2) / 153 = month at before_le month_lt
  unfold toDay
  by_cases early : month < 10
  · have : ¬ month + 3 ≤ 2 := by omega
    have : (month + 3 + 9) % 12 = month := by omega
    simp only [if_true, if_false, *]
    omega
  · have : month - 9 ≤ 2 := by omega
    have : (month - 9 + 9) % 12 = month := by omega
    simp only [if_true, if_false, *]
    omega

/-- The date of a day number. -/
def ofDay (number : Int) : Date :=
  let parts := splitCycle (number % 146097).toNat
  ofYearAndDay (400 * (number / 146097) + parts.1) parts.2

/-- The date of a day number has that day number. -/
theorem toDay_ofDay (number : Int) : toDay (ofDay number) = number := by
  have rest_lt : (number % 146097).toNat < 146097 := by omega
  obtain ⟨year_lt, day_le, total⟩ := splitCycle_spec rest_lt
  rw [ofDay, toDay_ofYearAndDay _ day_le]
  generalize (splitCycle (number % 146097).toNat).1 = year at year_lt total ⊢
  generalize (splitCycle (number % 146097).toNat).2 = day at total ⊢
  have leap : (400 * (number / 146097) + year) / 4 =
      100 * (number / 146097) + (year / 4 : Nat) := by omega
  have century : (400 * (number / 146097) + year) / 100 =
      4 * (number / 146097) + (year / 100 : Nat) := by omega
  have cycle : (400 * (number / 146097) + year) / 400 = number / 146097 := by omega
  rw [leap, century, cycle]
  omega

end Date

end AuctionHouse
