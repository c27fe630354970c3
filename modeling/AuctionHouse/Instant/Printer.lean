import AuctionHouse.Instant.Basic
import AuctionHouse.Text.Digits

/-!
# Moments in text

Date and time of day with two digits each, and behind a point as many of 0, 3, 6 and 9 digits as
the fraction of the second needs.  A year outside 0 to 9999 has a sign.  The formats differ in what
stands between date and time and in how universal time is named behind them.
-/

namespace AuctionHouse

/-- The characters of a year: four digits, or a sign and at least four digits. -/
def Date.yearChars (year : Int) : List Char :=
  if 0 ≤ year ∧ year ≤ 9999 then Digits.padded 4 year.toNat
  else (if year < 0 then '-' else '+') :: Digits.padded 4 year.natAbs

/-- The characters of a date. -/
def Date.chars (date : Date) : List Char :=
  yearChars date.year ++ '-' :: Digits.padded 2 date.month ++ '-' :: Digits.padded 2 date.day

namespace Instant

/-- The fraction of a second behind a point, in the fewest groups of three digits. -/
def fractionChars (nano : Nat) : List Char :=
  if nano = 0 then []
  else if nano % 1000000 = 0 then '.' :: Digits.padded 3 (nano / 1000000)
  else if nano % 1000 = 0 then '.' :: Digits.padded 6 (nano / 1000)
  else '.' :: Digits.padded 9 nano

/-- The characters of the time of day.  A leap second is the second sixty of its minute. -/
def timeChars (t : Instant) : List Char :=
  Digits.padded 2 (t.second / 3600) ++ ':' :: Digits.padded 2 (t.second / 60 % 60) ++
    ':' :: Digits.padded 2 (t.second % 60 + (if t.inLeapSecond then 1 else 0)) ++
    fractionChars (t.nano % nanosPerSecond)

/-- Date and time of day with `between` between them and `zone` behind them. -/
def written (t : Instant) (between : Char) (zone : String) : List Char :=
  (Date.ofDay t.day).chars ++ between :: t.timeChars ++ zone.toList

/-- The characters of the form in which data carries a moment, `2026-07-01T08:00:00Z`. -/
def chars (t : Instant) : List Char := t.written 'T' "Z"

/-- The form in which data carries a moment. -/
def text (t : Instant) : String := String.ofList t.chars

/-- The form that names universal time by its offset, `2026-07-01T08:00:00+00:00`. -/
def textWithOffset (t : Instant) : String := String.ofList (t.written 'T' "+00:00")

/-- The form for people, `2026-07-01 08:00:00 UTC`. -/
def textForPeople (t : Instant) : String := String.ofList (t.written ' ' " UTC")

end Instant

end AuctionHouse
