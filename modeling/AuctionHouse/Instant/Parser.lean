import AuctionHouse.Instant.Basic
import AuctionHouse.Text.Blank
import AuctionHouse.Text.Digits

/-!
# Reading moments

A date, one of `T`, `t` and a space, a time of day with seconds, and a zone.  Components may have
blanks before them and need not have two digits; a year has at most four, or a sign.  Fraction
digits past the ninth are dropped.  The zone is universal time or an offset of less than a day,
which is taken off.
-/

namespace AuctionHouse.Instant

/-- Reads one character behind blanks. -/
def mark? (mark : Char) (text : List Char) : Option (List Char) :=
  match Blank.skip text with
  | c :: rest => if c = mark then some rest else none
  | [] => none

/-- Reads a component of one or two digits that is not below `low` and not above `high`. -/
def component? (low high : Nat) (text : List Char) : Option (Nat × List Char) :=
  match Digits.upTo? 2 (Blank.skip text) with
  | some (n, rest) => if low ≤ n ∧ n ≤ high then some (n, rest) else none
  | none => none

/-- Reads a year. -/
def year? (text : List Char) : Option (Int × List Char) :=
  match Blank.skip text with
  | '-' :: rest => (Digits.run? rest).map fun (n, rest) => (-(n : Int), rest)
  | '+' :: rest => (Digits.run? rest).map fun (n, rest) => ((n : Int), rest)
  | rest => (Digits.upTo? 4 rest).map fun (n, rest) => ((n : Int), rest)

/-- Reads a date. -/
def date? (text : List Char) : Option (Date × List Char) := do
  let (year, rest) ← year? text
  let (month, rest) ← component? 1 12 (← mark? '-' rest)
  let (day, rest) ← component? 1 31 (← mark? '-' rest)
  let date : Date := ⟨year, month, day⟩
  if date.Valid then some (date, rest) else none

/-- The mark between date and time of day. -/
def separator? : List Char → Option (List Char)
  | 'T' :: rest => some rest
  | 't' :: rest => some rest
  | ' ' :: rest => some rest
  | _ => none

/-- Reads the fraction of a second, in nanoseconds. -/
def fraction? : List Char → Option (Nat × List Char)
  | '.' :: rest =>
    let digits := rest.takeWhile Char.isDigit
    if digits.isEmpty then none
    else
      let kept := digits.take 9
      some (Digits.value kept * tenTo (9 - kept.length), rest.drop digits.length)
  | rest => some (0, rest)

/-- A time of day in seconds and nanoseconds. -/
structure TimeOfDay where
  second : Nat
  nano : Nat

/-- Reads a time of day.  The second sixty is a leap second. -/
def timeOfDay? (text : List Char) : Option (TimeOfDay × List Char) := do
  let (hour, rest) ← component? 0 23 text
  let (minute, rest) ← component? 0 59 (← mark? ':' rest)
  let (second, rest) ← component? 0 60 (← mark? ':' rest)
  let (nano, rest) ← fraction? rest
  let whole := hour * 3600 + minute * 60
  if second = 60 then some (⟨whole + 59, nanosPerSecond + nano⟩, rest)
  else some (⟨whole + second, nano⟩, rest)

/-- Reads the hours and minutes of an offset, in seconds.  Colons and blanks may part them. -/
def offset? (text : List Char) : Option (Int × List Char) := do
  let (hours, rest) ← Digits.exactly? 2 text
  let rest := rest.dropWhile fun c => c == ':' || Blank.isBlank c
  let (minutes, rest) ← Digits.exactly? 2 rest
  if hours < 24 ∧ minutes < 60 then some (hours * 3600 + minutes * 60, rest) else none

/-- Reads a zone: what local time is ahead of universal time, in seconds. -/
def zone? (text : List Char) : Option (Int × List Char) :=
  match Blank.skip text with
  | 'Z' :: rest => some (0, rest)
  | 'z' :: rest => some (0, rest)
  | '+' :: rest => offset? rest
  | '-' :: rest => (offset? rest).map fun (n, rest) => (-n, rest)
  | '\u2212' :: rest => (offset? rest).map fun (n, rest) => (-n, rest)
  | u :: t :: c :: rest =>
    if [u, t, c].map Char.toUpper = ['U', 'T', 'C'] then some (0, rest) else none
  | _ => none

/-- The moment of a local date and time, if the calendar has it. -/
def ofLocal? (date : Date) (time : TimeOfDay) (ahead : Int) : Option Instant :=
  let seconds := date.toDay * secondsPerDay + time.second - ahead
  let day := seconds / secondsPerDay
  let second := (seconds % secondsPerDay).toNat
  if h : Date.first ≤ date.toDay ∧ date.toDay ≤ Date.last ∧ Date.first ≤ day ∧ day ≤ Date.last ∧
      time.nano < 2 * nanosPerSecond ∧ (nanosPerSecond ≤ time.nano → second % 60 = 59) then
    some {
      day
      second
      nano := time.nano
      first_le := h.2.2.1
      le_last := h.2.2.2.1
      second_lt := by simp only [second, secondsPerDay]; omega
      nano_lt := h.2.2.2.2.1
      leap_second := h.2.2.2.2.2 }
  else
    none

/-- Reads a moment. -/
def ofChars? (text : List Char) : Option Instant := do
  let (date, rest) ← date? text
  let (time, rest) ← timeOfDay? (← separator? rest)
  let (ahead, rest) ← zone? rest
  if (Blank.skip rest).isEmpty then ofLocal? date time ahead else none

/-- Reads a moment. -/
def ofText? (text : String) : Option Instant :=
  ofChars? text.toList

end AuctionHouse.Instant
