import AuctionHouse.Instant.Calendar
import AuctionHouse.Json.Basic
import AuctionHouse.Text.Digits

/-!
# Numbers, dates and truth values of configuration documents

Digits may have single underscores between them.  Integers have 64 bits with a sign, or without
one a base of sixteen, eight or two.  A float has a fraction or an exponent.  A date or a time of
day is a value of its own that nothing else is read from.
-/

namespace AuctionHouse.Toml

/-- Reads a run of digits, between which single underscores may stand. -/
def digitRun? (isDigit : Char → Bool) : List Char → Option (List Char × List Char)
  | [] => none
  | c :: rest => if isDigit c then some (more [c] rest) else none
where
  /-- Reads on behind a digit.  `read` holds the digits so far, the last one first. -/
  more (read : List Char) : List Char → List Char × List Char
    | '_' :: c :: rest =>
      if isDigit c then more (c :: read) rest else (read.reverse, '_' :: c :: rest)
    | c :: rest => if isDigit c then more (c :: read) rest else (read.reverse, c :: rest)
    | [] => (read.reverse, [])

/-- Reads a sign, if there is one.  Gives whether it is a minus. -/
def sign : List Char → Bool × List Char
  | '-' :: rest => (true, rest)
  | '+' :: rest => (false, rest)
  | text => (false, text)

/-- Reads the digits of a number before its point: one zero, or digits that do not start with
one. -/
def wholeDigits? : List Char → Option (List Char × List Char)
  | '0' :: rest => some (['0'], rest)
  | text => digitRun? Char.isDigit text

/-- An integer, if 64 bits with a sign hold it. -/
def integer? (number : Int) : Option Json :=
  if -twoTo 63 ≤ number ∧ number < twoTo 63 then some (.int number) else none

/-- Reads an integer of another base behind the letter of the base. -/
def based? (base : Nat) (text : List Char) : Option (Json × List Char) := do
  let (digits, rest) ← digitRun? (fun c => (Digits.valueIn? base [c]).isSome) text
  return (← integer? (← Digits.valueIn? base digits), rest)

/-- The float of digits and a power of ten.  Powers out of the range of floats are cut to powers
that are out of it as well.  There is no float above all finite ones. -/
def float? (negative : Bool) (digits : List Char) (power : Int) : Option Json :=
  let reach : Int := digits.length + 400
  let value := Binary64.ofDecimal negative (Digits.value digits) (max (-reach) (min power reach))
  if value = .infinite false then none else some (.float value)

/-- Reads an exponent, if there is one. -/
def exponent? : List Char → Option (Option Int × List Char)
  | text@(c :: rest) =>
    if c = 'e' ∨ c = 'E' then do
      let (negative, rest) := sign rest
      let (digits, rest) ← digitRun? Char.isDigit rest
      let power : Int := Digits.value digits
      return (some (if negative then -power else power), rest)
    else return (none, text)
  | [] => some (none, [])

/-- Reads the digits behind a point, if there is one. -/
def fraction? : List Char → Option (Option (List Char) × List Char)
  | '.' :: rest => do
    let (digits, rest) ← digitRun? Char.isDigit rest
    return (some digits, rest)
  | text => some (none, text)

/-- Reads a number of base ten. -/
def decimal? (text : List Char) : Option (Json × List Char) := do
  let (negative, rest) := sign text
  match rest with
  | 'i' :: 'n' :: 'f' :: rest => return (.float (.infinite negative), rest)
  | 'n' :: 'a' :: 'n' :: rest => return (.float .nan, rest)
  | _ =>
    let (digits, rest) ← wholeDigits? rest
    let (fraction, rest) ← fraction? rest
    let (power, rest) ← exponent? rest
    if fraction.isNone ∧ power.isNone then
      let whole : Int := Digits.value digits
      return (← integer? (if negative then -whole else whole), rest)
    else
      let behind := fraction.getD []
      return (← float? negative (digits ++ behind) (power.getD 0 - behind.length), rest)

/-- Reads a number. -/
def number? : List Char → Option (Json × List Char)
  | '0' :: 'x' :: rest => based? 16 rest
  | '0' :: 'o' :: rest => based? 8 rest
  | '0' :: 'b' :: rest => based? 2 rest
  | text => decimal? text

/-- The rest behind a number of two digits that is not above `most` and not below `least`. -/
def twoDigits? (least most : Nat) (text : List Char) : Option (List Char) := do
  let (number, rest) ← Digits.exactly? 2 text
  if least ≤ number ∧ number ≤ most then some rest else none

/-- The rest behind a character. -/
def behind? (c : Char) : List Char → Option (List Char)
  | first :: rest => if first = c then some rest else none
  | [] => none

/-- The rest behind a time of day. -/
def timeOfDay? (text : List Char) : Option (List Char) := do
  let rest ← twoDigits? 0 23 text >>= behind? ':' >>= twoDigits? 0 59 >>= behind? ':' >>=
    twoDigits? 0 60
  match rest with
  | '.' :: rest => (Digits.run? rest).map (·.2)
  | rest => some rest

/-- The rest behind an offset from universal time. -/
def offset? : List Char → Option (List Char)
  | 'Z' :: rest => some rest
  | 'z' :: rest => some rest
  | '+' :: rest => twoDigits? 0 23 rest >>= behind? ':' >>= twoDigits? 0 59
  | '-' :: rest => twoDigits? 0 23 rest >>= behind? ':' >>= twoDigits? 0 59
  | _ => none

/-- The rest behind a day of the calendar. -/
def date? (text : List Char) : Option (List Char) := do
  let (year, rest) ← Digits.exactly? 4 text
  let rest ← behind? '-' rest
  let (month, rest) ← Digits.exactly? 2 rest
  let rest ← behind? '-' rest
  let (day, rest) ← Digits.exactly? 2 rest
  if Date.Valid ⟨year, month, day⟩ then some rest else none

/-- The rest behind a day, with or without a time of day, or behind a time of day alone. -/
def moment? (text : List Char) : Option (List Char) :=
  match date? text with
  | some rest =>
    match rest with
    | c :: time =>
      if c = 'T' ∨ c = 't' ∨ c = ' ' then
        match timeOfDay? time with
        | some rest => some ((offset? rest).getD rest)
        | none => some rest
      else some rest
    | [] => some []
  | none => timeOfDay? text

/-- The name of the only member of a date or a time of day as data. -/
def momentKey : String := "$__toml_private_datetime"

/-- Reads a number, a date, a time of day or a truth value. -/
def scalar? (text : List Char) : Option (Json × List Char) :=
  match text with
  | 't' :: 'r' :: 'u' :: 'e' :: rest => some (.bool true, rest)
  | 'f' :: 'a' :: 'l' :: 's' :: 'e' :: rest => some (.bool false, rest)
  | _ =>
    match moment? text with
    | some rest =>
      let written := text.take (text.length - rest.length)
      some (.obj [(momentKey, .str (String.ofList written))], rest)
    | none => number? text

end AuctionHouse.Toml
