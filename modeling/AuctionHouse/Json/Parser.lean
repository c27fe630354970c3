import AuctionHouse.Json.Basic
import AuctionHouse.Text.Digits

/-!
# Reading data values

A recursive descent over the characters.  A step takes the text before it and gives the rest; the
fuel is one more than the length of the text, and every step takes a character at least.  Values
may be nested 127 deep.  Of two members of one name the later counts, and members are kept in the
order of their names.
-/

namespace AuctionHouse.Json

/-- How deep arrays and objects may be nested. -/
def deepest : Nat := 127

/-- The text without the blanks at its head. -/
def skipBlanks (text : List Char) : List Char :=
  text.dropWhile fun c => c == ' ' || c == '\t' || c == '\n' || c == '\r'

/-- Members in order of their names, with one more or with one in the place of its namesake. -/
def setMember (name : String) (value : Json) : List (String × Json) → List (String × Json)
  | [] => [(name, value)]
  | (other, old) :: rest =>
    if name < other then (name, value) :: (other, old) :: rest
    else if name = other then (name, value) :: rest
    else (other, old) :: setMember name value rest

/-- The character that a letter behind a backslash stands for. -/
def escaped? : Char → Option Char
  | '"' => some '"'
  | '\\' => some '\\'
  | '/' => some '/'
  | 'b' => some '\x08'
  | 'f' => some '\x0c'
  | 'n' => some '\n'
  | 'r' => some '\r'
  | 't' => some '\t'
  | _ => none

/-- The character of two halves of a surrogate pair. -/
def joined? (high low : Nat) : Option Char :=
  if 0xDC00 ≤ low ∧ low ≤ 0xDFFF then
    some (Char.ofNat (0x10000 + (high - 0xD800) * 0x400 + (low - 0xDC00)))
  else
    none

/-- Reads the inside of a string up to the closing quotation mark.  `read` holds the characters
so far, the last one first. -/
def string? (read : List Char) : List Char → Option (String × List Char)
  | '"' :: rest => some (String.ofList read.reverse, rest)
  | '\\' :: 'u' :: a :: b :: c :: d :: rest =>
    match Digits.valueIn? 16 [a, b, c, d] with
    | none => none
    | some n =>
      if 0xDC00 ≤ n ∧ n ≤ 0xDFFF then none
      else if 0xD800 ≤ n ∧ n ≤ 0xDBFF then
        match rest with
        | '\\' :: 'u' :: e :: f :: g :: h :: rest =>
          match (Digits.valueIn? 16 [e, f, g, h]).bind (joined? n) with
          | some c => string? (c :: read) rest
          | none => none
        | _ => none
      else string? (Char.ofNat n :: read) rest
  | '\\' :: c :: rest =>
    match escaped? c with
    | some c => string? (c :: read) rest
    | none => none
  | c :: rest => if c.toNat < 0x20 then none else string? (c :: read) rest
  | [] => none

/-- A significand of at most 64 bits with a power of ten, as the digits of a number add up. -/
structure Significand where
  digits : Nat
  power : Int

namespace Significand

/-- Whether 64 bits hold the significand with one more digit. -/
def takes (s : Significand) (digit : Nat) : Bool :=
  s.digits * 10 + digit < twoTo 64

/-- Takes up digits before the point.  From the first that does not fit, digits only count. -/
def integerDigits (s : Significand) : List Char → Significand
  | [] => s
  | c :: rest =>
    if s.takes (Digits.value [c]) then
      integerDigits ⟨s.digits * 10 + Digits.value [c], s.power⟩ rest
    else
      ⟨s.digits, s.power + (rest.length + 1)⟩

/-- Takes up digits behind the point.  From the first that does not fit, digits are dropped. -/
def fractionDigits (s : Significand) : List Char → Significand
  | [] => s
  | c :: rest =>
    if s.takes (Digits.value [c]) then
      fractionDigits ⟨s.digits * 10 + Digits.value [c], s.power - 1⟩ rest
    else
      s

/-- A floating point number over a power of ten too small for one step: it is divided by 10^308
until the rest of the power is small enough or nothing is left. -/
def descend : (fuel : Nat) → Binary64 → (power : Nat) → Binary64
  | 0, x, _ => x
  | fuel + 1, x, power =>
    if power ≤ 308 then x.overTen power
    else if x.isZero then x
    else descend fuel (x.overTen 308) (power - 308)

/-- The floating point number of a significand: the significand is rounded, and so is its product
with the power of ten.  There is none past the largest finite number. -/
def float? (s : Significand) (negative : Bool) : Option Json :=
  let x := Binary64.ofRatio negative s.digits 1
  if s.power < 0 then some (.float (descend 4 x s.power.natAbs))
  else if 308 < s.power then if s.digits = 0 then some (.float x) else none
  else
    let product := x.timesTen s.power.natAbs
    if product.isFinite then some (.float product) else none

end Significand

/-- Reads an exponent with its mark. -/
def exponent? : List Char → Option (Int × List Char)
  | _ :: '-' :: rest => (Digits.run? rest).map fun (n, rest) => (-(n : Int), rest)
  | _ :: '+' :: rest => (Digits.run? rest).map fun (n, rest) => ((n : Int), rest)
  | _ :: rest => (Digits.run? rest).map fun (n, rest) => ((n : Int), rest)
  | [] => none

/-- Reads a number without its sign. -/
def magnitude? (negative : Bool) (text : List Char) : Option (Json × List Char) := do
  let digits := text.takeWhile Char.isDigit
  if digits.isEmpty || (digits.head? == some '0' && 1 < digits.length) then none
  let rest := text.drop digits.length
  let (fraction, rest) ← match rest with
    | '.' :: rest =>
      let fraction := rest.takeWhile Char.isDigit
      if fraction.isEmpty then none else some (some fraction, rest.drop fraction.length)
    | rest => some (none, rest)
  let (power, rest) ← match rest with
    | 'e' :: _ => (exponent? rest).map fun (n, rest) => (some n, rest)
    | 'E' :: _ => (exponent? rest).map fun (n, rest) => (some n, rest)
    | rest => some (none, rest)
  let whole := (Digits.value digits : Int)
  let signed := if negative then -whole else whole
  if fraction.isNone && power.isNone && holds signed && !(negative && whole == 0) then
    some (.int signed, rest)
  else
    let s := Significand.integerDigits ⟨0, 0⟩ digits
    let s := s.fractionDigits (fraction.getD [])
    let value ← Significand.float? ⟨s.digits, s.power + power.getD 0⟩ negative
    some (value, rest)

/-- Reads a number. -/
def number? : List Char → Option (Json × List Char)
  | '-' :: rest => magnitude? true rest
  | text => magnitude? false text

mutual

/-- Reads a value.  `depth` is how much deeper values may be nested. -/
def value? : (fuel depth : Nat) → List Char → Option (Json × List Char)
  | 0, _, _ => none
  | fuel + 1, depth, text =>
    match skipBlanks text with
    | 'n' :: 'u' :: 'l' :: 'l' :: rest => some (null, rest)
    | 't' :: 'r' :: 'u' :: 'e' :: rest => some (bool true, rest)
    | 'f' :: 'a' :: 'l' :: 's' :: 'e' :: rest => some (bool false, rest)
    | '"' :: rest => (string? [] rest).map fun (text, rest) => (str text, rest)
    | '[' :: rest =>
      if depth = 0 then none
      else match skipBlanks rest with
        | ']' :: rest => some (arr [], rest)
        | rest => elements? fuel (depth - 1) [] rest
    | '\x7b' :: rest =>
      if depth = 0 then none
      else match skipBlanks rest with
        | '\x7d' :: rest => some (obj [], rest)
        | rest => members? fuel (depth - 1) [] rest
    | rest => number? rest

/-- Reads the elements of an array that is not empty.  `read` holds those so far, the last one
first. -/
def elements? : (fuel depth : Nat) → (read : List Json) → List Char → Option (Json × List Char)
  | 0, _, _, _ => none
  | fuel + 1, depth, read, text =>
    match value? fuel depth text with
    | none => none
    | some (value, rest) =>
      match skipBlanks rest with
      | ',' :: rest => elements? fuel depth (value :: read) rest
      | ']' :: rest => some (arr (value :: read).reverse, rest)
      | _ => none

/-- Reads the members of an object that is not empty. -/
def members? : (fuel depth : Nat) → (read : List (String × Json)) → List Char →
    Option (Json × List Char)
  | 0, _, _, _ => none
  | fuel + 1, depth, read, text =>
    match skipBlanks text with
    | '"' :: rest =>
      match string? [] rest with
      | none => none
      | some (name, rest) =>
        match skipBlanks rest with
        | ':' :: rest =>
          match value? fuel depth rest with
          | none => none
          | some (value, rest) =>
            match skipBlanks rest with
            | ',' :: rest => members? fuel depth (setMember name value read) rest
            | '\x7d' :: rest => some (obj (setMember name value read), rest)
            | _ => none
        | _ => none
    | _ => none

end

/-- Reads a text that is one value and blanks around it. -/
def ofText? (text : String) : Option Json :=
  let chars := text.toList
  match value? (2 * chars.length + 2) deepest chars with
  | some (value, rest) => if (skipBlanks rest).isEmpty then some value else none
  | none => none

end AuctionHouse.Json
