import AuctionHouse.Text.Digits

/-!
# Addresses of nodes

The address and the port on which a node listens.  An address has four numbers with points between
them, or eight groups of up to four digits of base sixteen with colons between them.  Two colons
stand for as many zero groups as are left out, and the last two groups may be written as four
numbers.
-/

namespace AuctionHouse

/-- An address of the internet. -/
inductive IpAddress where
  | v4 (a b c d : UInt8)
  | v6 (groups : Vector UInt16 8)
deriving DecidableEq

/-- An address with a port.  A scope that is not zero belongs to an address of eight groups. -/
structure SocketAddress where
  ip : IpAddress
  port : UInt16
  scope : UInt32 := 0
deriving DecidableEq

namespace IpAddress

/-- Reads a number below 256 without superfluous zeros. -/
def octet? (text : List Char) : Option (UInt8 × List Char) :=
  let digits := text.takeWhile Char.isDigit
  if digits.isEmpty ∨ 3 < digits.length ∨ (digits.head? = some '0' ∧ 1 < digits.length) then none
  else if Digits.value digits < 256 then
    some ((Digits.value digits).toUInt8, text.drop digits.length)
  else none

/-- Reads a number below 256 behind a point. -/
def nextOctet? : List Char → Option (UInt8 × List Char)
  | '.' :: rest => octet? rest
  | _ => none

/-- Reads four numbers. -/
def octets? (text : List Char) : Option ((UInt8 × UInt8 × UInt8 × UInt8) × List Char) := do
  let (a, rest) ← octet? text
  let (b, rest) ← nextOctet? rest
  let (c, rest) ← nextOctet? rest
  let (d, rest) ← nextOctet? rest
  return ((a, b, c, d), rest)

/-- Two numbers as one group. -/
def group (high low : UInt8) : UInt16 := high.toUInt16 * 256 + low.toUInt16

/-- Reads a group. -/
def group? (text : List Char) : Option (UInt16 × List Char) := do
  let digits := text.takeWhile fun c => (Digits.hexValue? c).isSome
  if digits.isEmpty ∨ 4 < digits.length then none
  return ((← Digits.valueIn? 16 digits).toUInt16, text.drop digits.length)

/-- Groups in a text, and whether the last two of them were written as four numbers. -/
structure Groups where
  values : List UInt16
  fromOctets : Bool
  rest : List Char

/-- Reads as many groups as there are, and no more than there is room for.  The first has no colon
before it. -/
def groups : (room : Nat) → (first : Bool) → List Char → Groups
  | 0, _, text => ⟨[], false, text⟩
  | room + 1, first, text =>
    let start := match first, text with
      | true, text => some text
      | false, ':' :: rest => some rest
      | false, _ => none
    match start with
    | none => ⟨[], false, text⟩
    | some start =>
      match if room = 0 then none else octets? start with
      | some ((a, b, c, d), rest) => ⟨[group a b, group c d], true, rest⟩
      | none =>
        match group? start with
        | some (value, rest) =>
          let more := groups room false rest
          { more with values := value :: more.values }
        | none => ⟨[], false, text⟩

/-- An address of eight groups, if there are eight. -/
def ofGroups? (values : List UInt16) : Option IpAddress :=
  if h : values.length = 8 then some (.v6 ⟨values.toArray, by simpa using h⟩) else none

/-- Reads an address of eight groups. -/
def v6? (text : List Char) : Option (IpAddress × List Char) :=
  let head := groups 8 true text
  if head.values.length = 8 then (ofGroups? head.values).map (·, head.rest)
  else if head.fromOctets then none
  else match head.rest with
    | ':' :: ':' :: rest =>
      let tail := groups (7 - head.values.length) true rest
      let zeros := List.replicate (8 - head.values.length - tail.values.length) 0
      (ofGroups? (head.values ++ zeros ++ tail.values)).map (·, tail.rest)
    | _ => none

/-- Four numbers with points between them. -/
def octetsText (a b c d : UInt8) : String :=
  ".".intercalate ([a, b, c, d].map fun octet => octet.toNat.repr)

/-- Groups with colons between them. -/
def groupsText (groups : List UInt16) : String :=
  ":".intercalate (groups.map fun group => String.ofList (Nat.toDigits 16 group.toNat))

/-- The length of the run of zeros at the head of groups. -/
def zeroRun (groups : List UInt16) : Nat := (groups.takeWhile (· = 0)).length

/-- Where the longest run of zeros starts, the first of them if there are several, and its
length. -/
def longestZeroRun (groups : List UInt16) : Nat × Nat :=
  (List.range groups.length).foldl (fun best start =>
    let length := zeroRun (groups.drop start)
    if best.2 < length then (start, length) else best) (0, 0)

/-- The text of an address.  The longest run of at least two zero groups is left out. -/
def text : IpAddress → String
  | v4 a b c d => octetsText a b c d
  | v6 groups =>
    match groups.toList with
    | [0, 0, 0, 0, 0, 0xFFFF, high, low] =>
      "::ffff:" ++ octetsText (high / 256).toUInt8 high.toUInt8 (low / 256).toUInt8 low.toUInt8
    | groups =>
      let (start, length) := longestZeroRun groups
      if 1 < length then
        groupsText (groups.take start) ++ "::" ++ groupsText (groups.drop (start + length))
      else groupsText groups

end IpAddress

namespace SocketAddress

/-- Reads digits behind a mark, for a number below a limit. -/
def numberBehind? (mark : Char) (limit : Nat) : List Char → Option (Nat × List Char)
  | c :: rest =>
    if c = mark then (Digits.run? rest).filter fun (number, _) => number < limit else none
  | [] => none

/-- Reads a port to the end of the text. -/
def port? (text : List Char) : Option UInt16 :=
  match numberBehind? ':' (twoTo 16) text with
  | some (port, []) => some port.toUInt16
  | _ => none

/-- Reads a scope, which is zero if there is none, and a closing bracket. -/
def scope? (text : List Char) : Option (UInt32 × List Char) :=
  match numberBehind? '%' (twoTo 32) text with
  | some (scope, ']' :: rest) => some (scope.toUInt32, rest)
  | some _ => none
  | none =>
    match text with
    | ']' :: rest => some (0, rest)
    | _ => none

/-- The address with a port that a text stands for. -/
def ofText? (text : String) : Option SocketAddress :=
  match text.toList with
  | '[' :: rest => do
    let (ip, rest) ← IpAddress.v6? rest
    let (scope, rest) ← scope? rest
    return { ip, port := ← port? rest, scope }
  | chars => do
    let ((a, b, c, d), rest) ← IpAddress.octets? chars
    return { ip := .v4 a b c d, port := ← port? rest }

/-- The text of an address with a port. -/
def text (address : SocketAddress) : String :=
  let port := ":" ++ address.port.toNat.repr
  match address.ip with
  | .v4 a b c d => IpAddress.octetsText a b c d ++ port
  | .v6 _ =>
    let scope := if address.scope = 0 then "" else "%" ++ address.scope.toNat.repr
    "[" ++ address.ip.text ++ scope ++ "]" ++ port

/-- The address that a node listens on if it is not told, `127.0.0.1:9944`. -/
def standard : SocketAddress := { ip := .v4 127 0 0 1, port := 9944 }

end SocketAddress

end AuctionHouse
