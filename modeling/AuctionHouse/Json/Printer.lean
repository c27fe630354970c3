import AuctionHouse.Json.Basic
import AuctionHouse.Binary64.Shortest

/-!
# Data values in text

The compact form: no blanks, strings with the escapes that the format requires and no others.
-/

namespace AuctionHouse.Json

/-- A digit of base sixteen. -/
def hexDigit (n : Nat) : Char :=
  (Nat.digitChar n)

/-- A character as it stands between quotation marks. -/
def escape (c : Char) : List Char :=
  match c with
  | '"' => ['\\', '"']
  | '\\' => ['\\', '\\']
  | '\n' => ['\\', 'n']
  | '\r' => ['\\', 'r']
  | '\t' => ['\\', 't']
  | '\x08' => ['\\', 'b']
  | '\x0c' => ['\\', 'f']
  | c =>
    if c.toNat < 0x20 then
      ['\\', 'u', '0', '0', hexDigit (c.toNat / 16), hexDigit (c.toNat % 16)]
    else [c]

/-- A string between quotation marks. -/
def quoted (text : String) : List Char :=
  '"' :: text.toList.flatMap escape ++ ['"']

mutual

/-- The compact form of a value. -/
def chars : Json → List Char
  | null => "null".toList
  | bool value => (if value then "true" else "false").toList
  | int n => Digits.integer n
  | float x => if x.isFinite then x.render .data else "null".toList
  | str text => quoted text
  | arr elements => '[' :: elementChars elements ++ [']']
  | obj members => '\x7b' :: memberChars members ++ ['\x7d']

/-- Values with commas between them. -/
def elementChars : List Json → List Char
  | [] => []
  | [value] => chars value
  | value :: rest => chars value ++ ',' :: elementChars rest

/-- Members with commas between them. -/
def memberChars : List (String × Json) → List Char
  | [] => []
  | [(name, value)] => quoted name ++ ':' :: chars value
  | (name, value) :: rest => quoted name ++ ':' :: chars value ++ ',' :: memberChars rest

end

/-- The compact form of a value. -/
def text (value : Json) : String :=
  String.ofList value.chars

end AuctionHouse.Json
