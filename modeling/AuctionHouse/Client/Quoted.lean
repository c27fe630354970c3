import AuctionHouse.Client.Printable

/-!
# Quoted text

A text between quotation marks for people who look for a fault: quotation marks, backslashes and
the common control characters have short escapes, and every other character that is not printable
is written by its number.
-/

namespace AuctionHouse.Quoted

/-- A character as it stands between the quotation marks. -/
def escape (c : Char) : List Char :=
  match c with
  | '"' => ['\\', '"']
  | '\\' => ['\\', '\\']
  | '\n' => ['\\', 'n']
  | '\r' => ['\\', 'r']
  | '\t' => ['\\', 't']
  | '\x00' => ['\\', '0']
  | c =>
    if Printable.isPrintable c then [c]
    else '\\' :: 'u' :: '\x7b' :: Nat.toDigits 16 c.toNat ++ ['\x7d']

/-- A text between quotation marks. -/
def quote (text : String) : String :=
  String.ofList ('"' :: text.toList.flatMap escape ++ ['"'])

end AuctionHouse.Quoted
