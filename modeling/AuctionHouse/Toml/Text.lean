import AuctionHouse.Text.Digits

/-!
# Strings and keys of configuration documents

Strings stand between quotation marks, which admit escapes, or between apostrophes, which admit
none; three of either let a string run over lines.  A key is a bare word or a string of one line.
Every reader takes the text behind an opening mark and gives the rest.
-/

namespace AuctionHouse.Toml

/-- Whether a character may stand in a comment or a string: no control character but the tab. -/
def isPlain (c : Char) : Bool :=
  c = '\t' || (0x20 ≤ c.toNat && c.toNat ≠ 0x7F)

/-- Whether a character is a blank within a line. -/
def isSpace (c : Char) : Bool := c = ' ' || c = '\t'

/-- A text without the blanks at its head. -/
def skipSpace (text : List Char) : List Char := text.dropWhile isSpace

/-- The rest behind the end of a line, if the text starts with one. -/
def newline? : List Char → Option (List Char)
  | '\n' :: rest => some rest
  | '\r' :: '\n' :: rest => some rest
  | _ => none

/-- The character whose number these digits of base sixteen spell, if there is one. -/
def hexChar? (digits : List Char) : Option Char := do
  let number ← Digits.valueIn? 16 digits
  if number.isValidChar then some (Char.ofNat number) else none

/-- Reads an escape behind its backslash. -/
def escape? : List Char → Option (Char × List Char)
  | 'b' :: rest => some ('\x08', rest)
  | 't' :: rest => some ('\t', rest)
  | 'n' :: rest => some ('\n', rest)
  | 'f' :: rest => some ('\x0c', rest)
  | 'r' :: rest => some ('\r', rest)
  | '"' :: rest => some ('"', rest)
  | '\\' :: rest => some ('\\', rest)
  | 'u' :: rest => numbered 4 rest
  | 'U' :: rest => numbered 8 rest
  | _ => none
where
  /-- Reads the number of a character. -/
  numbered (width : Nat) (text : List Char) : Option (Char × List Char) :=
    if width ≤ text.length then
      (hexChar? (text.take width)).map fun c => (c, text.drop width)
    else none

/-- Reads a string of one line up to its quotation mark.  `read` holds the characters so far, the
last one first. -/
def basic? : (fuel : Nat) → (read : List Char) → List Char → Option (String × List Char)
  | 0, _, _ => none
  | fuel + 1, read, text =>
    match text with
    | '"' :: rest => some (String.ofList read.reverse, rest)
    | '\\' :: rest => do
      let (c, rest) ← escape? rest
      basic? fuel (c :: read) rest
    | c :: rest => if isPlain c then basic? fuel (c :: read) rest else none
    | [] => none

/-- Reads a string of one line up to its apostrophe. -/
def literal? (text : List Char) : Option (String × List Char) :=
  let body := text.takeWhile (· ≠ '\'')
  match text.drop body.length with
  | '\'' :: rest => if body.all isPlain then some (String.ofList body, rest) else none
  | _ => none

/-- A text without the blanks and ends of lines at its head. -/
def skipBlankLines : List Char → List Char
  | '\r' :: '\n' :: rest => skipBlankLines rest
  | c :: rest => if isSpace c || c = '\n' then skipBlankLines rest else c :: rest
  | [] => []

/-- The rest behind a backslash at the end of a line: blanks and ends of lines are passed over, and
the first of these ends the line of the backslash. -/
def continued? (text : List Char) : Option (List Char) :=
  (newline? (skipSpace text)).map skipBlankLines

/-- What a run of marks in a string over lines comes to: marks that belong to the string, or marks
and the end of the string. -/
inductive MarkRun where
  | inside (count : Nat)
  | closing (count : Nat)

/-- Up to two marks belong to the string, and so do up to two before the three that close it. -/
def MarkRun.of? (count : Nat) : Option MarkRun :=
  if count < 3 then some (.inside count)
  else if count ≤ 5 then some (.closing (count - 3))
  else none

/-- Reads a string over lines up to its three marks. -/
def multiline? (mark : Char) : (fuel : Nat) → (read : List Char) → List Char →
    Option (String × List Char)
  | 0, _, _ => none
  | fuel + 1, read, text =>
    match text with
    | [] => none
    | c :: rest =>
      if c = mark then do
        let count := (text.takeWhile (· = mark)).length
        let rest := text.drop count
        match ← MarkRun.of? count with
        | .inside count => multiline? mark fuel (List.replicate count mark ++ read) rest
        | .closing count =>
          return (String.ofList (List.replicate count mark ++ read).reverse, rest)
      else if c = '\\' ∧ mark = '"' then
        match continued? rest with
        | some rest => multiline? mark fuel read rest
        | none => do
          let (c, rest) ← escape? rest
          multiline? mark fuel (c :: read) rest
      else
        match newline? text with
        | some rest => multiline? mark fuel ('\n' :: read) rest
        | none => if isPlain c then multiline? mark fuel (c :: read) rest else none

/-- Reads a string with its marks.  A string over lines does not begin with the end of the line of
its opening marks. -/
def string? (text : List Char) : Option (String × List Char) :=
  match text with
  | '"' :: '"' :: '"' :: rest => multiline? '"' (rest.length + 1) [] ((newline? rest).getD rest)
  | '\'' :: '\'' :: '\'' :: rest =>
    multiline? '\'' (rest.length + 1) [] ((newline? rest).getD rest)
  | '"' :: rest => basic? (rest.length + 1) [] rest
  | '\'' :: rest => literal? rest
  | _ => none

/-- Whether a character may stand in a bare key. -/
def isBare (c : Char) : Bool := c.isAlphanum || c = '-' || c = '_'

/-- Reads a part of a key. -/
def keyPart? : List Char → Option (String × List Char)
  | '"' :: rest => basic? (rest.length + 1) [] rest
  | '\'' :: rest => literal? rest
  | text =>
    let word := text.takeWhile isBare
    if word.isEmpty then none else some (String.ofList word, text.drop word.length)

/-- How many parts a key may have at most. -/
def longestKey : Nat := 79

/-- Reads a key: its parts before the last, and the last.  There may be blanks around it and around
its points. -/
def key? : (fuel : Nat) → List Char → Option (List String × String × List Char)
  | 0, _ => none
  | fuel + 1, text => do
    let (part, rest) ← keyPart? (skipSpace text)
    match skipSpace rest with
    | '.' :: rest =>
      let (path, last, rest) ← key? fuel rest
      return (part :: path, last, rest)
    | rest => return ([], part, rest)

end AuctionHouse.Toml
