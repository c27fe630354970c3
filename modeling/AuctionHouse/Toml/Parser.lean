import AuctionHouse.Toml.Document
import AuctionHouse.Toml.Scalar
import AuctionHouse.Toml.Text

/-!
# Reading configuration documents

A document is read line by line: a header names the table that the following keys go to.  Arrays
may run over lines, and so may strings of three marks, but tables in braces may not.
-/

namespace AuctionHouse.Toml

/-- A text without the comment at its head. -/
def skipComment : List Char → List Char
  | '#' :: rest => rest.dropWhile isPlain
  | text => text

/-- A text without blanks, ends of lines and comments at its head. -/
def skipLines : (fuel : Nat) → List Char → List Char
  | 0, text => text
  | fuel + 1, text =>
    match text with
    | ' ' :: rest => skipLines fuel rest
    | '\t' :: rest => skipLines fuel rest
    | '#' :: rest => skipLines fuel (rest.dropWhile isPlain)
    | text =>
      match newline? text with
      | some rest => skipLines fuel rest
      | none => text

/-- The rest behind the end of a line, before which a comment may stand. -/
def endOfLine? (text : List Char) : Option (List Char) :=
  match skipComment (skipSpace text) with
  | [] => some []
  | rest => newline? rest

/-- How deep arrays and tables in braces may be nested. -/
def deepest : Nat := 79

mutual

/-- Reads a value.  `depth` is how much deeper values may be nested. -/
def value? : (fuel depth : Nat) → List Char → Option (Json × List Char)
  | 0, _, _ => none
  | fuel + 1, depth, text =>
    match text with
    | '"' :: _ => (string? text).map fun (text, rest) => (.str text, rest)
    | '\'' :: _ => (string? text).map fun (text, rest) => (.str text, rest)
    | '[' :: rest => if depth = 0 then none else elements? fuel (depth - 1) [] rest
    | '\x7b' :: rest =>
      if depth = 0 then none
      else match skipSpace rest with
        | '\x7d' :: rest => some (.obj [], rest)
        | rest => pairs? fuel (depth - 1) [] rest
    | text => scalar? text

/-- Reads the elements of an array up to its bracket.  `read` holds those so far, the last one
first. -/
def elements? : (fuel depth : Nat) → (read : List Json) → List Char → Option (Json × List Char)
  | 0, _, _, _ => none
  | fuel + 1, depth, read, text =>
    match skipLines fuel text with
    | ']' :: rest => some (.arr read.reverse, rest)
    | text => do
      let (value, rest) ← value? fuel depth text
      match skipLines fuel rest with
      | ',' :: rest => elements? fuel depth (value :: read) rest
      | ']' :: rest => some (.arr (value :: read).reverse, rest)
      | _ => none

/-- Reads the members of a table in braces that is not empty. -/
def pairs? : (fuel depth : Nat) → Members → List Char → Option (Json × List Char)
  | 0, _, _, _ => none
  | fuel + 1, depth, members, text => do
    let (path, key, value, rest) ← pair? fuel depth text
    let members ← members.define? path key value
    match skipSpace rest with
    | ',' :: rest => pairs? fuel depth members rest
    | '\x7d' :: rest => some (members.json, rest)
    | _ => none

/-- Reads a key and its value. -/
def pair? : (fuel depth : Nat) → List Char → Option (List String × String × Json × List Char)
  | 0, _, _ => none
  | fuel + 1, depth, text => do
    let (path, key, rest) ← key? longestKey text
    let rest ← behind? '=' (skipSpace rest)
    let (value, rest) ← value? fuel depth (skipSpace rest)
    return (path, key, value, rest)

end

/-- A document as far as it is read, and the table that keys go to. -/
structure Reading where
  document : Members := []
  current : List String := []

/-- Reads a header behind its first bracket. -/
def Reading.header? (reading : Reading) (text : List Char) : Option (Reading × List Char) :=
  match text with
  | '[' :: text => do
    let (path, key, rest) ← key? longestKey text
    let rest ← behind? ']' rest >>= behind? ']'
    return (⟨← reading.document.openElement? path key, path ++ [key]⟩, rest)
  | text => do
    let (path, key, rest) ← key? longestKey text
    let rest ← behind? ']' rest
    return (⟨← reading.document.openTable? path key, path ++ [key]⟩, rest)

/-- Reads a key and its value into the table that keys go to. -/
def Reading.pair? (reading : Reading) (text : List Char) : Option (Reading × List Char) := do
  let (path, key, value, rest) ← Toml.pair? (2 * text.length + 2) deepest text
  let document ← reading.document.within? .passed
    (fun _ members => members.define? path key value) reading.current .header
  return ({ reading with document }, rest)

/-- Reads the rest of a document, of which every turn takes a character at least. -/
def Reading.lines? (reading : Reading) : (fuel : Nat) → List Char → Option Reading
  | 0, _ => none
  | fuel + 1, text =>
    match skipLines text.length text with
    | [] => some reading
    | '[' :: rest => do
      let (reading, rest) ← reading.header? rest
      reading.lines? fuel (← endOfLine? rest)
    | text => do
      let (reading, rest) ← reading.pair? text
      reading.lines? fuel (← endOfLine? rest)

/-- Reads a document. -/
def ofText? (text : String) : Option Json :=
  let chars := match text.toList with
    | '\ufeff' :: rest => rest
    | chars => chars
  (Reading.lines? {} (chars.length + 1) chars).map fun reading => reading.document.json

end AuctionHouse.Toml
