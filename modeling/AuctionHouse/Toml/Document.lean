import AuctionHouse.Json.Basic

/-!
# Configuration documents

A document is a tree of tables.  A table comes about by a header of its own, on the way of a longer
header, or by a dotted key, and how it came about says what may still be added to it: a header may
take over a table that was only on the way of another, a dotted key may add to tables that no
header has opened, and nothing is ever defined twice.
-/

namespace AuctionHouse.Toml

/-- How a table has come about. -/
inductive Origin where
  /-- By a header of its own. -/
  | header
  /-- On the way of the header of another table. -/
  | passed
  /-- By a dotted key. -/
  | dotted
deriving DecidableEq, Repr

/-- What stands under a key. -/
inductive Entry where
  | value (data : Json)
  | table (origin : Origin) (members : List (String × Entry))
  /-- The tables of a header in double brackets, one for each time that it stands. -/
  | tables (elements : List (List (String × Entry)))

/-- The entries of a table in the order in which they came about. -/
abbrev Members := List (String × Entry)

namespace Members

/-- The members with the entry of a key changed.  There are none if the change is refused. -/
def alter? (key : String) (change : Option Entry → Option Entry) (members : Members) :
    Option Members :=
  match members with
  | [] => (change none).map fun entry => [(key, entry)]
  | (other, entry) :: rest =>
    if other = key then (change (some entry)).map fun entry => (other, entry) :: rest
    else (alter? key change rest).map ((other, entry) :: ·)

/-- The members with the table at the end of a path changed.  Tables that are not there are made,
with `way` as their origin.  The way leads through the last of several tables; a dotted key does not
lead through tables that a header has opened. -/
def within? (way : Origin) (change : Origin → Members → Option Members) :
    (path : List String) → Origin → Members → Option Members
  | [], origin, members => change origin members
  | key :: path, _, members => members.alter? key fun
    | none => (within? way change path way []).map (.table way)
    | some (.value _) => none
    | some (.table origin members) =>
      if way = .dotted ∧ origin = .header then none
      else (within? way change path origin members).map (.table origin)
    | some (.tables elements) =>
      (within? way change path .header (elements.getLast?.getD [])).map fun last =>
        .tables (elements.dropLast ++ [last])

/-- The members with a value under a dotted key.  The tables of the key must be tables that dotted
keys have made, and there must be nothing under it yet. -/
def define? (path : List String) (key : String) (data : Json) (members : Members) :
    Option Members :=
  within? .dotted
    (fun origin members =>
      if path ≠ [] ∧ origin ≠ .dotted then none
      else members.alter? key fun
        | none => some (.value data)
        | some _ => none)
    path .header members

/-- The document with a table opened by a header. -/
def openTable? (path : List String) (key : String) (document : Members) : Option Members :=
  within? .passed
    (fun _ members => members.alter? key fun
      | none => some (.table .header [])
      | some (.table .passed members) => some (.table .header members)
      | some _ => none)
    path .header document

/-- The document with one more table under a header in double brackets. -/
def openElement? (path : List String) (key : String) (document : Members) : Option Members :=
  within? .passed
    (fun _ members => members.alter? key fun
      | none => some (.tables [[]])
      | some (.tables elements) => some (.tables (elements ++ [[]]))
      | some _ => none)
    path .header document

end Members

mutual

/-- An entry as data. -/
def Entry.json : Entry → Json
  | .value data => data
  | .table _ members => .obj (membersJson members)
  | .tables elements => .arr (tablesJson elements)

/-- Members as members of data. -/
def membersJson : List (String × Entry) → List (String × Json)
  | [] => []
  | (key, entry) :: rest => (key, entry.json) :: membersJson rest

/-- Tables as data. -/
def tablesJson : List (List (String × Entry)) → List Json
  | [] => []
  | members :: rest => .obj (membersJson members) :: tablesJson rest

end

/-- A table as data. -/
def Members.json (members : Members) : Json := .obj (membersJson members)

end AuctionHouse.Toml
