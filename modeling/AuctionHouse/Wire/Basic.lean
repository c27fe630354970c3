import AuctionHouse.Decimal.Parser
import AuctionHouse.Decimal.Printer
import AuctionHouse.Instant.Parser
import AuctionHouse.Instant.Printer
import AuctionHouse.Json.Basic
import AuctionHouse.Binary64.Shortest

/-!
# Values as data

How values travel.  A record is an object of its fields by name; a reader takes it with the fields
in any order, with others among them, and also as an array of its fields in their order.  A value
of a type with cases is an object of one member, which is named for the case; the fields of a case
are always an object.  Amounts and moments are strings.
-/

namespace AuctionHouse

/-- A type whose values travel as data. -/
class Wire (α : Type) where
  /-- The value as data. -/
  encode : α → Json
  /-- The value that data stand for. -/
  decode : Json → Option α

namespace Wire

/-- The format in which data come.  A configuration file is more lenient than a request: an array
for a record may go on behind the last field, and a case without content may have an empty table
or array as its content. -/
inductive Dialect where
  | request
  | file
deriving DecidableEq, Repr

/-- The fields of a record as they were sent.  In an array a field that need not be there may be
null but cannot be left out unless it has a default. -/
structure Members where
  get? : String → Option Json
  inOrder : Bool

namespace Members

/-- The members of a record with fields of these names. -/
def of? (names : List String) (data : Json) (dialect : Dialect := .request) : Option Members :=
  match data with
  | .obj members => some ⟨fun name => members.lookup name, false⟩
  | .arr elements =>
    if elements.length ≤ names.length ∨ dialect = .file then
      some ⟨fun name => (names.zip elements).lookup name, true⟩
    else
      none
  | _ => none

/-- The members of the content of a case, which is an object. -/
def ofContent? : Json → Option Members
  | .obj members => some ⟨fun name => members.lookup name, false⟩
  | _ => none

/-- A field that must be there. -/
def required {α : Type} (members : Members) (name : String) (decode : Json → Option α) :
    Option α :=
  members.get? name >>= decode

/-- A field with a value for when it is missing. -/
def withDefault {α : Type} (members : Members) (name : String) (decode : Json → Option α)
    (value : α) : Option α :=
  match members.get? name with
  | some data => decode data
  | none => some value

end Members

/-- A value, or null for none. -/
def nullable? {α : Type} (decode : Json → Option α) : Json → Option (Option α)
  | .null => some none
  | data => (decode data).map some

/-- A field that may be null, and in an object also missing. -/
def Members.optional {α : Type} (members : Members) (name : String)
    (decode : Json → Option α) : Option (Option α) :=
  match members.get? name with
  | some data => nullable? decode data
  | none => if members.inOrder then none else some none

/-- A value or null. -/
def ofOption {α : Type} (encode : α → Json) : Option α → Json
  | some value => encode value
  | none => .null

/-- A list of values. -/
def list? {α : Type} (decode : Json → Option α) (data : Json) : Option (List α) :=
  data.arr? >>= fun elements => elements.mapM decode

/-- A list of values as data. -/
def ofList {α : Type} (encode : α → Json) (values : List α) : Json :=
  .arr (values.map encode)

/-- A case that has a name and no content, or in a file an empty table or array as its content. -/
def case? {α : Type} (ofName? : String → Option α) (data : Json) (dialect : Dialect := .request) :
    Option α :=
  match data, dialect with
  | .str name, _ => ofName? name
  | .obj [(name, .null)], .request => ofName? name
  | .obj [(name, .obj [])], .file => ofName? name
  | .obj [(name, .arr [])], .file => ofName? name
  | _, _ => none

/-- A case with content as data. -/
def tagged (name : String) (content : Json) : Json := .obj [(name, content)]

/-- The name and the content of a case. -/
def tagged? : Json → Option (String × Json)
  | .obj [member] => some member
  | _ => none

/-- The amount that data stand for: a string, or a number in the shortest decimal form. -/
def decimal? : Json → Option Decimal
  | .str text => Decimal.ofText? text
  | .int n => if Json.holds n then Decimal.ofInt? n else none
  | .float x => Decimal.ofChars? (x.render .amount)
  | _ => none

instance : Wire Decimal where
  encode amount := .str amount.text
  decode := decimal?

instance : Wire Instant where
  encode moment := .str moment.text
  decode data := data.str? >>= Instant.ofText?

end Wire

end AuctionHouse
