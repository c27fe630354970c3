/-!
# Violations

The rules that a request can break, what it is told of each, and how a list of violations is
reported as one rejection.
-/

namespace AuctionHouse

/-- A rule that a request can break. -/
inductive Rule where
  | selfOutbid
  | notStarted
  | finished
  | expired
  | insufficientAmount
  | ceilingTooLow
  | negativeAmount
  | instantOnly
  | reservedKind
  | auctionClosed
  | buyNowDisabled
  | proxiesDisabled
deriving DecidableEq, Repr

namespace Rule

/-- All rules, in their order. -/
def all : List Rule :=
  [selfOutbid, notStarted, finished, expired, insufficientAmount, ceilingTooLow, negativeAmount,
   instantOnly, reservedKind, auctionClosed, buyNowDisabled, proxiesDisabled]

/-- The name of a rule. -/
def name : Rule → String
  | selfOutbid => "SelfOutbid"
  | notStarted => "NotStarted"
  | finished => "Finished"
  | expired => "Expired"
  | insufficientAmount => "InsufficientAmount"
  | ceilingTooLow => "CeilingTooLow"
  | negativeAmount => "NegativeAmount"
  | instantOnly => "InstantOnly"
  | reservedKind => "ReservedKind"
  | auctionClosed => "AuctionClosed"
  | buyNowDisabled => "BuyNowDisabled"
  | proxiesDisabled => "ProxiesDisabled"

/-- The rule of a name. -/
def ofName? (name : String) : Option Rule :=
  all.find? (·.name = name)

@[simp] theorem ofName?_name (r : Rule) : ofName? r.name = some r := by cases r <;> rfl

end Rule

/-- The part of a request that a violation is about. -/
inductive Field where
  | amount
  | ceiling
  | buyNow
deriving DecidableEq, Repr

namespace Field

/-- All fields, in their order. -/
def all : List Field := [amount, ceiling, buyNow]

/-- The name of a field. -/
def name : Field → String
  | amount => "amount"
  | ceiling => "ceiling"
  | buyNow => "buy_now"

/-- The field of a name. -/
def ofName? (name : String) : Option Field :=
  all.find? (·.name = name)

@[simp] theorem ofName?_name (f : Field) : ofName? f.name = some f := by cases f <;> rfl

end Field

/-- A broken rule, with what is said about it. -/
structure Violation where
  rule : Rule
  field : Field
  message : String
deriving DecidableEq, Repr

namespace Violation

/-- What is said of all violations of a request in one line (`summary`). -/
def summary (violations : List Violation) : String :=
  "Rejected: " ++ "; ".intercalate
    (violations.map fun violation => violation.field.name ++ ": " ++ violation.message)

/-- The violation that is shown where there is room for one only: bidding against oneself comes
before all others (`primary`). -/
def primary? (violations : List Violation) : Option Violation :=
  (violations.find? (·.rule = .selfOutbid)).or violations.head?

/-- The rules that are broken, in the order of the rules. -/
def rules (violations : List Violation) : List Rule :=
  Rule.all.filter fun rule => violations.any (·.rule = rule)

end Violation

end AuctionHouse
