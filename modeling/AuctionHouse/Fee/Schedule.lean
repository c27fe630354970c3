import AuctionHouse.Refusal

/-!
# The fee table

Several sources contribute fee ranges.  Their ranges are joined in order, edited by the overrides in
order, and sorted by where they start; of two that start at one price the later one counts.  A sale
owes the fees of the last range that starts at or below its price, or of the first range if all
start above it.
-/

namespace AuctionHouse

/-- A change to the joined ranges (`add_override`). -/
abbrev FeeOverride := List FeeRange → Except Fault (List FeeRange)

/-- Where the fee table comes from. -/
structure FeeSchedule where
  providers : List (List FeeRange) := []
  overrides : List FeeOverride := []

/-- What a sale owes. -/
structure FeeQuote where
  salePrice : Decimal
  currency : String
  fraction : Decimal
  flat : Decimal
  total : Decimal
deriving DecidableEq

namespace FeeSchedule

/-- The schedule that a single list of ranges makes (`from_ranges`). -/
def ofRanges (ranges : List FeeRange) : FeeSchedule := { providers := [ranges] }

/-- What is seen of a schedule from outside. -/
def describe (schedule : FeeSchedule) : String :=
  "FeeSchedule \x7b providers: " ++ schedule.providers.length.repr ++ ", overrides: " ++
    schedule.overrides.length.repr ++ " \x7d"

/-- The ranges of all sources as the overrides leave them. -/
def merged (schedule : FeeSchedule) : Except Fault (List FeeRange) :=
  schedule.overrides.foldlM (fun ranges override => override ranges) schedule.providers.flatten

/-- Sorted ranges without those that another one follows at the same start. -/
def lastOfEachStart : List FeeRange → List FeeRange
  | [] => []
  | [range] => [range]
  | range :: next :: rest =>
    if range.start.SameValue next.start then lastOfEachStart (next :: rest)
    else range :: lastOfEachStart (next :: rest)

/-- The tiers that a list of ranges comes to. -/
def tiers (ranges : List FeeRange) : List FeeRange :=
  lastOfEachStart (ranges.mergeSort fun a b => a.start ≤ b.start)

/-- The tiers of a table, if there are any and none has a flaw. -/
def check (tiers : List FeeRange) : Except ConfigError (List FeeRange) :=
  if tiers.isEmpty then .error .emptyFeeTable
  else match tiers.findSome? fun tier =>
      tier.flaw?.map (ConfigError.invalidFeeRange tier.start) with
    | some error => .error error
    | none => .ok tiers

/-- The fee table (`table`). -/
def table (schedule : FeeSchedule) : Except Stop (List FeeRange) := do
  let ranges ← Stop.ofFault schedule.merged
  match check (tiers ranges) with
  | .ok tiers => return tiers
  | .error error => throw (.ofConfig error)

/-- The tier for a price: the last that starts at or below it, or else the first. -/
def tierFor? (tiers : List FeeRange) (price : Decimal) : Option FeeRange :=
  (tiers.reverse.find? fun tier => tier.start ≤ price).or tiers.head?

/-- What a sale owes in a tier. -/
def totalFee (tier : FeeRange) (price : Decimal) : Except Fault Decimal := do
  return (← (← price.mul tier.fraction).add tier.flat).roundCents

/-- What a sale owes (`fee_for`). -/
def quote (schedule : FeeSchedule) (price : Decimal) (currency : String) :
    Except Stop FeeQuote := do
  match tierFor? (← schedule.table) price with
  | none => throw (.ofConfig .emptyFeeTable)
  | some tier =>
    return {
      salePrice := price
      currency
      fraction := tier.fraction
      flat := tier.flat
      total := ← Stop.ofFault (totalFee tier price) }

end FeeSchedule

/-- An edit of the joined ranges.  An index past the end changes nothing. -/
inductive FeeEdit where
  | setStart (index : Nat) (start : Decimal)
  | setFraction (index : Nat) (fraction : Decimal)
  | setFlat (index : Nat) (flat : Decimal)
  | remove (index : Nat)
  | addFlatToAll (flat : Decimal)
  | keepBelow (start : Decimal)
  | push (range : FeeRange)
  | clear

/-- What an edit does. -/
def FeeEdit.apply : FeeEdit → FeeOverride
  | setStart index start, ranges => .ok (ranges.modify index fun range => { range with start })
  | setFraction index fraction, ranges =>
    .ok (ranges.modify index fun range => { range with fraction })
  | setFlat index flat, ranges => .ok (ranges.modify index fun range => { range with flat })
  | remove index, ranges => .ok (ranges.eraseIdx index)
  | addFlatToAll flat, ranges => ranges.mapM fun range => do
    return { range with flat := ← range.flat.add flat }
  | keepBelow start, ranges => .ok (ranges.filter fun range => range.start < start)
  | push range, ranges => .ok (ranges ++ [range])
  | clear, _ => .ok []

end AuctionHouse
