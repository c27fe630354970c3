import AuctionHouse.Fee.Schedule
import AuctionHouse.Settlement

/-!
# Configuration of the house

The settings that someone who runs the house may choose.
-/

namespace AuctionHouse

/-- The settings of the house (`EngineConfig`). -/
structure Config where
  /-- Whether users may set proxies. -/
  autobidEnabled : Bool := true
  /-- Which of two proxies of equal ceilings is the stronger. -/
  proxyOrdering : ProxyOrdering := .earliestFirst
  /-- Whether an item must not be closed to report open. -/
  strictOpen : Bool := false
  /-- The fee ranges of the house. -/
  feeRanges : List FeeRange := FeeRange.standard
  /-- How many bids a listing shows if it is not told. -/
  listingLength : Nat := 10
deriving DecidableEq

namespace Config

/-- The settings, if the house can be run with them (`validate`). -/
def validate (config : Config) : Except ConfigError Config :=
  if config.listingLength = 0 then .error (.invalidConfig .emptyListing)
  else match config.feeRanges.findSome? fun range =>
      range.flaw?.map (ConfigError.invalidFeeRange range.start) with
    | some error => .error error
    | none => .ok config

end Config

end AuctionHouse
