import AuctionHouse.Bid
import AuctionHouse.Table

/-!
# Ranking

The bids of a round in the order of their claim to the item, and what follows from it: the price
that the round has reached, who leads, and who has bid what.  The functions take the bids of one
round in the order in which they were written.
-/

namespace AuctionHouse

/-- Compares the claims of two bids: the higher amount comes first, then the earlier time, then the
smaller number. -/
def Bid.compareClaims (a b : Bid) : Ordering :=
  (compare b.amount a.amount).then ((compare a.createdAt b.createdAt).then (compare a.id b.id))

/-- The lowest amount that the next bid may have, and the bid that leads (`CurrentHighest`). -/
structure Standing where
  minPrice : Decimal
  lead : Option Bid
deriving DecidableEq

namespace Standing

/-- The user who leads (`lead_user`). -/
def leader? (standing : Standing) : Option UserId :=
  standing.lead.map (·.user)

end Standing

namespace Ranking

/-- The bids that count, the one with the first claim in front (`highest_bids` without a limit). -/
def ranked (bids : List Bid) : List Bid :=
  (bids.filter fun bid => bid.counts).mergeSort fun a b => (a.compareClaims b).isLE

/-- The first `limit` bids of the ranking, or all of it (`highest_bids`). -/
def top (bids : List Bid) : Option Nat → List Bid
  | some limit => (ranked bids).take limit
  | none => ranked bids

/-- The bid with the first claim (`winner`). -/
def winner? (bids : List Bid) : Option Bid :=
  (ranked bids).head?

/-- The standing of a round (`current_highest`).  The price is the leading amount or, as long as
that is not higher, the starting price. -/
def standing (startingPrice : Decimal) (bids : List Bid) : Standing :=
  let lead := winner? bids
  let minPrice := match lead with
    | some bid => if startingPrice < bid.amount then bid.amount else startingPrice
    | none => startingPrice
  { minPrice, lead }

/-- The users who have bid, in the order of their first bids (`unique_bidders`). -/
def bidders (bids : List Bid) : List UserId :=
  (bids.map (·.user)).eraseDups

/-- A table of lists with one more value at the end of the list under a key. -/
def append {α : Type} (table : Table (List α)) (key : Nat) (value : α) : Table (List α) :=
  table.insert key ((table.get? key).getD [] ++ [value])

/-- The bids of every user, the last one first (`bids_by_user`). -/
def byUser (bids : List Bid) : Table (List Bid) :=
  let newestFirst := bids.mergeSort fun a b => b.id ≤ a.id
  newestFirst.foldl (fun table bid => append table bid.user bid) .empty

end Ranking

end AuctionHouse
