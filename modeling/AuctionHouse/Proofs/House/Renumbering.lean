import AuctionHouse.Proofs.House.Replies
import Mathlib.Order.Monotone.Basic

/-!
# Other numbers

The numbers of bids and proxies decide ties, so what matters of them is their order.  Under
numbers of the same order every ranking is the same (`ranked_renumber`), the same proxy is the
strongest (`strongestRival?_renumber`), and the house finds the same violations and makes the same
bids (`bidViolations_renumber`, `counterBid_renumber`, `ceilingBids_renumber`).
-/

namespace AuctionHouse

/-- A bid under another number. -/
def Bid.renumber (f : BidId → BidId) (bid : Bid) : Bid := { bid with id := f bid.id }

/-- A proxy under another number. -/
def Proxy.renumber (g : ProxyId → ProxyId) (proxy : Proxy) : Proxy :=
  { proxy with id := g proxy.id }

/-- A standing with its lead under another number. -/
def Standing.renumber (f : BidId → BidId) (standing : Standing) : Standing :=
  { standing with lead := standing.lead.map (·.renumber f) }

/-- A receipt with its bids under other numbers. -/
def Receipt.renumber (f : BidId → BidId) (receipt : Receipt) : Receipt :=
  ⟨receipt.bid.renumber f, receipt.counter.map (·.renumber f)⟩

/-- What a call answers, with bids and proxies under other numbers. -/
def Outcome.renumber (f : BidId → BidId) (g : ProxyId → ProxyId) : Outcome → Outcome
  | bid receipt => .bid (receipt.renumber f)
  | purchase sale => .purchase (sale.renumber f)
  | proxy saved => .proxy (saved.renumber g)
  | proxyRemoved removed => .proxyRemoved removed

/-- What comes back from an event, with bids and proxies under other numbers. -/
def House.Reply.renumber (f : BidId → BidId) (g : ProxyId → ProxyId) : Reply → Reply
  | served answer => .served (answer.map (·.renumber f g))
  | relisted answer => .relisted answer
  | put answer => .put answer
  | registered taken => .registered taken

variable {f : BidId → BidId} {g : ProxyId → ProxyId}

theorem compare_of_strictMono (mono : StrictMono f) (a b : Nat) :
    compare (f a) (f b) = compare a b := by
  rcases lt_trichotomy a b with less | rfl | more
  · rw [compare_lt_iff_lt.2 less, compare_lt_iff_lt.2 (mono less)]
  · rw [compare_eq_iff_eq.2 rfl, compare_eq_iff_eq.2 rfl]
  · rw [compare_gt_iff_gt.2 more, compare_gt_iff_gt.2 (mono more)]

section Ranking

variable (mono : StrictMono f)
include mono

theorem Bid.compareClaims_renumber (a b : Bid) :
    (a.renumber f).compareClaims (b.renumber f) = a.compareClaims b := by
  simp only [compareClaims, renumber, compare_of_strictMono mono]

namespace Ranking

theorem ranked_renumber (bids : List Bid) :
    ranked (bids.map (·.renumber f)) = (ranked bids).map (·.renumber f) := by
  unfold ranked
  rw [List.filter_map, List.map_mergeSort]
  · rfl
  · intro a _ b _
    rw [Bid.compareClaims_renumber mono]

theorem winner?_renumber (bids : List Bid) :
    winner? (bids.map (·.renumber f)) = (winner? bids).map (·.renumber f) := by
  unfold winner?
  rw [ranked_renumber mono, List.head?_map]

theorem standing_renumber (startingPrice : Decimal) (bids : List Bid) :
    standing startingPrice (bids.map (·.renumber f)) =
      (standing startingPrice bids).renumber f := by
  unfold standing
  rw [winner?_renumber mono]
  cases winner? bids <;> rfl

end Ranking

end Ranking

theorem Standing.leader?_renumber (standing : Standing) :
    (standing.renumber f).leader? = standing.leader? := by
  unfold leader? renumber
  rw [Option.map_map]
  rfl

/-- The violations of a bid do not depend on the number of the lead. -/
theorem Validation.bidViolations_renumber (item : Item) (status : PhaseStatus) (standing : Standing)
    (user : UserId) (amount : Decimal) (kind : BidKind) :
    bidViolations item status (standing.renumber f) user amount kind =
      bidViolations item status standing user amount kind := by
  have below_lead : (∃ lead ∈ (standing.renumber f).lead, amount < lead.amount) ↔
      ∃ lead ∈ standing.lead, amount < lead.amount := by
    unfold Standing.renumber
    cases standing.lead with
    | none => simp
    | some lead => simp [Bid.renumber]
  unfold bidViolations
  simp only [below_lead, Standing.leader?_renumber]
  rfl

section Rival

variable (mono : StrictMono g)
include mono

theorem ProxyOrdering.compareStrength_renumber (ordering : ProxyOrdering) (a b : Proxy) :
    ordering.compareStrength (a.renumber g) (b.renumber g) = ordering.compareStrength a b := by
  simp only [compareStrength, Proxy.renumber, compare_of_strictMono mono]

theorem foldl_strongest_renumber (ordering : ProxyOrdering) (first : Proxy) (rest : List Proxy) :
    (rest.map (·.renumber g)).foldl
        (fun best proxy => if ordering.compareStrength best proxy = .gt then proxy else best)
        (first.renumber g) =
      (rest.foldl
        (fun best proxy => if ordering.compareStrength best proxy = .gt then proxy else best)
        first).renumber g := by
  induction rest generalizing first with
  | nil => rfl
  | cons head rest ih =>
    rw [List.map_cons, List.foldl_cons, List.foldl_cons, ordering.compareStrength_renumber mono,
      ← ih]
    split <;> rfl

theorem strongestRival?_renumber (proxies : List Proxy) (user : UserId)
    (ordering : ProxyOrdering) :
    strongestRival? (proxies.map (·.renumber g)) user ordering =
      (strongestRival? proxies user ordering).map (·.renumber g) := by
  have rivals_eq : (proxies.map (·.renumber g)).filter
      (fun proxy => proxy.active && proxy.user ≠ user) =
        (proxies.filter fun proxy => proxy.active && proxy.user ≠ user).map (·.renumber g) := by
    rw [List.filter_map]
    rfl
  unfold strongestRival?
  rw [rivals_eq]
  cases proxies.filter fun proxy => proxy.active && proxy.user ≠ user with
  | nil => rfl
  | cons first rest => exact congrArg some (foldl_strongest_renumber mono ordering first rest)

namespace House

/-- The answer to a bid does not depend on the numbers of the proxies. -/
theorem counterBid_renumber (ordering : ProxyOrdering) (item : Item) (bid : NewBid)
    (proxies : List Proxy) :
    counterBid ordering item bid (proxies.map (·.renumber g)) =
      counterBid ordering item bid proxies := by
  unfold counterBid
  rw [strongestRival?_renumber mono]
  cases strongestRival? proxies bid.user ordering <;> rfl

/-- What follows from a ceiling does not depend on the numbers of the lead and the proxies. -/
theorem ceilingBids_renumber (ordering : ProxyOrdering) (item : Item) (round : Round)
    (caller : Caller) (ceiling : Decimal) (standing : Standing) (proxies : List Proxy) :
    ceilingBids ordering item round caller ceiling (standing.renumber f)
        (proxies.map (·.renumber g)) =
      ceilingBids ordering item round caller ceiling standing proxies := by
  have able_eq : (proxies.map (·.renumber g)).filter
      (fun proxy => (standing.renumber f).minPrice < proxy.ceiling) =
        (proxies.filter fun proxy => standing.minPrice < proxy.ceiling).map (·.renumber g) := by
    rw [List.filter_map]
    rfl
  unfold ceilingBids
  simp only [able_eq, strongestRival?_renumber mono, Standing.leader?_renumber]
  cases strongestRival? (proxies.filter fun proxy => standing.minPrice < proxy.ceiling)
    caller.user ordering <;> rfl

end House

end Rival

namespace House

theorem raised_renumber (zero : g 0 = 0) (previous : Option Proxy) (caller : Caller) (id : ItemId)
    (round : Round) (ceiling : Decimal) :
    raised (previous.map (·.renumber g)) caller id round ceiling =
      (raised previous caller id round ceiling).renumber g := by
  cases previous with
  | none => simp [raised, Proxy.renumber, zero]
  | some proxy => rfl

end House

/-- Numbers that stay as they are below one number and go on from another one there. -/
def resumed (f : Nat → Nat) (first first' : Nat) (k : Nat) : Nat :=
  if k < first then f k else first' + (k - first)

section Resumed

variable {h : Nat → Nat} {first first' : Nat}

theorem resumed_of_lt {k : Nat} (lt : k < first) : resumed h first first' k = h k := if_pos lt

theorem resumed_add (n : Nat) : resumed h first first' (first + n) = first' + n := by
  rw [resumed, if_neg (Nat.not_lt.2 (Nat.le_add_right first n)), Nat.add_sub_cancel_left]

theorem strictMono_resumed (mono : StrictMono h) (below : h first ≤ first') :
    StrictMono (resumed h first first') := by
  intro a b less
  unfold resumed
  by_cases b_lt : b < first
  · rw [if_pos b_lt, if_pos (less.trans b_lt)]
    exact mono less
  · rw [if_neg b_lt]
    by_cases a_lt : a < first
    · rw [if_pos a_lt]
      exact Nat.lt_of_lt_of_le (mono a_lt) (Nat.le_add_right_of_le below)
    · rw [if_neg a_lt]
      omega

end Resumed

/-- Consecutive numbers from one number on are those from another one, renumbered. -/
theorem Store.numbered_renumber {first first' : BidId} (shifted : ∀ n, f (first + n) = first' + n)
    (bids : List NewBid) :
    numbered first' bids = (numbered first bids).map (·.renumber f) := by
  induction bids generalizing first first' with
  | nil => rfl
  | cons bid rest ih =>
    have rest_shifted (n : Nat) : f (first + 1 + n) = first' + 1 + n := by
      rw [Nat.add_assoc, shifted, Nat.add_assoc]
    have head_eq := shifted 0
    simp only [numbered, List.map_cons, ih rest_shifted, Bid.renumber, Nat.add_zero] at head_eq ⊢
    rw [head_eq]

end AuctionHouse
