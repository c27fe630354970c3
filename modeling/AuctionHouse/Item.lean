import AuctionHouse.Instant.Basic
import AuctionHouse.Money

/-!
# Items

What is put up for auction: its prices, the window in which it is open, and the state in which the
house has put it.  An item that is listed again starts a new round; bids and proxies belong to one
round.
-/

namespace AuctionHouse

/-- The number of a user. -/
abbrev UserId := Nat

/-- The number of an item. -/
abbrev ItemId := Nat

/-- How often an item had been listed again when a round began: a number of 32 bits. -/
abbrev Round := UInt32

namespace Round

/-- The last round that there can be. -/
def last : Round := 4294967295

/-- The round after another, as `relist` counts.  After the last there is none, and the sum is a
fault. -/
def next (round : Round) : Except Fault Round :=
  if round = last then .error .roundTooLarge else .ok (round + 1)

variable {round later : Round}

theorem toNat_last : last.toNat + 1 = UInt32.size := rfl

theorem eq_last_iff : round = last ↔ round.toNat + 1 = UInt32.size := by
  rw [← UInt32.toNat_inj, ← toNat_last, Nat.add_right_cancel_iff]

/-- The next round is the one with the number after. -/
theorem next_eq_ok_iff : round.next = .ok later ↔ later.toNat = round.toNat + 1 := by
  have bound := round.toNat_lt
  have later_bound := later.toNat_lt
  unfold next
  split
  · next at_last =>
    have number := eq_last_iff.1 at_last
    simp only [UInt32.size] at number
    exact ⟨nofun, fun after => by omega⟩
  · next before_last =>
    have number : round.toNat + 1 < UInt32.size := by
      have other := mt eq_last_iff.2 before_last
      simp only [UInt32.size] at other ⊢
      omega
    have sum_eq : (round + 1).toNat = round.toNat + 1 := by
      rw [UInt32.toNat_add]
      exact Nat.mod_eq_of_lt number
    rw [Except.ok.injEq, ← UInt32.toNat_inj, sum_eq]
    exact eq_comm

/-- There is no next round exactly after the last. -/
theorem next_eq_error_iff {fault : Fault} :
    round.next = .error fault ↔ round = last ∧ fault = .roundTooLarge := by
  unfold next
  split
  · next at_last => simp [at_last, eq_comm]
  · next before_last => simp [before_last]

/-- There is a next round after every other round than the last. -/
theorem exists_next (before_last : round ≠ last) : ∃ later, round.next = .ok later :=
  ⟨round + 1, if_neg before_last⟩

theorem ne_last_of_next (opened : round.next = .ok later) : round ≠ last := by
  intro at_last
  rw [next_eq_error_iff.2 ⟨at_last, rfl⟩] at opened
  cases opened

/-- The next round is a later one. -/
theorem lt_of_next (opened : round.next = .ok later) : round < later := by
  rw [UInt32.lt_iff_toNat_lt, next_eq_ok_iff.1 opened]
  exact Nat.lt_succ_self _

end Round

/-- The state in which the house has put an item. -/
inductive Workflow where
  | deleted
  | notStarted
  | active
  | relisted
  | finished
  | closed
deriving DecidableEq, Repr

namespace Workflow

/-- All states, in their order. -/
def all : List Workflow := [deleted, notStarted, active, relisted, finished, closed]

/-- The number under which a state is kept (`code`). -/
def code : Workflow → Int
  | deleted => -1
  | notStarted => 0
  | active => 1
  | relisted => 2
  | finished => 3
  | closed => 4

/-- The state kept under a number (`from_code`). -/
def ofCode? (code : Int) : Option Workflow :=
  all.find? (·.code = code)

/-- The name of a state in data. -/
def name : Workflow → String
  | deleted => "deleted"
  | notStarted => "not_started"
  | active => "active"
  | relisted => "relisted"
  | finished => "finished"
  | closed => "closed"

/-- The state of a name in data. -/
def ofName? (name : String) : Option Workflow :=
  all.find? (·.name = name)

/-- The name of a state for people. -/
def title : Workflow → String
  | deleted => "Deleted"
  | notStarted => "NotStarted"
  | active => "Active"
  | relisted => "Relisted"
  | finished => "Finished"
  | closed => "Closed"

/-- Whether the state ends the round whatever the time (`is_terminal`). -/
def isTerminal : Workflow → Bool
  | deleted | finished | closed => true
  | notStarted | active | relisted => false

@[simp] theorem ofCode?_code (w : Workflow) : ofCode? w.code = some w := by cases w <;> rfl

@[simp] theorem ofName?_name (w : Workflow) : ofName? w.name = some w := by cases w <;> rfl

end Workflow

/-- The time in which an item is open (`OpenWindow`). -/
structure Window where
  opens : Instant
  closes : Instant
deriving DecidableEq

/-- Whether the window closes after it opens (`validate_window`). -/
def Window.WellFormed (window : Window) : Prop := window.opens < window.closes

instance (window : Window) : Decidable window.WellFormed :=
  inferInstanceAs (Decidable (window.opens < window.closes))

/-- An item (`AuctionItem`).  A buy-now price of zero or less means that there is none. -/
structure Item where
  id : ItemId
  name : String
  owner : UserId
  startingPrice : Decimal
  buyNowPrice : Decimal
  bidStep : Decimal
  thresholdPercent : Decimal
  instantOnly : Bool
  currency : String
  workflow : Workflow
  window : Window
  round : Round
deriving DecidableEq

namespace Item

/-- The price at which the item can be bought at once, if it has one (`buy_now`). -/
def buyNow? (item : Item) : Option Decimal :=
  if .zero < item.buyNowPrice then some item.buyNowPrice else none

/-- The item as it is when a round is opened for it. -/
def reopened (item : Item) (round : Round) : Item := { item with round, workflow := .relisted }

/-- What can be wrong with the terms of an item (`ItemProblem`). -/
inductive Problem where
  | negativePrice
  | startingPriceZero
  | buyNowBelowStartingPrice
  | instantOnlyWithoutBuyNow
  | nonPositiveBidStep
  | thresholdOutOfRange
  | malformedWindow
deriving DecidableEq, Repr

/-- What the owner is told of a problem. -/
def Problem.message : Problem → String
  | negativePrice => "Prices cannot be negative."
  | startingPriceZero => "Starting Price cannot be zero."
  | buyNowBelowStartingPrice => "Buy Now amount is lower than Starting Price."
  | instantOnlyWithoutBuyNow => "Auction Item is Set as Instant Only without Buy Now Price."
  | nonPositiveBidStep => "Bid step must be positive."
  | thresholdOutOfRange => "Threshold must be between 0 and 100 percent."
  | malformedWindow => "Auction end must be after its start."

/-- Whether a problem is one of the item's. -/
def Problem.Affects (item : Item) : Problem → Prop
  | negativePrice => item.startingPrice < .zero ∨ item.buyNowPrice < .zero
  | startingPriceZero => item.startingPrice.magnitude = 0
  | buyNowBelowStartingPrice => item.buyNow?.isSome ∧ item.buyNowPrice < item.startingPrice
  | instantOnlyWithoutBuyNow => item.instantOnly ∧ item.buyNow?.isNone
  | nonPositiveBidStep => item.bidStep ≤ .zero
  | thresholdOutOfRange => item.thresholdPercent < .zero ∨ .hundred < item.thresholdPercent
  | malformedWindow => ¬ item.window.WellFormed

instance (item : Item) (problem : Problem) : Decidable (problem.Affects item) := by
  cases problem <;> unfold Problem.Affects <;> infer_instance

/-- All problems, in the order in which they are reported. -/
def Problem.all : List Problem :=
  [negativePrice, startingPriceZero, buyNowBelowStartingPrice, instantOnlyWithoutBuyNow,
   nonPositiveBidStep, thresholdOutOfRange, malformedWindow]

/-- The problems of an item (`validate_item`). -/
def problems (item : Item) : List Problem :=
  Problem.all.filter fun problem => problem.Affects item

theorem Problem.mem_all (problem : Problem) : problem ∈ Problem.all := by
  cases problem <;> decide

/-- A problem is reported exactly if it is one of the item's. -/
theorem mem_problems {item : Item} {problem : Problem} :
    problem ∈ item.problems ↔ problem.Affects item := by
  simp [problems, Problem.mem_all]

end Item

end AuctionHouse
