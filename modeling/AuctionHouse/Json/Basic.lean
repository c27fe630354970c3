import AuctionHouse.Power
import AuctionHouse.Binary64.Basic

/-!
# Data values

The values that requests, answers and configurations are made of.  A number written without a
fraction or an exponent is an integer if 64 bits hold it; every other number is a floating point
number.
-/

namespace AuctionHouse

/-- A data value.  The members of an object stand in the order in which they are written. -/
inductive Json where
  | null
  | bool (value : Bool)
  | int (value : Int)
  | float (value : Binary64)
  | str (value : String)
  | arr (elements : List Json)
  | obj (members : List (String × Json))

namespace Json

instance : Inhabited Json := ⟨null⟩

/-- Whether 64 bits hold an integer, with a sign or without. -/
def holds (n : Int) : Bool := -twoTo 63 ≤ n && n < twoTo 64

/-- The value of a member of an object. -/
def member? (name : String) : Json → Option Json
  | obj members => members.lookup name
  | _ => none

/-- The text of a string. -/
def str? : Json → Option String
  | str text => some text
  | _ => none

/-- The truth value of a Boolean. -/
def bool? : Json → Option Bool
  | bool value => some value
  | _ => none

/-- The elements of an array. -/
def arr? : Json → Option (List Json)
  | arr elements => some elements
  | _ => none

/-- An integer that is not below `low` and below `high`. -/
def intIn? (low high : Int) : Json → Option Int
  | int n => if low ≤ n ∧ n < high then some n else none
  | _ => none

/-- A natural number of at most `bits` bits. -/
def nat? (bits : Nat) : Json → Option Nat
  | int n => if 0 ≤ n ∧ n < twoTo bits then some n.toNat else none
  | _ => none

/-- A natural number as a value. -/
def ofNat (n : Nat) : Json := int n

end Json

end AuctionHouse
