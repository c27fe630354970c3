/-!
# Powers of ten and of two

The units of decimal places and of binary ones.  A longer power is a multiple of a shorter one
(`tenTo_add`).
-/

namespace AuctionHouse

/-- Ten to the power of a number. -/
def tenTo (places : Nat) : Nat := Nat.pow 10 places

/-- Two to the power of a number. -/
def twoTo (bits : Nat) : Nat := Nat.pow 2 bits

@[simp] theorem tenTo_zero : tenTo 0 = 1 := rfl

theorem tenTo_succ (places : Nat) : tenTo (places + 1) = 10 * tenTo places :=
  Nat.mul_comm ..

theorem tenTo_pos (places : Nat) : 0 < tenTo places :=
  Nat.pow_pos (by decide)

theorem tenTo_add (a b : Nat) : tenTo (a + b) = tenTo a * tenTo b :=
  Nat.pow_add ..

theorem tenTo_le_tenTo {a b : Nat} (h : a ≤ b) : tenTo a ≤ tenTo b :=
  Nat.pow_le_pow_right (by decide) h

end AuctionHouse
