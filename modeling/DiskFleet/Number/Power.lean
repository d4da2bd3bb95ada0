/-!
# Powers of two and of ten

The two powers that number formats are made of, as functions of their own. They are computed with
large natural numbers at once, also by the kernel, and mean the same whatever other notions of a
power are in scope.
-/

namespace DiskFleet.Number

/-- The power `2 ^ n`. -/
def twoPow (n : Nat) : Nat := Nat.pow 2 n

/-- The power `10 ^ n`. -/
def tenPow (n : Nat) : Nat := Nat.pow 10 n

theorem twoPow_pos (n : Nat) : 0 < twoPow n := Nat.pow_pos (by decide)

end DiskFleet.Number
