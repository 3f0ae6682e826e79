/-!
# Powers of two and ten

The scales of binary and of decimal numerals.
-/

namespace WalletWatch

def twoPow (n : Nat) : Nat := Nat.pow 2 n

def tenPow (n : Nat) : Nat := Nat.pow 10 n

theorem twoPow_pos (n : Nat) : 0 < twoPow n := Nat.two_pow_pos n

theorem tenPow_pos (n : Nat) : 0 < tenPow n := Nat.pow_pos (by decide)

end WalletWatch
