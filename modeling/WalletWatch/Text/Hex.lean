/-!
# Hexadecimal digits

Digits are written in one case, as the format at hand asks, and read in both. The same digits serve
for numbers in a smaller base.
-/

namespace WalletWatch.Text

/-- The digit of a number below sixteen, in lower case. -/
def hexLower (n : Nat) : Char :=
  if n < 10 then Char.ofNat (48 + n) else Char.ofNat (87 + n)

/-- The digit of a number below sixteen, in upper case. -/
def hexUpper (n : Nat) : Char :=
  if n < 10 then Char.ofNat (48 + n) else Char.ofNat (55 + n)

def hexValue? (c : Char) : Option Nat :=
  if '0' ≤ c ∧ c ≤ '9' then some (c.toNat - 48)
  else if 'a' ≤ c ∧ c ≤ 'f' then some (c.toNat - 87)
  else if 'A' ≤ c ∧ c ≤ 'F' then some (c.toNat - 55)
  else none

def hexByte? (high low : Char) : Option UInt8 :=
  match hexValue? high, hexValue? low with
  | some h, some l => some (UInt8.ofNat (16 * h + l))
  | _, _ => none

/-- The number that digits write in a base of at most sixteen. No digits write zero. -/
def numberIn? (base : Nat) (digits : List Char) : Option Nat :=
  (digits.mapM fun c => (hexValue? c).filter (· < base)).map
    (·.foldl (fun n d => base * n + d) 0)

theorem hexValue?_hexLower {n : Nat} (h : n < 16) : hexValue? (hexLower n) = some n := by
  have : ∀ k : Fin 16, hexValue? (hexLower k) = some k.val := by decide
  exact this ⟨n, h⟩

theorem hexValue?_hexUpper {n : Nat} (h : n < 16) : hexValue? (hexUpper n) = some n := by
  have : ∀ k : Fin 16, hexValue? (hexUpper k) = some k.val := by decide
  exact this ⟨n, h⟩

end WalletWatch.Text
