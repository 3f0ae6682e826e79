/-!
# Decimal numerals

Digits, the digits of a number, and the decimal numerals that a document is written with. A numeral
keeps the digits it is written with, so whoever reads it can decide what number it stands for.
-/

namespace WalletWatch

abbrev Digit := Fin 10

namespace Digit

def ofChar? (c : Char) : Option Digit :=
  if h : 48 ≤ c.toNat ∧ c.toNat - 48 < 10 then some ⟨c.toNat - 48, h.2⟩ else none

def toChar (d : Digit) : Char :=
  Char.ofNat (48 + d.val)

/-- The number that a list of digits writes, continuing from `start`. -/
def number (start : Nat) (ds : List Digit) : Nat :=
  ds.foldl (fun n d => 10 * n + d.val) start

end Digit

/-- The last `count` decimal digits of a number, leading zeros included. -/
def digitsOf : (count : Nat) → (n : Nat) → List Digit
  | 0, _ => []
  | count + 1, n => digitsOf count (n / 10) ++ [⟨n % 10, Nat.mod_lt n (by decide)⟩]

/-- How many digits the shortest decimal text of a number has; zero has one. -/
def digitCount (n : Nat) : Nat :=
  if n < 10 then 1 else digitCount (n / 10) + 1
termination_by n
decreasing_by omega

/-- A decimal numeral as it is written: sign, whole part, digits after the point, exponent. The
whole part has no leading zeros, so a number stands for it. -/
structure Numeral where
  negative : Bool
  whole : Nat
  fraction : List Digit
  exponent : Option Int
deriving DecidableEq, Repr

end WalletWatch
