import WalletWatch.Binary.Format
import WalletWatch.Numeral.Basic
/-!
# Shortest decimals

The decimal with the fewest digits that a binary number is the nearest number to. The reals that
round to a number form an interval around it, ends included when the significand is even; the
search goes from coarse decimal grids to fine ones and takes the first grid with a point in the
interval. On that grid the number has a neighbour below and one above: of two in the interval the
nearer one is taken, and of two equally near ones the even one.
-/

namespace WalletWatch.Binary

/-- A decimal: a whole number of units, each a power of ten. -/
structure Decimal where
  units : Nat
  power : Int
deriving DecidableEq, Repr

/-- The interval of reals that round to a positive number, in quarters of its unit. The gap below a
power of two is half as wide as the gap above it. -/
structure Neighbourhood where
  lower : Nat
  centre : Nat
  upper : Nat
  /-- Whether the ends belong to the interval. -/
  closed : Bool
  /-- The exponent of a quarter of the unit. -/
  quarter : Int

/-- The interval of a positive finite number. -/
def Format.neighbourhood (f : Format) (significand : Nat) (exponent : Int) : Neighbourhood where
  lower := 4 * significand -
    (if significand = twoPow (f.precision - 1) ∧ f.low < exponent then 1 else 2)
  centre := 4 * significand
  upper := 4 * significand + 2
  closed := significand % 2 == 0
  quarter := exponent - 2

namespace Neighbourhood

/-- What a count of quarters is multiplied with to be compared on the grid of a power of ten. -/
def factor (n : Neighbourhood) (power : Int) : Nat :=
  twoPow n.quarter.toNat * tenPow (-power).toNat

/-- What a count of grid units is multiplied with to be compared with quarters. -/
def gridFactor (n : Neighbourhood) (power : Int) : Nat :=
  twoPow (-n.quarter).toNat * tenPow power.toNat

/-- Whether a grid point lies in the interval. -/
def contains (n : Neighbourhood) (power : Int) (units : Nat) : Bool :=
  let point := units * n.gridFactor power
  let lower := n.lower * n.factor power
  let upper := n.upper * n.factor power
  if n.closed then lower ≤ point && point ≤ upper else lower < point && point < upper

/-- The neighbour of the centre on a grid, if one is in the interval. -/
def nearest? (n : Neighbourhood) (power : Int) : Option Nat :=
  let centre := n.centre * n.factor power
  let step := n.gridFactor power
  let below := centre / step
  match n.contains power below, n.contains power (below + 1) with
  | false, false => none
  | true, false => some below
  | false, true => some (below + 1)
  | true, true =>
    let down := centre % step
    let up := step - down
    if down < up ∨ (down = up ∧ below % 2 = 0) then some below else some (below + 1)

/-- The first point found on the grids from one power of ten downwards. If the budget of grids runs
out, the finest one decides. -/
def search (n : Neighbourhood) : (budget : Nat) → (power : Int) → Decimal
  | 0, power => ⟨n.centre * n.factor power / n.gridFactor power, power⟩
  | budget + 1, power =>
    match n.nearest? power with
    | some units => ⟨units, power⟩
    | none => search n budget (power - 1)

end Neighbourhood

/-- A power of ten that is at least a positive quotient, and at most a hundred times it. -/
def ceilPower (num den : Nat) : Int :=
  if den ≤ num then digitCount (num / den) else 1 - (digitCount (den / num) : Int)

/-- Enough significant decimal digits to tell the numbers of a format apart. -/
def Format.decimalDigits (f : Format) : Nat :=
  2 + f.precision * 30103 / 100000

example : single.decimalDigits = 9 ∧ double.decimalDigits = 17 := by decide

/-- The shortest decimal of a positive finite number. -/
def Format.shortest (f : Format) (significand : Nat) (exponent : Int) : Decimal :=
  let q := quotient significand exponent
  (f.neighbourhood significand exponent).search (f.decimalDigits + 1) (ceilPower q.1 q.2)

end WalletWatch.Binary
