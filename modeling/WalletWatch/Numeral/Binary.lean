import WalletWatch.Binary.Arithmetic
import WalletWatch.Binary.Shortest
/-!
# Numerals and binary numbers

How a numeral is read as a 32-bit number and how one is written.

A whole numeral within 64 bits is rounded to 32 bits directly. Any other is read as a 64-bit number
first: a significand of at most 64 bits is taken from the left, the digits that do not fit only
scale it, and one product or quotient with a power of ten follows. A numeral outside the 64-bit
numbers is not read at all; one that is only outside the 32-bit numbers becomes an infinity.

A number is written with its shortest decimal, positionally or with an exponent as a `Layout` says.
-/

namespace WalletWatch

open Binary

namespace Numeral

/-! ## Reading -/

/-- The first number that does not fit 64 bits. -/
def significandLimit : Nat := twoPow 64

/-- The longest start of a whole number that fits 64 bits, and how many digits were cut off. -/
def fitWhole (whole : Nat) : Nat × Nat :=
  if whole < significandLimit then (whole, 0)
  else
    let cut := fitWhole (whole / 10)
    (cut.1, cut.2 + 1)
termination_by whole
decreasing_by
  have := twoPow_pos 64
  simp only [significandLimit] at *
  omega

/-- Appends digits to a significand up to the first one that does not fit, and counts them. -/
def extend (significand : Nat) : List Digit → Nat × Nat
  | [] => (significand, 0)
  | d :: ds =>
    if 10 * significand + d.val < significandLimit then
      let longer := extend (10 * significand + d.val) ds
      (longer.1, longer.2 + 1)
    else (significand, 0)

/-- The significand and the power of ten that a numeral is read with. -/
def scientific (n : Numeral) : Nat × Int :=
  let whole := fitWhole n.whole
  let all := extend whole.1 n.fraction
  (all.1, (whole.2 : Int) - all.2 + n.exponent.getD 0)

/-- The greatest power of ten that is a 64-bit number. -/
def greatestPower : Nat := 308

/-- A power of ten as a 64-bit number. -/
def tenTo (power : Nat) : Double :=
  .ofRatio double false (tenPow power) 1

/-- A 64-bit number multiplied by a power of ten, or nothing if the result is too great. -/
def scaleUp (size : Double) (power : Nat) : Option Double :=
  if power ≤ greatestPower then
    let scaled := size.product (tenTo power)
    if scaled.isInfinite then none else some scaled
  else if size.isZero then some size
  else none

/-- A 64-bit number divided by a power of ten, in steps of the greatest power. -/
def scaleDown (size : Double) (power : Nat) : Double :=
  if power ≤ greatestPower then size.ratio (tenTo power)
  else if size.isZero then size
  else scaleDown (size.ratio (tenTo greatestPower)) (power - greatestPower)
termination_by power
decreasing_by simp only [greatestPower] at *; omega

/-- The size of a numeral as a 64-bit number. -/
def size? (n : Numeral) : Option Double :=
  let size : Double := .ofRatio double false n.scientific.1 1
  let power := n.scientific.2
  if 0 ≤ power then scaleUp size power.toNat else some (scaleDown size (-power).toNat)

def double? (n : Numeral) : Option Double :=
  n.size?.map fun size => if n.negative then size.neg else size

/-- Whether a numeral is a whole number within 64 bits, a sign included if it has one. -/
def isWord (n : Numeral) : Bool :=
  n.fraction.isEmpty && n.exponent.isNone &&
    if n.negative then n.whole ≤ twoPow 63 else n.whole < significandLimit

def single? (n : Numeral) : Option Single :=
  if n.isWord then some (.ofRatio single n.negative n.whole 1)
  else n.double?.map (.convert single)

/-! ## Writing -/

/-- Where positional notation ends: the least and the greatest exponent of a first digit that is
written without an exponent. -/
structure Layout where
  least : Int
  greatest : Int

/-- The numeral of a decimal. Positional notation has at least one digit after the point; notation
with an exponent has one digit before it. -/
def ofDecimal (layout : Layout) (negative : Bool) (d : Decimal) : Numeral :=
  let count := digitCount d.units
  let first : Int := d.power + count - 1
  if layout.least ≤ first ∧ first ≤ layout.greatest then
    if 0 ≤ d.power then ⟨negative, d.units * tenPow d.power.toNat, [0], none⟩
    else
      let places := (-d.power).toNat
      ⟨negative, d.units / tenPow places, digitsOf places d.units, none⟩
  else
    ⟨negative, d.units / tenPow (count - 1), digitsOf (count - 1) d.units, some first⟩

/-- The numeral of a 32-bit number; an infinity has none. -/
def ofSingle? (layout : Layout) : Single → Option Numeral
  | .finite negative significand exponent _ =>
    if significand = 0 then some ⟨negative, 0, [0], none⟩
    else some (ofDecimal layout negative (single.shortest significand exponent))
  | _ => none

end Numeral

end WalletWatch
