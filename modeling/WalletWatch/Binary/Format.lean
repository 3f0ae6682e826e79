import WalletWatch.Numeral.Power
/-!
# Binary floating-point numbers

A number of a binary format is a sign and a significand times a power of two, or an infinity, or no
number at all. Every value has exactly one representation here: `Format.Canonical` says which pairs
of significand and exponent a format writes, and a finite number carries the proof. `ofRatio` rounds
an exact quotient to the nearest number of a format, a half to the even significand.
-/

namespace WalletWatch.Binary

/-- A format: how many bits a significand has, and the exponents of the least and of the greatest
unit that a significand counts. -/
structure Format where
  precision : Nat
  low : Int
  high : Int
  precision_pos : 0 < precision := by decide
  low_le_high : low ≤ high := by decide

def single : Format := { precision := 24, low := -149, high := 104 }

def double : Format := { precision := 53, low := -1074, high := 971 }

namespace Format

/-- The pairs that a format writes: the significand fits, and it has its full length unless the
unit is the least one. -/
def Canonical (f : Format) (significand : Nat) (exponent : Int) : Prop :=
  significand < twoPow f.precision ∧ f.low ≤ exponent ∧ exponent ≤ f.high ∧
    (twoPow (f.precision - 1) ≤ significand ∨ exponent = f.low)

instance (f : Format) (significand : Nat) (exponent : Int) :
    Decidable (f.Canonical significand exponent) :=
  inferInstanceAs (Decidable (_ ∧ _ ∧ _ ∧ (_ ∨ _)))

theorem canonical_zero (f : Format) : f.Canonical 0 f.low :=
  ⟨twoPow_pos _, Int.le_refl _, f.low_le_high, Or.inr rfl⟩

end Format

/-- A significand times a power of two, as a quotient. -/
def quotient (significand : Nat) (exponent : Int) : Nat × Nat :=
  (significand * twoPow exponent.toNat, twoPow (-exponent).toNat)

/-- A number of a format. -/
inductive Number (f : Format)
  | finite (negative : Bool) (significand : Nat) (exponent : Int)
      (canonical : f.Canonical significand exponent)
  | infinite (negative : Bool)
  | nan
deriving DecidableEq

abbrev Single := Number single

abbrev Double := Number double

namespace Number

variable {f : Format}

def zero (f : Format) (negative : Bool) : Number f :=
  .finite negative 0 f.low f.canonical_zero

def isZero : Number f → Bool
  | .finite _ significand _ _ => significand == 0
  | _ => false

def isInfinite : Number f → Bool
  | .infinite _ => true
  | _ => false

/-- Equality of values: the two zeros are equal, and what is no number equals nothing. -/
def same : Number f → Number f → Bool
  | .finite n₁ m₁ e₁ _, .finite n₂ m₂ e₂ _ => m₁ == m₂ && e₁ == e₂ && (n₁ == n₂ || m₁ == 0)
  | .infinite n₁, .infinite n₂ => n₁ == n₂
  | _, _ => false

end Number

/-! ## Rounding -/

/-- The whole number nearest to a quotient; of two equally near, the even one. -/
def roundHalfEven (num den : Nat) : Nat :=
  if den < 2 * (num % den) ∨ (den = 2 * (num % den) ∧ num / den % 2 = 1) then num / den + 1
  else num / den

/-- Whether a quotient is at least a power of two. -/
def atLeastPower (num den : Nat) (power : Int) : Bool :=
  den * twoPow power.toNat ≤ num * twoPow (-power).toNat

/-- The exponent of the greatest power of two that is at most a positive quotient. -/
def floorLog2 (num den : Nat) : Int :=
  let power : Int := (Nat.log2 num : Int) - Nat.log2 den
  if atLeastPower num den power then power else power - 1

namespace Number

/-- The number with a significand and an exponent, or an infinity if the format has none. -/
def ofParts (f : Format) (negative : Bool) (significand : Nat) (exponent : Int) : Number f :=
  if h : f.Canonical significand exponent then .finite negative significand exponent h
  else .infinite negative

/-- The exponent of the unit in which a format counts a positive quotient. -/
def unitExponent (f : Format) (num den : Nat) : Int :=
  max f.low (floorLog2 num den + 1 - f.precision)

/-- The number nearest to a quotient with a sign. A significand that rounds up to the next power of
two is counted in the next unit. -/
def ofRatio (f : Format) (negative : Bool) (num den : Nat) : Number f :=
  if num = 0 then zero f negative
  else
    let exponent := unitExponent f num den
    let significand := roundHalfEven (num * twoPow (-exponent).toNat) (den * twoPow exponent.toNat)
    if significand = twoPow f.precision then
      ofParts f negative (twoPow (f.precision - 1)) (exponent + 1)
    else ofParts f negative significand exponent

def convert (g : Format) : Number f → Number g
  | .finite negative significand exponent _ =>
    ofRatio g negative (quotient significand exponent).1 (quotient significand exponent).2
  | .infinite negative => .infinite negative
  | .nan => .nan

end Number

end WalletWatch.Binary
